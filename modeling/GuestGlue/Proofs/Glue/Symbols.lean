/-
The C names of a session.  Any number of emitters share one table, in any order;
each reports the names it introduced.  No name is reported twice or was there at
the start, and the table holds the names of the start and the reported ones.
-/

import GuestGlue.Proofs.Glue.Rulings
import Mathlib.Data.List.Basic

namespace GuestGlue

/-! ### Tables that take names -/

namespace CSource.SymbolTable

theorem contains_iff {table : SymbolTable} {name : String} :
    table.contains name = true ↔ name ∈ table.names :=
  List.contains_iff_mem

theorem names_add {table : SymbolTable} {name : String} (fresh : table.contains name = false) :
    (table.add name).names = name :: table.names := by
  simp only [add, fresh, Bool.false_eq_true, if_false]

structure Takes (before : SymbolTable) (taken : List String) (after : SymbolTable) : Prop where
  names : after.names = taken.reverse ++ before.names
  distinct : taken.Nodup
  fresh : ∀ name ∈ taken, name ∉ before.names

namespace Takes

theorem nothing (table : SymbolTable) : Takes table [] table :=
  ⟨rfl, List.nodup_nil, fun _ member => nomatch member⟩

theorem single {table : SymbolTable} {name : String} (fresh : table.contains name = false) :
    Takes table [name] (table.add name) where
  names := names_add fresh
  distinct := List.pairwise_singleton _ name
  fresh := by
    intro other member present
    rw [List.mem_singleton.mp member, ← contains_iff, fresh] at present
    cases present

theorem append {before middle after : SymbolTable} {first second : List String}
    (earlier : Takes before first middle) (later : Takes middle second after) :
    Takes before (first ++ second) after where
  names := by
    rw [later.names, earlier.names, List.reverse_append, List.append_assoc]
  distinct := by
    refine List.nodup_append.mpr ⟨earlier.distinct, later.distinct, ?_⟩
    intro left inFirst right inSecond same
    refine later.fresh right inSecond ?_
    rw [earlier.names, ← same]
    exact List.mem_append_left _ (List.mem_reverse.mpr inFirst)
  fresh := by
    intro name member present
    rcases List.mem_append.mp member with inFirst | inSecond
    · exact earlier.fresh name inFirst present
    · refine later.fresh name inSecond ?_
      rw [earlier.names]
      exact List.mem_append_right _ present

theorem pair {table : SymbolTable} {name companion : String} (different : companion ≠ name)
    (fresh : table.contains name = false) (companionFresh : table.contains companion = false) :
    Takes table [name, companion] ((table.add name).add companion) := by
  have stillFresh : (table.add name).contains companion = false := by
    rw [Bool.eq_false_iff, ne_eq, contains_iff, names_add fresh, List.mem_cons, not_or]
    refine ⟨different, fun present => ?_⟩
    rw [← contains_iff, companionFresh] at present
    cases present
  exact (single fresh).append (single stillFresh)

theorem mem_names {before after : SymbolTable} {taken : List String}
    (takes : Takes before taken after) (name : String) :
    name ∈ after.names ↔ name ∈ before.names ++ taken := by
  rw [takes.names, List.mem_append, List.mem_append, List.mem_reverse, or_comm]

theorem perm {before after : SymbolTable} {taken : List String}
    (takes : Takes before taken after) : after.names.Perm (before.names ++ taken) := by
  rw [takes.names]
  exact ((List.reverse_perm taken).append_right _).trans List.perm_append_comm

theorem nodup {before after : SymbolTable} {taken : List String}
    (takes : Takes before taken after) (distinct : before.names.Nodup) :
    (before.names ++ taken).Nodup := by
  refine List.nodup_append.mpr ⟨distinct, takes.distinct, ?_⟩
  intro left present right member same
  exact takes.fresh right member (same ▸ present)

theorem unique {before after other : SymbolTable} {taken : List String}
    (takes : Takes before taken after) (takesOther : Takes before taken other) :
    after = other := by
  have names : after.names = other.names := takes.names.trans takesOther.names.symm
  cases after
  cases other
  exact congrArg SymbolTable.mk names

theorem eq_of_nil {before after : SymbolTable} (takes : Takes before [] after) :
    after = before :=
  takes.unique (nothing before)

end Takes

end CSource.SymbolTable

/-! ### The names of bindings -/

def ImportBinding.cNames (binding : ImportBinding) : List String :=
  [binding.functionName, Glue.rawName binding.functionName]

def ExportBinding.cNames (binding : ExportBinding) : List String :=
  [binding.exportName, Glue.handleName binding.exportName]

theorem ImportBinding.cNames_congr {first second : ImportBinding}
    (same : first.functionName = second.functionName) : first.cNames = second.cNames := by
  rw [ImportBinding.cNames, ImportBinding.cNames, same]

theorem ExportBinding.cNames_congr {first second : ExportBinding}
    (same : first.exportName = second.exportName) : first.cNames = second.cNames := by
  rw [ExportBinding.cNames, ExportBinding.cNames, same]

namespace Glue

open CSource SymbolTable

theorem rawName_ne (name : String) : rawName name ≠ name := by
  intro same
  have lengths := congrArg String.length same
  simp [rawName, String.length_append] at lengths

theorem handleName_ne (name : String) : handleName name ≠ name := by
  intro same
  have lengths := congrArg String.length same
  simp [handleName, String.length_append] at lengths

/-! ### Bindings, one after another -/

def ImportRuling.cNames (ruling : ImportRuling) : List String :=
  ruling.forwarded?.toList.flatMap ImportBinding.cNames

def ExportRuling.cNames (ruling : ExportRuling) : List String :=
  ruling.wrapped?.toList.flatMap ExportBinding.cNames

theorem ruleImport_takes (symbols : SymbolTable) (binding : ImportBinding) :
    Takes symbols (ruleImport symbols binding).cNames
      (symbolsAfterImport symbols (ruleImport symbols binding)) := by
  cases checked : checkImport symbols binding with
  | error diagnostic =>
      simpa [ruleImport, symbolsAfterImport, ImportRuling.cNames, ImportRuling.forwarded?, checked]
        using Takes.nothing symbols
  | ok returned =>
      obtain ⟨_, free⟩ := checkImport_eq_ok_iff.mp checked
      simpa [ruleImport, symbolsAfterImport, ImportRuling.cNames, ImportRuling.forwarded?,
        ImportBinding.cNames, checked]
        using Takes.pair (rawName_ne binding.functionName) free.1 free.2

theorem ruleExport_takes (symbols : SymbolTable) (binding : ExportBinding) :
    Takes symbols (ruleExport symbols binding).cNames
      (symbolsAfterExport symbols (ruleExport symbols binding)) := by
  cases checked : checkExport symbols binding with
  | error diagnostic =>
      simpa [ruleExport, symbolsAfterExport, ExportRuling.cNames, ExportRuling.wrapped?, checked]
        using Takes.nothing symbols
  | ok =>
      obtain ⟨_, free⟩ := checkExport_eq_ok_iff.mp checked
      simpa [ruleExport, symbolsAfterExport, ExportRuling.cNames, ExportRuling.wrapped?,
        ExportBinding.cNames, checked]
        using Takes.pair (handleName_ne binding.exportName) free.1 free.2

theorem ruleImports_takes (symbols : SymbolTable) (bindings : List ImportBinding) :
    Takes symbols ((ruleImports symbols bindings).1.flatMap ImportRuling.cNames)
      (ruleImports symbols bindings).2 := by
  induction bindings generalizing symbols with
  | nil => exact Takes.nothing symbols
  | cons binding rest ih => exact (ruleImport_takes symbols binding).append (ih _)

theorem ruleExports_takes (symbols : SymbolTable) (bindings : List ExportBinding) :
    Takes symbols ((ruleExports symbols bindings).1.flatMap ExportRuling.cNames)
      (ruleExports symbols bindings).2 := by
  induction bindings generalizing symbols with
  | nil => exact Takes.nothing symbols
  | cons binding rest ih => exact (ruleExport_takes symbols binding).append (ih _)

theorem Refusal.ruling_cNames (refusal : Refusal) (bindings : List ImportBinding) :
    (bindings.map refusal.ruling).flatMap ImportRuling.cNames = [] := by
  simp [List.flatMap_eq_nil_iff, Refusal.ruling, ImportRuling.cNames, ImportRuling.forwarded?]

/-- A module without a file takes no names; the others take those of their bindings. -/
theorem ruleGroups_takes (options : Options) (taken : List String) (symbols : SymbolTable)
    (groups : List Group) :
    Takes symbols
      (((ruleGroups options taken symbols groups).1.flatMap (·.rulings)).flatMap
        ImportRuling.cNames)
      (ruleGroups options taken symbols groups).2 := by
  induction groups generalizing taken symbols with
  | nil => exact Takes.nothing symbols
  | cons group rest ih =>
      rw [ruleGroups]
      split
      · next refusal _ =>
        rw [List.flatMap_cons, List.flatMap_append, refusal.ruling_cNames]
        exact ih taken symbols
      · rw [List.flatMap_cons, List.flatMap_append]
        exact (ruleImports_takes symbols group.imports).append (ih _ _)

/-! ### Emitters -/

theorem planImports_takes (options : Options) (symbols : SymbolTable)
    (bindings : List ImportBinding) :
    Takes symbols ((planImports options symbols bindings).forwarded.flatMap ImportBinding.cNames)
      (planImports options symbols bindings).symbols := by
  have takes := ruleGroups_takes options (takenAtFirst options) symbols (groups bindings)
  rw [ImportPlan.forwarded, List.filterMap_eq_flatMap_toList, List.flatMap_assoc]
  exact takes

theorem planExports_takes (symbols : SymbolTable) (bindings : List ExportBinding) :
    Takes symbols ((planExports symbols bindings).wrapped.flatMap ExportBinding.cNames)
      (planExports symbols bindings).symbols := by
  have takes := ruleExports_takes symbols bindings
  rw [ExportPlan.wrapped, List.filterMap_eq_flatMap_toList, List.flatMap_assoc]
  exact takes

/-! ### Sessions -/

inductive Emission where
  | define (name : String)
  | imports (options : Options) (bindings : List ImportBinding)
  | exports (bindings : List ExportBinding)

namespace Emission

def introduced (symbols : SymbolTable) : Emission → List String
  | .define name => if (symbols.define name).1 then [name] else []
  | .imports options bindings =>
      (planImports options symbols bindings).forwarded.flatMap ImportBinding.cNames
  | .exports bindings => (planExports symbols bindings).wrapped.flatMap ExportBinding.cNames

def symbolsAfter (symbols : SymbolTable) : Emission → SymbolTable
  | .define name => (symbols.define name).2
  | .imports options bindings => (planImports options symbols bindings).symbols
  | .exports bindings => (planExports symbols bindings).symbols

theorem takes (symbols : SymbolTable) (emission : Emission) :
    Takes symbols (emission.introduced symbols) (emission.symbolsAfter symbols) := by
  cases emission with
  | define name =>
      cases present : symbols.contains name with
      | false => simpa [introduced, symbolsAfter, SymbolTable.define, present] using Takes.single present
      | true =>
          simpa [introduced, symbolsAfter, SymbolTable.define, SymbolTable.add, present]
            using Takes.nothing symbols
  | imports options bindings => exact planImports_takes options symbols bindings
  | exports bindings => exact planExports_takes symbols bindings

end Emission

structure Session where
  introduced : List String
  symbols : SymbolTable

def runSession (symbols : SymbolTable) : List Emission → Session
  | [] => ⟨[], symbols⟩
  | emission :: rest =>
      let later := runSession (emission.symbolsAfter symbols) rest
      ⟨emission.introduced symbols ++ later.introduced, later.symbols⟩

theorem runSession_takes (symbols : SymbolTable) (emissions : List Emission) :
    Takes symbols (runSession symbols emissions).introduced (runSession symbols emissions).symbols := by
  induction emissions generalizing symbols with
  | nil => exact Takes.nothing symbols
  | cons emission rest ih => exact (emission.takes symbols).append (ih _)

/-- The names of everything that one run bridges are taken from the runtime's table. -/
theorem generate_takes (options : Options) (boilerplate : String) (exports : List ExportBinding)
    (imports : List ImportBinding) :
    let output := generate options boilerplate exports imports
    ∃ symbols, Takes .runtime (output.imports.flatMap ImportBinding.cNames ++
      output.exports.flatMap ExportBinding.cNames) symbols := by
  have importsTake := planImports_takes options .runtime imports
  have exportsTake := planExports_takes (planImports options .runtime imports).symbols exports
  have withoutExports := importsTake.append (Takes.nothing _)
  rcases generate_cases options boilerplate exports imports with
    ⟨_, ran⟩ | ⟨_, _, ran⟩ | ⟨_, _, _, _, ran⟩
  · rw [ran]
    exact ⟨_, withoutExports⟩
  · rw [ran]
    exact ⟨_, withoutExports⟩
  · rw [ran]
    exact ⟨_, importsTake.append exportsTake⟩

/-- Whatever mix of emitters shares a table, no C name is introduced twice or
redefines a name of the start, and the table holds these names and no others. A
request none of whose bindings is accepted leaves it as it is. -/
theorem session_names_distinct (symbols : SymbolTable)
    (seed : symbols = .empty ∨ symbols = .runtime) (emissions : List Emission) :
    let session := runSession symbols emissions
    (symbols.names ++ session.introduced).Nodup ∧
      (∀ name, session.symbols.contains name = true ↔ name ∈ symbols.names ++ session.introduced) ∧
      (∀ emission : Emission, emission.introduced session.symbols = [] →
        emission.symbolsAfter session.symbols = session.symbols) ∧
      ∀ options boilerplate exports imports,
        let output := generate options boilerplate exports imports
        (runtimeSymbols ++ (output.imports.flatMap ImportBinding.cNames ++
          output.exports.flatMap ExportBinding.cNames)).Nodup := by
  have distinct : symbols.names.Nodup := by
    rcases seed with rfl | rfl
    · exact List.nodup_nil
    · decide
  have takes := runSession_takes symbols emissions
  refine ⟨takes.nodup distinct, ?_, ?_, ?_⟩
  · intro name
    rw [contains_iff, takes.mem_names]
  · intro emission nothing
    have emissionTakes := emission.takes (runSession symbols emissions).symbols
    rw [nothing] at emissionTakes
    exact emissionTakes.eq_of_nil
  · intro options boilerplate exports imports
    obtain ⟨_, bridged⟩ := generate_takes options boilerplate exports imports
    exact bridged.nodup (by decide)

/-- A companion that is taken first keeps its name out, and no request after it fits. -/
theorem session_names_distinct_companions :
    let method : MethodSignature := ⟨"App.dll", "", "App", "a", [], .void⟩
    let session := runSession .runtime [
      .define "a_import",
      .imports .standard [⟨method, "host", none⟩],
      .exports [⟨method, some "glue_method_b"⟩, ⟨method, some "b"⟩]]
    session.introduced = ["a_import", "glue_method_b", "glue_method_glue_method_b"] ∧
      (runtimeSymbols ++ session.introduced).Nodup := by
  exact ⟨by decide +kernel, (session_names_distinct .runtime (Or.inr rfl) _).1⟩

end Glue

end GuestGlue
