/-
Exports of libraries against those of the root.  A scan lists what references lead to
before the root, whatever the shape of the graph, and a run of the glue rules on the
exports in this order.  So where both export one name, it is never the root that gets
the wrapper, even if another binding keeps the library from it as well.
-/

import GuestGlue.Proofs.Metadata.Scan
import GuestGlue.Proofs.Glue.Precedence

namespace GuestGlue

open Glue

/-! ### Later exports -/

section Exports

variable (table : CSource.SymbolTable) (first later : List ExportBinding)

/-- The rulings on two lists of exports, one behind the other. -/
theorem planExports_append :
    ∃ earlier behind, (planExports table (first ++ later)).rulings = earlier ++ behind ∧
      earlier.map (·.binding) = first ∧ behind.map (·.binding) = later :=
  List.map_eq_append_iff.mp (planExports_bindings table (first ++ later))

variable {table first later}

theorem planExports_later_rejected {earlier behind : List ExportRuling} {ruling : ExportRuling}
    {binding : ExportBinding}
    (rulings : (planExports table (first ++ later)).rulings = earlier ++ behind)
    (ruledFirst : earlier.map (·.binding) = first) (member : ruling ∈ behind)
    (wrappable : Wrappable ruling.binding) (isFirst : binding ∈ first)
    (alsoWrappable : Wrappable binding) (same : binding.exportName = ruling.binding.exportName) :
    ∃ diagnostic, ruling.diagnostic? = some diagnostic ∧ diagnostic.code = .duplicateSymbol ∧
      diagnostic.symbol = ruling.binding.method.fullName := by
  obtain ⟨sooner, after, rfl⟩ := List.append_of_mem member
  rw [← ruledFirst] at isFirst
  obtain ⟨other, ruledEarlier, rfl⟩ := List.mem_map.mp isFirst
  have settles := ruleExports_settles table (first ++ later)
  have split : (ruleExports table (first ++ later)).1.map (·.verdict) =
      (earlier ++ sooner).map (·.verdict) ++ ruling.verdict :: after.map (·.verdict) := by
    rw [← List.map_cons, ← List.map_append, List.append_assoc]
    exact congrArg (List.map (·.verdict)) rulings
  have isBefore : other.verdict ∈ (earlier ++ sooner).map (·.verdict) :=
    List.mem_map_of_mem (List.mem_append_left _ ruledEarlier)
  exact settles.later_rejected split isBefore alsoWrappable wrappable
    (ExportBinding.cNames_congr same) (List.cons_ne_nil _ _)

end Exports

/-! ### What was scanned -/

variable {ε : Type} {references : NameSet} {read : String → Except ε Module} {root : Module}
  {result : ScanResult}

/-- How a run rules on the exports that a scan found: first on those of the libraries,
then on the root's own. -/
structure LibraryFirst (references : NameSet) (read : String → Except ε Module) (root : Module)
    (reached : List Reached) (result : ScanResult) (options : Options) (boilerplate : String)
    (library own : List ExportRuling) : Prop where
  rulings : (planExports (planImports options .runtime result.imports).symbols
    result.exports).rulings = library ++ own
  libraryExports : library.map (·.binding) = reached.flatMap (·.module.exports)
  rootExports : own.map (·.binding) = root.exports
  wrapped : (generate options boilerplate result.exports result.imports).exports =
    if FileName.Same options.exportsFileName options.reservedFileName then []
    else library.filterMap (·.wrapped?) ++ own.filterMap (·.wrapped?)
  rejected : ∀ ruling ∈ own, Wrappable ruling.binding →
    ∀ name module binding, ReachableFrom references read root.name root.references name →
      read name = .ok module → binding ∈ module.exports → Wrappable binding →
      binding.exportName = ruling.binding.exportName →
        ruling.wrapped? = none ∧
          ∃ diagnostic ∈ (generate options boilerplate result.exports result.imports).diagnostics,
            ruling.diagnostic? = some diagnostic ∧ diagnostic.code = .duplicateSymbol ∧
              diagnostic.symbol = ruling.binding.method.fullName

/-- Whatever a scan found, no export of the root takes a name from a library. -/
theorem generate_library_first (scanned : scan references read root = .ok result) :
    ∃ reached : List Reached,
      (∀ name, name ∈ reached.map (·.name) ↔
        ReachableFrom references read root.name root.references name) ∧
      (∀ entry ∈ reached, read entry.name = .ok entry.module) ∧
      ∀ options boilerplate, ∃ library own,
        LibraryFirst references read root reached result options boilerplate library own := by
  obtain ⟨reached, after, descends, rfl⟩ := scan_eq_ok_iff.mp scanned
  refine ⟨reached, descends.mem_iff_reachable, descends.read_eq, fun options boilerplate => ?_⟩
  have exports : (ScanResult.ofModules (reached.map (·.module)) root).exports =
      reached.flatMap (·.module.exports) ++ root.exports := by
    rw [ScanResult.ofModules, List.flatMap_append, List.flatMap_map, List.flatMap_singleton]
  generalize ScanResult.ofModules (reached.map (·.module)) root = result at exports scanned ⊢
  obtain ⟨library, own, rulings, libraryExports, rootExports⟩ :=
    planExports_append (planImports options .runtime result.imports).symbols
      (reached.flatMap (·.module.exports)) root.exports
  rw [← exports] at rulings
  refine ⟨library, own, rulings, libraryExports, rootExports, ?_, ?_⟩
  · rw [generate_exports, ExportPlan.wrapped, rulings, List.filterMap_append]
  · intro ruling member wrappable name module binding isReached found exported alsoWrappable same
    obtain ⟨entry, listed, rfl⟩ := List.mem_map.mp ((descends.mem_iff_reachable name).mpr isReached)
    have sameModule := (descends.read_eq entry listed).symm.trans found
    cases sameModule
    have isFirst : binding ∈ reached.flatMap (·.module.exports) :=
      List.mem_flatMap.mpr ⟨entry, listed, exported⟩
    obtain ⟨diagnostic, reported, isDuplicate⟩ := planExports_later_rejected
      (exports ▸ rulings) libraryExports member wrappable isFirst alsoWrappable same
    have dropped := (ExportRuling.decides.dropped_iff ruling).mpr
      (Option.ne_none_iff_exists'.mpr ⟨diagnostic, reported⟩)
    refine ⟨dropped, diagnostic, ?_, reported, isDuplicate⟩
    have isListed : diagnostic ∈ (planExports (planImports options .runtime result.imports).symbols
        result.exports).diagnostics := by
      refine List.mem_filterMap.mpr ⟨ruling, ?_, reported⟩
      rw [rulings]
      exact List.mem_append_right _ member
    rw [generate_reports]
    exact List.mem_append_right _ (List.mem_append_left _ isListed)

/-- A library refers back to the root, both export one name, and an import of the root
keeps it from both. -/
theorem generate_library_first_cycle :
    let exporting : MethodDef := .withMarker (.named "Run" .void) (.exported none)
    let importing : MethodDef := .withMarker (.named "Call" .void) (.imported "host" (some "Run"))
    let library : Module := ⟨"Library", none, ["App"], [⟨"", "Api", [exporting]⟩]⟩
    let root : Module := ⟨"App", none, ["Library"], [⟨"", "Api", [importing, exporting]⟩]⟩
    let references := NameSet.ofList ["App", "Library"]
    let read : String → Except String Module := fun name =>
      if name = "Library" then .ok library else .error name
    let result := ScanResult.ofModules [library] root
    let run := generate .standard "" result.exports result.imports
    scan references read root = .ok result ∧ run.exports = [] ∧
      ∃ own : ExportRuling, root.exports = [own.binding] ∧ own.wrapped? = none ∧
        ∃ diagnostic ∈ run.diagnostics, own.diagnostic? = some diagnostic ∧
          diagnostic.code = .duplicateSymbol := by
  intro exporting importing library root references read result run
  have inLibrary : Descends references read ["Library", "App"] library.references [] _ :=
    .pass (.inr (by decide)) (.done _)
  have descends : Descends references read ["App"] root.references [⟨"Library", library⟩] _ :=
    .enter (by decide) (by decide) rfl inLibrary (.done _)
  have scanned : scan references read root = .ok result :=
    scan_eq_ok_iff.mpr ⟨_, _, descends, rfl⟩
  obtain ⟨_, _, _, rules⟩ := generate_library_first scanned
  obtain ⟨_, own, first⟩ := rules .standard ""
  obtain ⟨ruling, rfl, sameBinding⟩ := List.map_eq_singleton_iff.mp first.rootExports
  have wrappable : Wrappable ruling.binding := sameBinding ▸ ⟨rfl, rfl, by decide⟩
  have isReached : ReachableFrom references read "App" ["Library"] "Library" :=
    ⟨"Library", by decide, by decide, by decide, .refl⟩
  obtain ⟨dropped, diagnostic, listed, reported, isDuplicate, _⟩ := first.rejected ruling
    (List.mem_singleton_self ruling) wrappable "Library" library _ isReached rfl
    (List.mem_singleton_self _) ⟨rfl, rfl, by decide⟩ (sameBinding ▸ rfl)
  exact ⟨scanned, by decide +kernel, ruling, first.rootExports.symm, dropped, diagnostic, listed,
    reported, isDuplicate⟩

end GuestGlue
