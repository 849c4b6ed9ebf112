/-
One verdict on each binding.  A run accepts a binding or reports it once, and takes the
names of those it accepts.  Among bindings that are sound by themselves, names alone
decide: those at the start, and those of the bindings accepted earlier.  A binding that
was rejected is never in the way of another one.
-/

import GuestGlue.Proofs.Glue.Layout
import GuestGlue.Proofs.Glue.Objections
import GuestGlue.Proofs.Glue.Symbols

namespace GuestGlue.Glue

open CSource SymbolTable

/-! ### Verdicts -/

structure Verdict (β : Type) where
  binding : β
  report : Option Diagnostic

def Verdict.accepted? {β : Type} (verdict : Verdict β) : Option β :=
  match verdict.report with
  | none => some verdict.binding
  | some _ => none

section Verdicts

variable {β : Type}

def bindings (verdicts : List (Verdict β)) : List β :=
  verdicts.map (·.binding)

def accepted (verdicts : List (Verdict β)) : List β :=
  verdicts.filterMap (·.accepted?)

def reports (verdicts : List (Verdict β)) : List Diagnostic :=
  verdicts.filterMap (·.report)

structure Side (β : Type) where
  fullName : β → String
  cNames : β → List String
  Sound : β → Prop

/-- A verdict where these names are taken. -/
structure Judged (side : Side β) (taken : List String) (verdict : Verdict β) : Prop where
  symbol : ∀ diagnostic ∈ verdict.report, diagnostic.symbol = side.fullName verdict.binding
  sound : verdict.report = none → side.Sound verdict.binding
  rejected_iff : side.Sound verdict.binding →
    (verdict.report ≠ none ↔ ∃ name ∈ side.cNames verdict.binding, name ∈ taken)
  duplicate : side.Sound verdict.binding →
    ∀ diagnostic ∈ verdict.report, diagnostic.code = .duplicateSymbol

theorem Judged.congr {side : Side β} {taken other : List String} {verdict : Verdict β}
    (judged : Judged side taken verdict) (same : ∀ name, name ∈ taken ↔ name ∈ other) :
    Judged side other verdict where
  symbol := judged.symbol
  sound := judged.sound
  rejected_iff sound := by
    simp only [judged.rejected_iff sound, same]
  duplicate := judged.duplicate

theorem Judged.accepted {side : Side β} {taken : List String} {binding : β}
    (sound : side.Sound binding) (free : ∀ name ∈ side.cNames binding, name ∉ taken) :
    Judged side taken ⟨binding, none⟩ where
  symbol := nofun
  sound _ := sound
  rejected_iff _ := iff_of_false (fun reported => reported rfl)
    fun ⟨name, named, isTaken⟩ => free name named isTaken
  duplicate _ := nofun

theorem Judged.rejected {side : Side β} {taken : List String} {binding : β}
    {diagnostic : Diagnostic} (symbol : diagnostic.symbol = side.fullName binding)
    (blocked : side.Sound binding → diagnostic.code = .duplicateSymbol ∧
      ∃ name ∈ side.cNames binding, name ∈ taken) :
    Judged side taken ⟨binding, some diagnostic⟩ where
  symbol := by
    intro other reported
    cases Option.mem_some_iff.mp reported
    exact symbol
  sound := nofun
  rejected_iff sound := iff_of_true nofun (blocked sound).2
  duplicate sound := by
    intro other reported
    cases Option.mem_some_iff.mp reported
    exact (blocked sound).1

/-- The table goes from verdict to verdict and takes the names of what is accepted. -/
inductive Settles (side : Side β) : SymbolTable → List (Verdict β) → SymbolTable → Prop
  | nothing (table : SymbolTable) : Settles side table [] table
  | step {table next last : SymbolTable} {verdict : Verdict β} {rest : List (Verdict β)}
      (judged : Judged side table.names verdict)
      (takes : Takes table (verdict.accepted?.toList.flatMap side.cNames) next)
      (later : Settles side next rest last) : Settles side table (verdict :: rest) last

theorem Settles.append {side : Side β} {table next last : SymbolTable}
    {first second : List (Verdict β)} (earlier : Settles side table first next)
    (later : Settles side next second last) : Settles side table (first ++ second) last := by
  induction earlier with
  | nothing _ => exact later
  | step judged takes _ ih => exact .step judged takes (ih later)

theorem accepted_cons (verdict : Verdict β) (rest : List (Verdict β)) :
    accepted (verdict :: rest) = verdict.accepted?.toList ++ accepted rest := by
  unfold accepted
  cases found : verdict.accepted? <;> simp [found]

/-- At each verdict the names at the start and those of what was accepted before are taken. -/
theorem Settles.judged {side : Side β} {table last : SymbolTable}
    {verdicts before after : List (Verdict β)} {verdict : Verdict β}
    (settles : Settles side table verdicts last) (split : verdicts = before ++ verdict :: after) :
    Judged side (table.names ++ (accepted before).flatMap side.cNames) verdict := by
  induction settles generalizing before with
  | nothing _ => exact absurd split.symm (List.append_ne_nil_of_right_ne_nil _ (List.cons_ne_nil _ _))
  | @step table next last first rest judged takes later ih =>
      cases before with
      | nil =>
          obtain ⟨rfl, _⟩ := List.cons.inj split
          simpa [accepted] using judged
      | cons other before =>
          obtain ⟨rfl, splitRest⟩ := List.cons.inj split
          refine (ih splitRest).congr fun name => ?_
          rw [List.mem_append, takes.mem_names, accepted_cons, List.flatMap_append,
            ← List.mem_append, List.append_assoc]

end Verdicts

/-! ### The two sides -/

/-- Imports, where it is settled which of them have a host module with a file. -/
def importSide (hasFile : ImportBinding → Prop) : Side ImportBinding where
  fullName binding := binding.method.fullName
  cNames := ImportBinding.cNames
  Sound binding := (∃ returned, Forwardable binding returned) ∧ hasFile binding

def exportSide : Side ExportBinding where
  fullName binding := binding.method.fullName
  cNames := ExportBinding.cNames
  Sound := Wrappable

def ImportRuling.verdict (ruling : ImportRuling) : Verdict ImportBinding :=
  ⟨ruling.binding, ruling.diagnostic?⟩

def ExportRuling.verdict (ruling : ExportRuling) : Verdict ExportBinding :=
  ⟨ruling.binding, ruling.diagnostic?⟩

theorem ImportRuling.verdict_accepted? (ruling : ImportRuling) :
    ruling.verdict.accepted? = ruling.forwarded? := by
  obtain ⟨binding, _ | _⟩ := ruling <;> rfl

theorem ExportRuling.verdict_accepted? (ruling : ExportRuling) :
    ruling.verdict.accepted? = ruling.wrapped? := by
  obtain ⟨binding, _ | _⟩ := ruling <;> rfl

theorem free_iff {table : SymbolTable} {name companion : String} :
    (table.contains name = false ∧ table.contains companion = false) ↔
      ∀ either ∈ [name, companion], either ∉ table.names := by
  simp [← contains_iff]

theorem ruleImport_judged {hasFile : ImportBinding → Prop} {binding : ImportBinding}
    (filed : hasFile binding) (table : SymbolTable) :
    Judged (importSide hasFile) table.names (ruleImport table binding).verdict := by
  cases checked : checkImport table binding with
  | ok returned =>
      obtain ⟨forwardable, free⟩ := checkImport_eq_ok_iff.mp checked
      have silent : (ruleImport table binding).verdict = ⟨binding, none⟩ := by
        simp only [ruleImport, ImportRuling.verdict, ImportRuling.diagnostic?, checked]
      rw [silent]
      exact .accepted ⟨⟨returned, forwardable⟩, filed⟩ (free_iff.mp free)
  | error diagnostic =>
      have reported : (ruleImport table binding).verdict = ⟨binding, some diagnostic⟩ := by
        simp only [ruleImport, ImportRuling.verdict, ImportRuling.diagnostic?, checked]
      obtain ⟨_, _, made⟩ := checkImport_objection checked
      rw [reported]
      refine .rejected (made ▸ rfl) fun sound => ?_
      obtain ⟨⟨returned, forwardable⟩, _⟩ := sound
      refine ⟨checkImport_code forwardable checked, ?_⟩
      by_contra free
      push Not at free
      rw [checkImport_eq_ok_iff.mpr ⟨forwardable, free_iff.mpr free⟩] at checked
      cases checked

theorem ruleExport_judged (table : SymbolTable) (binding : ExportBinding) :
    Judged exportSide table.names (ruleExport table binding).verdict := by
  cases checked : checkExport table binding with
  | ok =>
      obtain ⟨wrappable, free⟩ := checkExport_eq_ok_iff.mp checked
      have silent : (ruleExport table binding).verdict = ⟨binding, none⟩ := by
        simp only [ruleExport, ExportRuling.verdict, ExportRuling.diagnostic?, checked]
      rw [silent]
      exact .accepted wrappable (free_iff.mp free)
  | error diagnostic =>
      have reported : (ruleExport table binding).verdict = ⟨binding, some diagnostic⟩ := by
        simp only [ruleExport, ExportRuling.verdict, ExportRuling.diagnostic?, checked]
      obtain ⟨_, _, made⟩ := checkExport_objection checked
      rw [reported]
      refine .rejected (made ▸ rfl) fun wrappable => ⟨checkExport_code wrappable checked, ?_⟩
      by_contra free
      push Not at free
      rw [checkExport_eq_ok_iff.mpr ⟨wrappable, free_iff.mpr free⟩] at checked
      cases checked

theorem ruleImports_settles {hasFile : ImportBinding → Prop} {bindings : List ImportBinding}
    (filed : ∀ binding ∈ bindings, hasFile binding) (table : SymbolTable) :
    Settles (importSide hasFile) table ((ruleImports table bindings).1.map (·.verdict))
      (ruleImports table bindings).2 := by
  induction bindings generalizing table with
  | nil => exact .nothing table
  | cons binding rest ih =>
      obtain ⟨here, later⟩ := List.forall_mem_cons.mp filed
      refine .step (ruleImport_judged here table) ?_ (ih later _)
      rw [ImportRuling.verdict_accepted?]
      exact ruleImport_takes table binding

theorem ruleExports_settles (table : SymbolTable) (bindings : List ExportBinding) :
    Settles exportSide table ((ruleExports table bindings).1.map (·.verdict))
      (ruleExports table bindings).2 := by
  induction bindings generalizing table with
  | nil => exact .nothing table
  | cons binding rest ih =>
      refine .step (ruleExport_judged table binding) ?_ (ih _)
      rw [ExportRuling.verdict_accepted?]
      exact ruleExport_takes table binding

/-- A refusal of the module is a report about each of its imports. -/
theorem Refusal.ruling_settles {hasFile : ImportBinding → Prop} {bindings : List ImportBinding}
    (unfiled : ∀ binding ∈ bindings, ¬hasFile binding) (refusal : Refusal)
    (table : SymbolTable) :
    Settles (importSide hasFile) table ((bindings.map refusal.ruling).map (·.verdict)) table := by
  induction bindings with
  | nil => exact .nothing table
  | cons binding rest ih =>
      obtain ⟨here, later⟩ := List.forall_mem_cons.mp unfiled
      refine .step ?_ (Takes.nothing table) (ih later)
      exact .rejected rfl fun sound => absurd sound.2 here

theorem ruleGroups_settles {options : Options} {taken : List String} {table : SymbolTable}
    {groups : List Group} {hasFile : ImportBinding → Prop}
    (tells : ∀ module ∈ (ruleGroups options taken table groups).1, ∀ ruling ∈ module.rulings,
      (hasFile ruling.binding ↔ module.hasFile = true)) :
    Settles (importSide hasFile) table
      (((ruleGroups options taken table groups).1.flatMap (·.rulings)).map (·.verdict))
      (ruleGroups options taken table groups).2 := by
  induction groups generalizing taken table with
  | nil => exact .nothing table
  | cons group rest ih =>
      rw [ruleGroups] at tells ⊢
      split
      · next refusal refused =>
        simp only [refused] at tells
        obtain ⟨here, later⟩ := List.forall_mem_cons.mp tells
        rw [List.flatMap_cons, List.map_append]
        refine (refusal.ruling_settles ?_ table).append (ih later)
        intro binding member
        simpa [Refusal.ruling] using here _ (List.mem_map_of_mem member)
      · next accepted =>
        simp only [accepted] at tells
        obtain ⟨here, later⟩ := List.forall_mem_cons.mp tells
        rw [List.flatMap_cons, List.map_append]
        refine (ruleImports_settles ?_ table).append (ih later)
        intro binding member
        rw [← ruleImports_bindings table group.imports] at member
        obtain ⟨ruling, ruled, rfl⟩ := List.mem_map.mp member
        exact (here ruling ruled).mpr rfl

/-! ### Whole runs -/

/-- The imports in the order of the run: those of one host module after another, in the
order in which the modules are first named. -/
def emissionOrder (imports : List ImportBinding) : List ImportBinding :=
  (hostModules imports).flatMap fun hostModule => imports.filter (·.hostModule = hostModule)

theorem emissionOrder_eq (imports : List ImportBinding) :
    emissionOrder imports = (groups imports).flatMap (·.imports) := by
  rw [groups_eq, List.flatMap_map]
  rfl

section Plans

variable {options : Options} {table : SymbolTable}

theorem mem_filed {modules : List ModuleRuling} {hostModule : String} :
    hostModule ∈ filed modules ↔
      ∃ module ∈ modules, module.hasFile = true ∧ module.hostModule = hostModule := by
  simp [filed, and_assoc]

theorem planImports_tells {imports : List ImportBinding} :
    ∀ module ∈ (planImports options table imports).modules, ∀ ruling ∈ module.rulings,
      (ruling.binding.hostModule ∈ (planImports options table imports).filed options ↔
        module.hasFile = true) := by
  intro module listed ruling member
  have own := ruleGroups_own options _ table (groups_own imports) module listed ruling member
  have distinct := planImports_hostModules_nodup options table imports
  rw [own, ImportPlan.filed]
  constructor
  · intro isFiled
    have among : module.hostModule ∈ filed (planImports options table imports).modules := by
      split at isFiled
      · exact isFiled
      · next untargeted =>
        refine (List.mem_append.mp isFiled).resolve_right fun reserved => untargeted ?_
        exact List.any_eq_true.mpr
          ⟨module, listed, decide_eq_true (List.mem_singleton.mp reserved)⟩
    obtain ⟨other, otherListed, hasFile, same⟩ := mem_filed.mp among
    rwa [List.inj_on_of_nodup_map distinct otherListed listed same] at hasFile
  · intro hasFile
    have among := mem_filed.mpr ⟨module, listed, hasFile, rfl⟩
    split
    · exact among
    · exact List.mem_append_left _ among

theorem ImportPlan.exists_file_iff {plan : ImportPlan} {boilerplate hostModule : String} :
    (∃ file ∈ plan.files options boilerplate, file.name = options.fileName hostModule) ↔
      hostModule ∈ plan.filed options := by
  have names := plan.files_names options boilerplate
  rw [← List.mem_map, names, List.mem_map]
  simp only [fileName_inj, exists_eq_right]

variable (options table)

theorem planImports_settles (imports : List ImportBinding) :
    Settles (importSide fun binding =>
        binding.hostModule ∈ (planImports options table imports).filed options) table
      ((planImports options table imports).rulings.map (·.verdict))
      (planImports options table imports).symbols :=
  ruleGroups_settles planImports_tells

theorem planImports_order (imports : List ImportBinding) :
    bindings ((planImports options table imports).rulings.map (·.verdict)) =
      emissionOrder imports := by
  rw [bindings, List.map_map, emissionOrder_eq]
  exact ruleGroups_bindings options _ table (groups imports)

theorem planImports_accepted (imports : List ImportBinding) :
    accepted ((planImports options table imports).rulings.map (·.verdict)) =
      (planImports options table imports).forwarded := by
  rw [accepted, List.filterMap_map, ImportPlan.forwarded]
  exact List.filterMap_congr fun ruling _ => ruling.verdict_accepted?

theorem planExports_accepted (exports : List ExportBinding) :
    accepted ((planExports table exports).rulings.map (·.verdict)) =
      (planExports table exports).wrapped := by
  rw [accepted, List.filterMap_map, ExportPlan.wrapped]
  exact List.filterMap_congr fun ruling _ => ruling.verdict_accepted?

theorem planExports_order (exports : List ExportBinding) :
    bindings ((planExports table exports).rulings.map (·.verdict)) = exports := by
  rw [bindings, List.map_map]
  exact planExports_bindings table exports

theorem planImports_reports (imports : List ImportBinding) :
    reports ((planImports options table imports).rulings.map (·.verdict)) =
      (planImports options table imports).diagnostics := by
  rw [reports, List.filterMap_map]
  rfl

theorem planExports_reports (exports : List ExportBinding) :
    reports ((planExports table exports).rulings.map (·.verdict)) =
      (planExports table exports).diagnostics := by
  rw [reports, List.filterMap_map]
  rfl

end Plans

/-- What becomes of the bindings of a run: all of them get a verdict, in order. -/
structure Accounts (options : Options) (boilerplate : String) (exports : List ExportBinding)
    (imports : List ImportBinding) (imported : List (Verdict ImportBinding))
    (exported : List (Verdict ExportBinding)) : Prop where
  importOrder : bindings imported = emissionOrder imports
  everyImport : (bindings imported).Perm imports
  everyExport : bindings exported = exports
  forwarded : (generate options boilerplate exports imports).imports = accepted imported
  wrapped : (planExports (planImports options .runtime imports).symbols exports).wrapped =
    accepted exported
  returned : (generate options boilerplate exports imports).exports =
    if FileName.Same options.exportsFileName options.reservedFileName then []
    else accepted exported
  reported : (generate options boilerplate exports imports).diagnostics =
    reports imported ++ reports exported ++
      if exports ≠ [] ∧ FileName.Same options.exportsFileName options.reservedFileName then
        [exportCollision options.exportsFileName]
      else []
  imports_judged : ∀ before verdict after, imported = before ++ verdict :: after →
    Judged
      (importSide fun binding =>
        ∃ file ∈ (planImports options .runtime imports).files options boilerplate,
          file.name = options.fileName binding.hostModule)
      (runtimeSymbols ++ (accepted before).flatMap ImportBinding.cNames) verdict
  exports_judged : ∀ before verdict after, exported = before ++ verdict :: after →
    Judged exportSide
      (runtimeSymbols ++ (accepted imported).flatMap ImportBinding.cNames ++
        (accepted before).flatMap ExportBinding.cNames) verdict

/-- Every binding has one outcome: it is accepted, or reported once.  Of the bindings that
are sound by themselves exactly those are rejected that find a name of theirs taken by the
runtime or by a binding accepted earlier. -/
theorem generate_accounts (options : Options) (boilerplate : String)
    (exports : List ExportBinding) (imports : List ImportBinding) :
    ∃ imported exported, Accounts options boilerplate exports imports imported exported := by
  let plan := planImports options .runtime imports
  refine ⟨plan.rulings.map (·.verdict), (planExports plan.symbols exports).rulings.map (·.verdict), ?_⟩
  constructor
  case importOrder => exact planImports_order options .runtime imports
  case everyImport =>
    rw [planImports_order, emissionOrder_eq]
    exact groups_perm imports
  case everyExport => exact planExports_order plan.symbols exports
  case forwarded =>
    rw [planImports_accepted]
    exact generate_imports options boilerplate exports imports
  case wrapped => exact (planExports_accepted plan.symbols exports).symm
  case returned =>
    rw [planExports_accepted]
    exact generate_exports options boilerplate exports imports
  case reported =>
    rw [planImports_reports, planExports_reports, generate_reports,
      ImportPlan.objections_diagnostics, List.append_assoc]
  case imports_judged =>
    intro before verdict after split
    simp only [ImportPlan.exists_file_iff]
    exact (planImports_settles options .runtime imports).judged split
  case exports_judged =>
    intro before verdict after split
    refine ((ruleExports_settles plan.symbols exports).judged split).congr fun name => ?_
    rw [List.mem_append, (planImports_takes options .runtime imports).mem_names,
      planImports_accepted, ← List.mem_append]
    rfl

end GuestGlue.Glue
