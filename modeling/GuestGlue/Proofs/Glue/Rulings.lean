/-
What a run decides about bindings.  Each binding is ruled on once, and a ruling bridges its
binding or objects to it, never both.  Grouping by host module keeps every binding, so a run
reports nothing exactly if it bridges everything.
-/

import GuestGlue.Glue.Generation
import GuestGlue.Proofs.Glue.Grouping

namespace GuestGlue.Glue

/-! ### Rulings -/

def Decides {ρ β : Type} (binding : ρ → β) (bridged? : ρ → Option β)
    (objection? : ρ → Option Diagnostic) : Prop :=
  ∀ ruling, bridged? ruling = some (binding ruling) ∧ objection? ruling = none ∨
    bridged? ruling = none ∧ ∃ diagnostic, objection? ruling = some diagnostic

theorem ImportRuling.decides :
    Decides ImportRuling.binding ImportRuling.forwarded? ImportRuling.diagnostic? := by
  rintro ⟨binding, outcome⟩
  cases outcome with
  | ok returned => exact Or.inl ⟨rfl, rfl⟩
  | error diagnostic => exact Or.inr ⟨rfl, diagnostic, rfl⟩

theorem ExportRuling.decides :
    Decides ExportRuling.binding ExportRuling.wrapped? ExportRuling.diagnostic? := by
  rintro ⟨binding, outcome⟩
  cases outcome with
  | ok accepted => exact Or.inl ⟨rfl, rfl⟩
  | error diagnostic => exact Or.inr ⟨rfl, diagnostic, rfl⟩

namespace Decides

variable {ρ β : Type} {binding : ρ → β} {bridged? : ρ → Option β}
  {objection? : ρ → Option Diagnostic}

theorem dropped_iff (decides : Decides binding bridged? objection?) (ruling : ρ) :
    bridged? ruling = none ↔ objection? ruling ≠ none := by
  rcases decides ruling with ⟨bridged, silent⟩ | ⟨dropped, diagnostic, reported⟩
  · simp [bridged, silent]
  · simp [dropped, reported]

theorem length_add (decides : Decides binding bridged? objection?) (rulings : List ρ) :
    (rulings.filterMap bridged?).length + (rulings.filterMap objection?).length =
      rulings.length := by
  induction rulings with
  | nil => rfl
  | cons ruling rest ih =>
      rcases decides ruling with ⟨bridged, silent⟩ | ⟨dropped, diagnostic, reported⟩
      · rw [List.filterMap_cons_some bridged, List.filterMap_cons_none silent,
          List.length_cons, List.length_cons, ← ih]
        omega
      · rw [List.filterMap_cons_none dropped, List.filterMap_cons_some reported,
          List.length_cons, List.length_cons, ← ih]
        omega

theorem bridged_of_silent (decides : Decides binding bridged? objection?) {rulings : List ρ}
    (silent : rulings.filterMap objection? = []) :
    rulings.filterMap bridged? = rulings.map binding := by
  rw [← List.filterMap_eq_map]
  refine List.filterMap_congr fun ruling member => ?_
  rcases decides ruling with ⟨bridged, _⟩ | ⟨_, diagnostic, reported⟩
  · exact bridged
  · have quiet := List.filterMap_eq_nil_iff.mp silent ruling member
    rw [reported] at quiet
    cases quiet

/-- No objection is raised exactly if as many bindings are bridged as were ruled on. -/
theorem silent_iff_length (decides : Decides binding bridged? objection?) (rulings : List ρ) :
    rulings.filterMap objection? = [] ↔ (rulings.filterMap bridged?).length = rulings.length := by
  rw [← decides.length_add rulings, ← List.length_eq_zero_iff]
  omega

end Decides

/-! ### Bindings without objection -/

structure Forwardable (binding : ImportBinding) (returned : Primitive) : Prop where
  returns : binding.method.returnType.primitive? = some returned
  parameters : ∀ parameter ∈ binding.method.parameters, parameter.type.isParameter = true
  name : CSource.isIdentifier binding.functionName = true
  parameterNames : ∀ parameter ∈ binding.method.parameters,
    CSource.isIdentifier parameter.name = true

theorem Forwardable.find?_parameter {binding : ImportBinding} {returned : Primitive}
    (forwardable : Forwardable binding returned) :
    binding.method.parameters.find? (!·.type.isParameter) = none :=
  List.find?_eq_none.mpr (by simpa using forwardable.parameters)

theorem Forwardable.find?_name {binding : ImportBinding} {returned : Primitive}
    (forwardable : Forwardable binding returned) :
    (binding.functionName :: binding.method.parameters.map (·.name)).find?
      (!CSource.isIdentifier ·) = none :=
  List.find?_eq_none.mpr (by simpa using ⟨forwardable.name, forwardable.parameterNames⟩)

/-- An import is forwarded if it is well formed and both its names are free. -/
theorem checkImport_eq_ok_iff {symbols : CSource.SymbolTable} {binding : ImportBinding}
    {returned : Primitive} :
    checkImport symbols binding = .ok returned ↔
      Forwardable binding returned ∧ symbols.contains binding.functionName = false ∧
        symbols.contains (rawName binding.functionName) = false := by
  constructor
  · intro accepted
    simp only [checkImport] at accepted
    split at accepted
    · cases accepted
    · next found =>
      split at accepted
      · cases accepted
      · next typed =>
        split at accepted
        · cases accepted
        · next named =>
          split at accepted
          · cases accepted
          · next free =>
            cases accepted
            have identifiers := List.find?_eq_none.mp named
            refine ⟨⟨found, ?_, ?_, ?_⟩, by simpa using free⟩
            · simpa using List.find?_eq_none.mp typed
            · simpa using identifiers _ List.mem_cons_self
            · intro parameter member
              simpa using identifiers _ (List.mem_cons_of_mem _ (List.mem_map_of_mem member))
  · rintro ⟨forwardable, free, rawFree⟩
    simp only [checkImport, forwardable.returns, forwardable.find?_parameter,
      forwardable.find?_name, free, rawFree]
    rfl

structure Wrappable (binding : ExportBinding) : Prop where
  parameters : binding.method.parameters = []
  returns : isExportReturn binding.method.returnType = true
  name : CSource.isIdentifier binding.exportName = true

theorem checkExport_eq_ok_iff {symbols : CSource.SymbolTable} {binding : ExportBinding} :
    checkExport symbols binding = .ok () ↔
      Wrappable binding ∧ symbols.contains binding.exportName = false ∧
        symbols.contains (handleName binding.exportName) = false := by
  constructor
  · intro accepted
    simp only [checkExport] at accepted
    split at accepted
    · cases accepted
    · next parameterless =>
      split at accepted
      · cases accepted
      · next returned =>
        split at accepted
        · cases accepted
        · next named =>
          split at accepted
          · cases accepted
          · next free =>
            refine ⟨⟨?_, by simpa using returned, by simpa using named⟩, by simpa using free⟩
            simpa using parameterless
  · rintro ⟨wrappable, free, handleFree⟩
    simp [checkExport, wrappable.parameters, wrappable.returns, wrappable.name, free, handleFree]

/-! ### Where rulings come from -/

theorem ruleImports_bindings (symbols : CSource.SymbolTable) (bindings : List ImportBinding) :
    (ruleImports symbols bindings).1.map (·.binding) = bindings := by
  induction bindings generalizing symbols with
  | nil => rfl
  | cons binding rest ih => exact congrArg (binding :: ·) (ih _)

theorem ruleImports_origin (symbols : CSource.SymbolTable) (bindings : List ImportBinding) :
    ∀ ruling ∈ (ruleImports symbols bindings).1,
      ∃ table, ruling.outcome = checkImport table ruling.binding := by
  induction bindings generalizing symbols with
  | nil => exact nofun
  | cons binding rest ih => exact List.forall_mem_cons.mpr ⟨⟨symbols, rfl⟩, ih _⟩

theorem ruleExports_origin (symbols : CSource.SymbolTable) (bindings : List ExportBinding) :
    ∀ ruling ∈ (ruleExports symbols bindings).1,
      ∃ table, ruling.outcome = checkExport table ruling.binding := by
  induction bindings generalizing symbols with
  | nil => exact nofun
  | cons binding rest ih => exact List.forall_mem_cons.mpr ⟨⟨symbols, rfl⟩, ih _⟩

/-- An import of a module with a file was checked; one of another module was refused with it. -/
def Origin (options : Options) (module : ModuleRuling) (ruling : ImportRuling) : Prop :=
  module.hasFile = true ∧ (∃ table, ruling.outcome = checkImport table ruling.binding) ∨
    module.hasFile = false ∧ ∃ taken refusal,
      refusal? options taken module.hostModule = some refusal ∧
        ruling = refusal.ruling ruling.binding

theorem ruleGroups_origin (options : Options) (taken : List String)
    (symbols : CSource.SymbolTable) (groups : List Group) :
    ∀ module ∈ (ruleGroups options taken symbols groups).1, ∀ ruling ∈ module.rulings,
      Origin options module ruling := by
  induction groups generalizing taken symbols with
  | nil => exact nofun
  | cons group rest ih =>
      rw [ruleGroups]
      split
      · next refusal refused =>
        refine List.forall_mem_cons.mpr ⟨fun ruling member => Or.inr ⟨rfl, taken, refusal, ?_⟩,
          ih _ _⟩
        obtain ⟨binding, _, rfl⟩ := List.mem_map.mp member
        split at refused
        · cases refused
        · exact ⟨refused, rfl⟩
      · exact List.forall_mem_cons.mpr ⟨fun ruling member =>
          Or.inl ⟨rfl, ruleImports_origin symbols group.imports ruling member⟩, ih _ _⟩

theorem ruleGroups_own (options : Options) (taken : List String) (symbols : CSource.SymbolTable)
    {groups : List Group}
    (own : ∀ group ∈ groups, ∀ binding ∈ group.imports, binding.hostModule = group.hostModule) :
    ∀ module ∈ (ruleGroups options taken symbols groups).1, ∀ ruling ∈ module.rulings,
      ruling.binding.hostModule = module.hostModule := by
  induction groups generalizing taken symbols with
  | nil => exact nofun
  | cons group rest ih =>
      obtain ⟨ownFirst, ownRest⟩ := List.forall_mem_cons.mp own
      rw [ruleGroups]
      split
      · next refusal _ =>
        refine List.forall_mem_cons.mpr ⟨fun ruling member => ?_, ih _ _ ownRest⟩
        obtain ⟨binding, imported, rfl⟩ := List.mem_map.mp member
        exact ownFirst binding imported
      · refine List.forall_mem_cons.mpr ⟨fun ruling member => ?_, ih _ _ ownRest⟩
        have imported : ruling.binding ∈ (ruleImports symbols group.imports).1.map (·.binding) :=
          List.mem_map_of_mem member
        rw [ruleImports_bindings] at imported
        exact ownFirst _ imported

/-! ### Plans -/

theorem ruleExports_bindings (symbols : CSource.SymbolTable) (bindings : List ExportBinding) :
    (ruleExports symbols bindings).1.map (·.binding) = bindings := by
  induction bindings generalizing symbols with
  | nil => rfl
  | cons binding rest ih => exact congrArg (binding :: ·) (ih _)

theorem Refusal.ruling_bindings (refusal : Refusal) (bindings : List ImportBinding) :
    (bindings.map refusal.ruling).map (·.binding) = bindings := by
  rw [List.map_map]
  exact List.map_id bindings

theorem ruleGroups_bindings (options : Options) (taken : List String)
    (symbols : CSource.SymbolTable) (groups : List Group) :
    ((ruleGroups options taken symbols groups).1.flatMap (·.rulings)).map (·.binding) =
      groups.flatMap (·.imports) := by
  induction groups generalizing taken symbols with
  | nil => rfl
  | cons group rest ih =>
      rw [ruleGroups]
      split
      · next refusal _ =>
        rw [List.flatMap_cons, List.flatMap_cons, List.map_append, ih, refusal.ruling_bindings]
      · rw [List.flatMap_cons, List.flatMap_cons, List.map_append, ih, ruleImports_bindings]

/-- Each ruling of a plan is one of a module, and about an import of that module. -/
theorem planImports_origin {options : Options} {symbols : CSource.SymbolTable}
    {imports : List ImportBinding} {ruling : ImportRuling}
    (ruled : ruling ∈ (planImports options symbols imports).rulings) :
    ∃ module ∈ (planImports options symbols imports).modules, ruling ∈ module.rulings ∧
      ruling.binding.hostModule = module.hostModule ∧ Origin options module ruling := by
  obtain ⟨module, listed, member⟩ := List.mem_flatMap.mp ruled
  exact ⟨module, listed, member,
    ruleGroups_own options _ symbols (groups_own imports) module listed ruling member,
    ruleGroups_origin options _ symbols (groups imports) module listed ruling member⟩

theorem planImports_bindings (options : Options) (symbols : CSource.SymbolTable)
    (imports : List ImportBinding) :
    ((planImports options symbols imports).rulings.map (·.binding)).Perm imports := by
  have ruled := ruleGroups_bindings options (takenAtFirst options) symbols (groups imports)
  exact ruled ▸ groups_perm imports

theorem planExports_bindings (symbols : CSource.SymbolTable) (exports : List ExportBinding) :
    (planExports symbols exports).rulings.map (·.binding) = exports :=
  ruleExports_bindings symbols exports

/-- The imports that a plan objects to, each with what is reported about it. -/
def ImportPlan.objections (plan : ImportPlan) : List (ImportBinding × Diagnostic) :=
  plan.rulings.filterMap fun ruling => ruling.diagnostic?.map (ruling.binding, ·)

theorem ImportPlan.objections_diagnostics (plan : ImportPlan) :
    plan.objections.map (·.2) = plan.diagnostics := by
  rw [objections, List.map_filterMap, diagnostics]
  simp only [Option.map_map, Function.comp_def, Option.map_id']

/-- The imports of a run are without objection exactly if all of them are forwarded. -/
theorem planImports_silent_iff (options : Options) (symbols : CSource.SymbolTable)
    (imports : List ImportBinding) :
    (planImports options symbols imports).diagnostics = [] ↔
      (planImports options symbols imports).forwarded.Perm imports := by
  have ruled := planImports_bindings options symbols imports
  constructor
  · intro silent
    rwa [ImportPlan.forwarded, ImportRuling.decides.bridged_of_silent silent]
  · intro forwarded
    refine (ImportRuling.decides.silent_iff_length _).mpr ?_
    have count := ruled.length_eq
    rw [List.length_map] at count
    exact forwarded.length_eq.trans count.symm

theorem planExports_silent_iff (symbols : CSource.SymbolTable) (exports : List ExportBinding) :
    (planExports symbols exports).diagnostics = [] ↔
      (planExports symbols exports).wrapped = exports := by
  have ruled := planExports_bindings symbols exports
  constructor
  · intro silent
    rwa [ExportPlan.wrapped, ExportRuling.decides.bridged_of_silent silent]
  · intro wrapped
    refine (ExportRuling.decides.silent_iff_length _).mpr ?_
    have count := congrArg List.length ruled
    rw [List.length_map] at count
    exact (congrArg List.length wrapped).trans count.symm

/-! ### Whole runs -/

/-- There is a file for the exports exactly if there are exports. -/
theorem planExports_file?_eq_none_iff {symbols : CSource.SymbolTable}
    {exports : List ExportBinding} {options : Options} :
    (planExports symbols exports).file? options = none ↔ exports = [] := by
  have ruled := planExports_bindings symbols exports
  unfold ExportPlan.file?
  constructor
  · intro absent
    split at absent
    · next empty =>
      rw [← ruled, List.isEmpty_iff.mp empty]
      rfl
    · cases absent
  · rintro rfl
    rfl

theorem ExportPlan.file?_name {plan : ExportPlan} {options : Options} {file : GlueFile}
    (found : plan.file? options = some file) : file.name = options.exportsFileName := by
  unfold ExportPlan.file? at found
  split at found
  · cases found
  · cases found
    rfl

/-- How a run ends: without exports, with an export file whose name is taken, or with
that file behind those of the imports. -/
theorem generate_cases (options : Options) (boilerplate : String)
    (exports : List ExportBinding) (imports : List ImportBinding) :
    let importPlan := planImports options .runtime imports
    let exportPlan := planExports importPlan.symbols exports
    let files := importPlan.files options boilerplate
    let objections := importPlan.diagnostics ++ exportPlan.diagnostics
    exports = [] ∧
        generate options boilerplate exports imports =
          ⟨files, [], importPlan.forwarded, importPlan.diagnostics⟩ ∨
      exports ≠ [] ∧
        (∃ file ∈ files, FileName.folded file.name = FileName.folded options.exportsFileName) ∧
        generate options boilerplate exports imports =
          ⟨files, [], importPlan.forwarded,
            objections ++ [exportCollision options.exportsFileName]⟩ ∨
      exports ≠ [] ∧
        (∀ file ∈ files, FileName.folded file.name ≠ FileName.folded options.exportsFileName) ∧
        ∃ file, exportPlan.file? options = some file ∧
          generate options boilerplate exports imports =
            ⟨files ++ [file], exportPlan.wrapped, importPlan.forwarded, objections⟩ := by
  intro importPlan exportPlan files objections
  cases found : (planExports (planImports options .runtime imports).symbols exports).file?
      options with
  | none =>
      have ran : generate options boilerplate exports imports =
          ⟨files, [], importPlan.forwarded, objections⟩ := by
        simp only [generate, found]
        rfl
      have empty := planExports_file?_eq_none_iff.mp found
      have silent : exportPlan.diagnostics = [] := by
        simp only [exportPlan, empty]
        rfl
      refine Or.inl ⟨empty, ran.trans ?_⟩
      simp only [objections, silent, List.append_nil]
  | some file =>
      have named := ExportPlan.file?_name found
      have ran : generate options boilerplate exports imports =
          if files.any fun other =>
              FileName.folded other.name = FileName.folded options.exportsFileName then
            ⟨files, [], importPlan.forwarded,
              objections ++ [exportCollision options.exportsFileName]⟩
          else ⟨files ++ [file], exportPlan.wrapped, importPlan.forwarded, objections⟩ := by
        simp only [generate, found, named]
        rfl
      have nonempty : exports ≠ [] := fun empty => by
        rw [planExports_file?_eq_none_iff.mpr empty] at found
        cases found
      by_cases collides : files.any fun other =>
          FileName.folded other.name = FileName.folded options.exportsFileName
      · rw [if_pos collides] at ran
        obtain ⟨other, member, same⟩ := List.any_eq_true.mp collides
        exact Or.inr (Or.inl ⟨nonempty, ⟨other, member, of_decide_eq_true same⟩, ran⟩)
      · rw [if_neg collides] at ran
        refine Or.inr (Or.inr ⟨nonempty, fun other member same => ?_, file, rfl, ran⟩)
        exact collides (List.any_eq_true.mpr ⟨other, member, decide_eq_true same⟩)

theorem generate_imports (options : Options) (boilerplate : String)
    (exports : List ExportBinding) (imports : List ImportBinding) :
    (generate options boilerplate exports imports).imports =
      (planImports options .runtime imports).forwarded := by
  rcases generate_cases options boilerplate exports imports with
    ⟨_, ran⟩ | ⟨_, _, ran⟩ | ⟨_, _, _, _, ran⟩ <;>
  rw [ran]

/-- A run reports nothing exactly if it wraps every export and forwards every import. -/
theorem generate_silent_iff (options : Options) (boilerplate : String)
    (exports : List ExportBinding) (imports : List ImportBinding) :
    (generate options boilerplate exports imports).diagnostics = [] ↔
      (generate options boilerplate exports imports).exports = exports ∧
        (generate options boilerplate exports imports).imports.Perm imports := by
  rcases generate_cases options boilerplate exports imports with
    ⟨empty, ran⟩ | ⟨nonempty, _, ran⟩ | ⟨_, _, file, _, ran⟩
  · rw [ran, planImports_silent_iff]
    exact (and_iff_right empty.symm).symm
  · -- without its file no export is wrapped, and the collision is reported
    rw [ran]
    refine iff_of_false (by simp) fun bridged => nonempty bridged.1.symm
  · rw [ran, List.append_eq_nil_iff, planImports_silent_iff, planExports_silent_iff]
    exact and_comm

end GuestGlue.Glue
