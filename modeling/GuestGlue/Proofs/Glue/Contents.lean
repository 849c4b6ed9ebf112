/-
The contents of the files for imports.  A file is its header and a block for each import of
its host module, in the declared order: the forwarder of an import that is forwarded, and
the marker with the message of the report for any other.  Whatever the caller's text ends
with, the blocks stand on lines of their own, with one empty line between two of them.
-/

import GuestGlue.Proofs.Glue.Lines

namespace GuestGlue

namespace CSource

/-! ### Ends of a text -/

theorem head?_lines_ne {text : String} (starts : (lineStarts text).head? ≠ some none) :
    (lines text).head? ≠ some [] := by
  intro empty
  rw [lineStarts, List.head?_map, empty] at starts
  exact starts rfl

theorem getLast?_lines_ne {text : String} (starts : (lineStarts text).getLast? ≠ some none) :
    (lines text).getLast? ≠ some [] := by
  intro empty
  rw [lineStarts, List.getLast?_map, empty] at starts
  exact starts rfl

end CSource

namespace Glue

open CSource

/-- What the file of a host module starts with: the caller's text in the reserved one, with
its last line ended, and the fixed lines with an empty one behind them in all others. -/
def header (options : Options) (boilerplate hostModule : String) : String :=
  if hostModule = options.reservedModule then
    if boilerplate = "" ∨ boilerplate.toList.getLast? = some '\n' then boilerplate
    else boilerplate ++ "\n"
  else preamble ++ "\n"

theorem endLine_header (options : Options) (boilerplate hostModule : String) :
    endLine (if hostModule = options.reservedModule then boilerplate else preamble ++ "\n") =
      header options boilerplate hostModule := by
  unfold header endLine
  simp only [Bool.or_eq_true, decide_eq_true_eq]
  split
  · rfl
  · exact if_pos (Or.inr (by simp))

structure Assembled (header : String) (blocks : List String) (content : String) : Prop where
  text : content = header ++ "\n".intercalate (blocks.map (· ++ "\n"))
  onLines : ∃ above, lines header = above ++ [[]] ∧
    lines content = above ++ ([[]].intercalate (blocks.map lines) ++ [[]])
  solid : ∀ block ∈ blocks, (lines block).head? ≠ some [] ∧ (lines block).getLast? ≠ some []

theorem assembled_fileText {header : String} {blocks : List String} (nonempty : blocks ≠ [])
    (solid : ∀ block ∈ blocks, (lines block).head? ≠ some [] ∧ (lines block).getLast? ≠ some []) :
    Assembled (endLine header) blocks (fileText header blocks) where
  text := rfl
  onLines := by
    rw [fileText]
    rcases endLine_cases header with empty | ⟨before, ended⟩
    · rw [empty, String.empty_append, lines_blocks nonempty]
      exact ⟨[], rfl, rfl⟩
    · rw [ended, lines_endLine, lines_append_newline, lines_blocks nonempty]
      exact ⟨lines before, rfl, rfl⟩
  solid := solid

example : fileText "// env" ["first", "second"] = "// env\nfirst\n\nsecond\n" := by decide

/-! ### Blocks -/

inductive StandsFor (options : Options) : ImportRuling → String → Prop
  | forwarder {binding : ImportBinding} {returned : Primitive}
      (returns : binding.method.returnType.primitive? = some returned) :
      StandsFor options ⟨binding, .ok returned⟩ (forwarder options binding returned)
  | marker {binding : ImportBinding} {diagnostic : Diagnostic} :
      StandsFor options ⟨binding, .error diagnostic⟩ (errorMarker diagnostic.message)

theorem solid_forwarder {options : Options} {binding : ImportBinding} {returned : Primitive}
    (forwardable : Forwardable binding returned) :
    (lines (forwarder options binding returned)).head? ≠ some [] ∧
      (lines (forwarder options binding returned)).getLast? ≠ some [] := by
  have starts : lineStarts (forwarder options binding returned) = _ :=
    (forwarder_lines forwardable).2
  constructor
  · apply head?_lines_ne
    rw [starts]
    exact nofun
  · apply getLast?_lines_ne
    rw [starts]
    exact nofun

theorem solid_errorMarker (message : String) :
    (lines (errorMarker message)).head? ≠ some [] ∧
      (lines (errorMarker message)).getLast? ≠ some [] := by
  have nonempty : (errorMarker message).toList ≠ [] := by
    rw [errorMarker, String.toList_append]
    exact List.append_ne_nil_of_left_ne_nil (by decide) _
  rw [lines_eq_singleton (controls_errorMarker message), List.head?_singleton,
    List.getLast?_singleton]
  simpa using nonempty

/-- The block of an import that was checked stands for it, and has no empty line at its ends. -/
theorem block_of_checked {options : Options} {symbols : SymbolTable} {ruling : ImportRuling}
    (checked : ruling.outcome = checkImport symbols ruling.binding) :
    StandsFor options ruling (block options ruling) ∧
      (lines (block options ruling)).head? ≠ some [] ∧
        (lines (block options ruling)).getLast? ≠ some [] := by
  obtain ⟨binding, outcome⟩ := ruling
  cases outcome with
  | ok returned =>
      have forwardable := (checkImport_eq_ok_iff.mp checked.symm).1
      exact ⟨.forwarder forwardable.returns, solid_forwarder forwardable⟩
  | error diagnostic => exact ⟨.marker, solid_errorMarker diagnostic.message⟩

/-! ### Rulings on the imports of one module -/

theorem filter_flatMap_own {α β : Type} {nameOf : α → String} {keyOf : β → String}
    {items : α → List β} {blocks : List α} (distinct : (blocks.map nameOf).Nodup)
    (own : ∀ block ∈ blocks, ∀ item ∈ items block, keyOf item = nameOf block) {block : α}
    (member : block ∈ blocks) :
    (blocks.flatMap items).filter (keyOf · = nameOf block) = items block := by
  induction blocks with
  | nil => cases member
  | cons first rest ih =>
      obtain ⟨apart, distinct⟩ := List.nodup_cons.mp distinct
      obtain ⟨ownFirst, ownRest⟩ := List.forall_mem_cons.mp own
      rw [List.flatMap_cons, List.filter_append]
      rcases List.mem_cons.mp member with rfl | later
      · rw [List.filter_eq_self.mpr (by simpa using ownFirst), List.filter_eq_nil_iff.mpr,
          List.append_nil]
        intro item among same
        obtain ⟨other, listed, present⟩ := List.mem_flatMap.mp among
        have alike := (ownRest other listed item present).symm.trans (of_decide_eq_true same)
        exact apart (List.mem_map.mpr ⟨other, listed, alike⟩)
      · rw [List.filter_eq_nil_iff.mpr, List.nil_append, ih distinct ownRest later]
        intro item present same
        have alike := (ownFirst item present).symm.trans (of_decide_eq_true same)
        exact apart (List.mem_map.mpr ⟨block, later, alike.symm⟩)

theorem groups_filter (imports : List ImportBinding) (hostModule : String) :
    ((groups imports).flatMap (·.imports)).filter (·.hostModule = hostModule) =
      imports.filter (·.hostModule = hostModule) := by
  by_cases named : hostModule ∈ hostModules imports
  · have listed : groupOf imports hostModule ∈ groups imports := by
      rw [groups_eq]
      exact List.mem_map_of_mem named
    exact filter_flatMap_own (groups_nodup imports) (groups_own imports) listed
  · have absent : ∀ binding ∈ imports, ¬decide (binding.hostModule = hostModule) = true :=
      fun binding member same =>
        named (mem_hostModules.mpr ⟨binding, member, of_decide_eq_true same⟩)
    rw [List.filter_eq_nil_iff.mpr absent, List.filter_eq_nil_iff]
    exact fun binding member => absent binding ((groups_perm imports).mem_iff.mp member)

section Plans

variable (options : Options) (symbols : SymbolTable) (imports : List ImportBinding)

/-- The imports of a module are ruled on in the declared order. -/
theorem planImports_rulings_filter (hostModule : String) :
    ((planImports options symbols imports).rulings.filter
        (·.binding.hostModule = hostModule)).map (·.binding) =
      imports.filter (·.hostModule = hostModule) := by
  have bindings := ruleGroups_bindings options (takenAtFirst options) symbols (groups imports)
  rw [← groups_filter, ← bindings, List.filter_map]
  rfl

variable {options symbols imports}

theorem planImports_module_rulings {module : ModuleRuling}
    (listed : module ∈ (planImports options symbols imports).modules) :
    (planImports options symbols imports).rulings.filter
        (·.binding.hostModule = module.hostModule) = module.rulings := by
  have distinct := planImports_hostModules_nodup options symbols imports
  have own := ruleGroups_own options (takenAtFirst options) symbols (groups_own imports)
  exact filter_flatMap_own distinct own listed

/-! ### Files -/

structure IsFileOf (options : Options) (boilerplate : String) (imports : List ImportBinding)
    (ruled : List ImportRuling) (hostModule : String) (file : GlueFile) : Prop where
  name : file.name = options.fileName hostModule
  targeted : hostModule ∈ hostModules imports → ∃ blocks,
    List.Forall₂ (StandsFor options) (ruled.filter (·.binding.hostModule = hostModule)) blocks ∧
      Assembled (header options boilerplate hostModule) blocks file.content
  untargeted : hostModule ∉ hostModules imports →
    hostModule = options.reservedModule ∧ file.content = boilerplate

theorem isFileOf_module {boilerplate : String} {module : ModuleRuling} {file : GlueFile}
    (listed : module ∈ (planImports options symbols imports).modules)
    (found : module.file? options boilerplate = some file) :
    IsFileOf options boilerplate imports (planImports options symbols imports).rulings
      module.hostModule file := by
  have named : module.hostModule ∈ hostModules imports := by
    rw [← planImports_hostModules options symbols]
    exact List.mem_map_of_mem listed
  unfold ModuleRuling.file? at found
  split at found
  · next hasFile =>
    cases found
    have checked : ∀ ruling ∈ module.rulings,
        ∃ table, ruling.outcome = checkImport table ruling.binding := by
      intro ruling member
      rcases ruleGroups_origin options _ symbols (groups imports) module listed ruling member with
        ⟨_, checked⟩ | ⟨unfiled, _⟩
      · exact checked
      · rw [hasFile] at unfiled
        cases unfiled
    refine ⟨rfl, fun _ => ⟨module.rulings.map (block options), ?_, ?_⟩, absurd named⟩
    · rw [planImports_module_rulings listed, List.forall₂_map_right_iff, List.forall₂_same]
      intro ruling member
      obtain ⟨table, outcome⟩ := checked ruling member
      exact (block_of_checked outcome).1
    · rw [← endLine_header]
      refine assembled_fileText ?_ (List.forall_mem_map.mpr fun ruling member => ?_)
      · obtain ⟨binding, imported, own⟩ := mem_hostModules.mp named
        have ruled := planImports_rulings_filter options symbols imports module.hostModule
        rw [planImports_module_rulings listed] at ruled
        intro empty
        rw [List.map_eq_nil_iff.mp empty, List.map_nil] at ruled
        exact List.filter_eq_nil_iff.mp ruled.symm binding imported (decide_eq_true own)
      · obtain ⟨table, outcome⟩ := checked ruling member
        exact (block_of_checked outcome).2
  · cases found

theorem forall₂_filed {boilerplate : String} {describes : String → GlueFile → Prop}
    {modules : List ModuleRuling}
    (described : ∀ module ∈ modules, ∀ file, module.file? options boilerplate = some file →
      describes module.hostModule file) :
    List.Forall₂ describes (filed modules) (modules.filterMap (·.file? options boilerplate)) := by
  induction modules with
  | nil => exact .nil
  | cons module rest ih =>
      obtain ⟨here, later⟩ := List.forall_mem_cons.mp described
      unfold filed
      cases hasFile : module.hasFile with
      | false =>
          have none : module.file? options boilerplate = none := if_neg (by simp [hasFile])
          rw [List.filter_cons_of_neg (by simp [hasFile]), List.filterMap_cons_none none]
          exact ih later
      | true =>
          obtain ⟨file, some, _⟩ := module.exists_file hasFile options boilerplate
          rw [List.filter_cons_of_pos hasFile, List.filterMap_cons_some some]
          exact .cons (here file some) (ih later)

theorem planImports_files (boilerplate : String) :
    List.Forall₂
      (IsFileOf options boilerplate imports (planImports options symbols imports).rulings)
      ((planImports options symbols imports).filed options)
      ((planImports options symbols imports).files options boilerplate) := by
  have ofModules : List.Forall₂
      (IsFileOf options boilerplate imports (planImports options symbols imports).rulings)
      (filed (planImports options symbols imports).modules)
      ((planImports options symbols imports).modules.filterMap (·.file? options boilerplate)) :=
    forall₂_filed fun _ listed _ found => isFileOf_module listed found
  unfold ImportPlan.filed ImportPlan.files
  simp only [planImports_targets_iff]
  split
  · exact ofModules
  · next untargeted =>
    refine List.rel_append ofModules (.cons ⟨rfl, ?_, ?_⟩ .nil)
    · exact fun targeted => absurd targeted untargeted
    · exact fun _ => ⟨rfl, rfl⟩

end Plans

/-- What the files for imports hold, `filed` being the host modules that get one and
`ruled` what was decided about the imports. -/
structure ImportContents (options : Options) (boilerplate : String) (exports : List ExportBinding)
    (imports : List ImportBinding) (ruled : List ImportRuling) (filed : List String)
    (files : List GlueFile) : Prop where
  declared : ∀ hostModule,
    (ruled.filter (·.binding.hostModule = hostModule)).map (·.binding) =
      imports.filter (·.hostModule = hostModule)
  forwarded : (generate options boilerplate exports imports).imports =
    ruled.filterMap (·.forwarded?)
  reported : ruled.filterMap (·.diagnostic?) <+:
    (generate options boilerplate exports imports).diagnostics
  inOrder : filed.Sublist (fileOrder options imports)
  reservedFiled : options.reservedModule ∈ filed
  contents : List.Forall₂ (IsFileOf options boilerplate imports ruled) filed files
  whole : ∃ exported, (generate options boilerplate exports imports).files = files ++ exported ∧
    ∀ file ∈ exported, file.name = options.exportsFileName

/-- Every file for imports is its header with a block for each import of its module. -/
theorem generate_importContents (options : Options) (boilerplate : String)
    (exports : List ExportBinding) (imports : List ImportBinding) :
    let plan := planImports options .runtime imports
    ImportContents options boilerplate exports imports plan.rulings (plan.filed options)
      (plan.files options boilerplate) := by
  intro plan
  constructor
  case declared => exact planImports_rulings_filter options .runtime imports
  case forwarded => exact generate_imports options boilerplate exports imports
  case reported =>
    rw [generate_reports, ImportPlan.objections_diagnostics]
    exact List.prefix_append _ _
  case inOrder => exact planImports_filed_sublist options .runtime imports
  case reservedFiled => exact planImports_reserved_mem options .runtime imports
  case contents => exact planImports_files boilerplate
  case whole =>
    refine ⟨_, generate_files options boilerplate exports imports, fun file member => ?_⟩
    split at member
    · exact ExportPlan.file?_name (Option.mem_toList.mp member)
    · cases member

end Glue

end GuestGlue
