/-
Runs that differ in one input.  The caller's text goes into the reserved module's file and
nowhere else.  The exports come behind the imports: they find the names of the imports
taken, and whatever they are, the import side is that of the run without exports.
-/

import GuestGlue.Proofs.Glue.Regeneration

namespace GuestGlue.Glue

/-! ### The caller's text -/

/-- The files have the same names in the same order, and the same contents but for the files
of one name. -/
def SameBut (name : String) (files others : List GlueFile) : Prop :=
  List.Forall₂ (fun file other => other.name = file.name ∧ (file.name ≠ name → other = file))
    files others

theorem SameBut.refl (name : String) (files : List GlueFile) : SameBut name files files :=
  List.forall₂_same.mpr fun _ _ => ⟨rfl, fun _ => rfl⟩

theorem SameBut.append {name : String} {files others filesLater othersLater : List GlueFile}
    (same : SameBut name files others) (sameLater : SameBut name filesLater othersLater) :
    SameBut name (files ++ filesLater) (others ++ othersLater) :=
  List.rel_append same sameLater

section Texts

variable (options : Options) (boilerplate other : String)

/-- Only the reserved module's file starts with the caller's text. -/
theorem file?_sameBut (module : ModuleRuling) :
    SameBut options.reservedFileName (module.file? options boilerplate).toList
      (module.file? options other).toList := by
  unfold ModuleRuling.file?
  by_cases hasFile : module.hasFile = true
  · simp only [if_pos hasFile, Option.toList_some]
    refine .cons ⟨rfl, fun different => ?_⟩ .nil
    have notReserved : module.hostModule ≠ options.reservedModule := fun reserved =>
      different (congrArg options.fileName reserved)
    simp only [if_neg notReserved]
  · simp only [if_neg hasFile]
    exact .nil

theorem ImportPlan.files_sameBut (plan : ImportPlan) :
    SameBut options.reservedFileName (plan.files options boilerplate)
      (plan.files options other) := by
  have ofModules : SameBut options.reservedFileName
      (plan.modules.filterMap (·.file? options boilerplate))
      (plan.modules.filterMap (·.file? options other)) := by
    rw [List.filterMap_eq_flatMap_toList, List.filterMap_eq_flatMap_toList]
    induction plan.modules with
    | nil => exact .nil
    | cons module rest ih => exact (file?_sameBut options boilerplate other module).append ih
  unfold ImportPlan.files
  simp only
  split
  · exact ofModules
  · exact ofModules.append (.cons ⟨rfl, fun different => absurd rfl different⟩ .nil)

end Texts

/-! ### The exports -/

theorem planExports_symbols (symbols : CSource.SymbolTable) (exports : List ExportBinding) :
    ∀ diagnostic ∈ (planExports symbols exports).diagnostics,
      ∃ binding ∈ exports, diagnostic.symbol = binding.method.fullName := by
  intro diagnostic member
  obtain ⟨⟨binding, outcome⟩, ruled, reported⟩ := List.mem_filterMap.mp member
  have exported := List.mem_map_of_mem (f := ExportRuling.binding) ruled
  rw [planExports_bindings] at exported
  cases outcome with
  | ok accepted => cases reported
  | error objection =>
      cases reported
      obtain ⟨_, checked⟩ := ruleExports_origin symbols exports _ ruled
      obtain ⟨_, _, made⟩ := checkExport_objection checked.symm
      exact ⟨binding, exported, congrArg Diagnostic.symbol made⟩

/-- The run has the whole import side of the other one.  Behind its files comes at most the
export file, and behind its reports come those on exports and on their file. -/
structure AddsExports (options : Options) (exports : List ExportBinding)
    (alone run : Output) : Prop where
  imports : run.imports = alone.imports
  files : ∃ exported, run.files = alone.files ++ exported ∧ exported.length ≤ 1 ∧
    ∀ file ∈ exported, file.name = options.exportsFileName
  kept : ∀ file ∈ alone.files, run.file? file.name = some file
  reports : ∃ later, run.diagnostics = alone.diagnostics ++ later ∧
    ∀ diagnostic ∈ later, diagnostic = exportCollision options.exportsFileName ∨
      ∃ binding ∈ exports, diagnostic.symbol = binding.method.fullName

section Runs

variable (options : Options) (boilerplate : String) (exports : List ExportBinding)
  (imports : List ImportBinding)

theorem generate_withoutExports :
    generate options boilerplate [] imports =
      ⟨(planImports options .runtime imports).files options boilerplate, [],
        (planImports options .runtime imports).forwarded,
        (planImports options .runtime imports).diagnostics⟩ := by
  rcases generate_cases options boilerplate [] imports with
    ⟨_, ran⟩ | ⟨nonempty, _⟩ | ⟨nonempty, _⟩
  · exact ran
  · exact absurd rfl nonempty
  · exact absurd rfl nonempty

theorem generate_addsExports :
    AddsExports options exports (generate options boilerplate [] imports)
      (generate options boilerplate exports imports) := by
  have files := generate_files options boilerplate exports imports
  have alone := generate_withoutExports options boilerplate imports
  constructor
  case imports => rw [generate_imports, generate_imports]
  case files =>
    refine ⟨_, files.trans (by rw [alone]), ?_⟩
    split
    · refine ⟨Option.length_toList_le, fun file found => ?_⟩
      exact ExportPlan.file?_name (Option.mem_toList.mp found)
    · exact ⟨Nat.zero_le 1, nofun⟩
  case kept =>
    intro file member
    refine Output.file?_of_mem (generate_names_nodup options boilerplate exports imports) ?_
    rw [alone] at member
    rw [files]
    exact List.mem_append_left _ member
  case reports =>
    refine ⟨_, by rw [generate_reports, alone, ImportPlan.objections_diagnostics], ?_⟩
    rw [List.forall_mem_append]
    constructor
    · intro diagnostic reported
      exact Or.inr (planExports_symbols _ exports diagnostic reported)
    · split
      · exact List.forall_mem_singleton.mpr (Or.inl rfl)
      · exact nofun

end Runs

/-- Another text changes nothing but the reserved module's file.  Other exports change
nothing about the imports: every run with these options, text and imports has the import
side of the run without exports. -/
theorem generate_sides_apart (options : Options) (imports : List ImportBinding) :
    (∀ exports boilerplate other,
      let run := generate options boilerplate exports imports
      let retold := generate options other exports imports
      retold.diagnostics = run.diagnostics ∧ retold.exports = run.exports ∧
        retold.imports = run.imports ∧
        SameBut options.reservedFileName run.files retold.files) ∧
    ∀ boilerplate exports,
      AddsExports options exports (generate options boilerplate [] imports)
        (generate options boilerplate exports imports) := by
  refine ⟨fun exports boilerplate other => ?_, fun boilerplate exports =>
    generate_addsExports options boilerplate exports imports⟩
  refine ⟨?_, ?_, ?_, ?_⟩
  · rw [generate_reports, generate_reports]
  · rw [generate_exports, generate_exports]
  · rw [generate_imports, generate_imports]
  · rw [generate_files, generate_files]
    exact (ImportPlan.files_sameBut options boilerplate other _).append (.refl _ _)

end GuestGlue.Glue
