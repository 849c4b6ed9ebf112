/-
The names of generated files.  Host modules are ruled on in turn; a module that
gets a file takes its folded name, and the reserved module's name is taken from
the start.  No two files of a run have names that fold to one.
-/

import GuestGlue.Proofs.Glue.Rulings

namespace GuestGlue.Glue

/-! ### Host modules -/

theorem ruleGroups_hostModules (options : Options) (taken : List String) (symbols : CSource.SymbolTable)
    (groups : List Group) :
    (ruleGroups options taken symbols groups).1.map (·.hostModule) = groups.map (·.hostModule) := by
  induction groups generalizing taken symbols with
  | nil => rfl
  | cons group rest ih =>
      rw [ruleGroups]
      split
      · exact congrArg (group.hostModule :: ·) (ih taken symbols)
      · exact congrArg (group.hostModule :: ·) (ih _ _)

/-! ### Modules with a file -/

def filed (modules : List ModuleRuling) : List String :=
  (modules.filter (·.hasFile)).map (·.hostModule)

def foldedName (options : Options) (hostModule : String) : String :=
  FileName.folded (options.fileName hostModule)

def Admits (options : Options) (taken : List String) (hostModule : String) : Prop :=
  FileName.isPlain (options.fileName hostModule) = true ∧ foldedName options hostModule ∉ taken

theorem refusal?_eq_none_iff {options : Options} {taken : List String} {hostModule : String} :
    refusal? options taken hostModule = none ↔ Admits options taken hostModule := by
  unfold refusal?
  simp only
  split
  · next unplain =>
    refine iff_of_false nofun fun admitted => ?_
    simp [admitted.1] at unplain
  · next plain =>
    have isPlain : FileName.isPlain (options.fileName hostModule) = true := by simpa using plain
    split
    · next present =>
      exact iff_of_false nofun fun admitted => admitted.2 (List.contains_iff_mem.mp present)
    · next free =>
      exact iff_of_true rfl ⟨isPlain, fun member => free (List.contains_iff_mem.mpr member)⟩

/-- What becomes of the first module: it gets no file, it is the reserved one, or it
takes a name that was free. -/
theorem filed_ruleGroups_cons (options : Options) (taken : List String)
    (symbols : CSource.SymbolTable) (group : Group) (rest : List Group) :
    (group.hostModule ≠ options.reservedModule ∧ ¬Admits options taken group.hostModule ∧
        filed (ruleGroups options taken symbols (group :: rest)).1 =
          filed (ruleGroups options taken symbols rest).1) ∨
      ∃ takenNext symbolsNext,
        filed (ruleGroups options taken symbols (group :: rest)).1 =
          group.hostModule :: filed (ruleGroups options takenNext symbolsNext rest).1 ∧
        (group.hostModule = options.reservedModule ∧ takenNext = taken ∨
          group.hostModule ≠ options.reservedModule ∧ Admits options taken group.hostModule ∧
            takenNext = foldedName options group.hostModule :: taken) := by
  rw [ruleGroups]
  split
  · next refusal refused =>
    have notReserved : group.hostModule ≠ options.reservedModule := by
      intro reserved
      rw [if_pos reserved] at refused
      cases refused
    rw [if_neg notReserved] at refused
    refine Or.inl ⟨notReserved, fun admitted => ?_, rfl⟩
    rw [refusal?_eq_none_iff.mpr admitted] at refused
    cases refused
  · next accepted =>
    refine Or.inr ⟨_, (ruleImports symbols group.imports).2, rfl, ?_⟩
    by_cases reserved : group.hostModule = options.reservedModule
    · exact Or.inl ⟨reserved, if_pos reserved⟩
    · rw [if_neg reserved] at accepted
      exact Or.inr ⟨reserved, refusal?_eq_none_iff.mp accepted, if_neg reserved⟩

theorem filed_subset (options : Options) (taken : List String) (symbols : CSource.SymbolTable)
    (groups : List Group) :
    filed (ruleGroups options taken symbols groups).1 ⊆ groups.map (·.hostModule) := by
  rw [← ruleGroups_hostModules options taken symbols groups]
  intro hostModule member
  obtain ⟨ruling, kept, rfl⟩ := List.mem_map.mp member
  exact List.mem_map_of_mem (List.mem_filter.mp kept).1

/-- A module with a file has a name that was free, unless it is the reserved one. -/
theorem filed_fresh (options : Options) (taken : List String) (symbols : CSource.SymbolTable)
    (groups : List Group) :
    ∀ hostModule ∈ filed (ruleGroups options taken symbols groups).1,
      hostModule ≠ options.reservedModule → foldedName options hostModule ∉ taken := by
  induction groups generalizing taken symbols with
  | nil => exact nofun
  | cons group rest ih =>
      intro hostModule member other
      rcases filed_ruleGroups_cons options taken symbols group rest with
        ⟨_, _, same⟩ | ⟨takenNext, symbolsNext, next, ⟨reserved, rfl⟩ | ⟨_, ⟨_, free⟩, rfl⟩⟩
      · exact ih taken symbols hostModule (same ▸ member) other
      · rw [next, List.mem_cons] at member
        rcases member with here | inRest
        · exact absurd (here.trans reserved) other
        · exact ih _ _ hostModule inRest other
      · rw [next, List.mem_cons] at member
        rcases member with rfl | inRest
        · exact free
        · exact fun member => ih _ _ hostModule inRest other (List.mem_cons_of_mem _ member)

theorem filed_nodup (options : Options) (taken : List String) (symbols : CSource.SymbolTable)
    (groups : List Group) (reservedTaken : foldedName options options.reservedModule ∈ taken)
    (distinct : (groups.map (·.hostModule)).Nodup) :
    ((filed (ruleGroups options taken symbols groups).1).map (foldedName options)).Nodup := by
  induction groups generalizing taken symbols with
  | nil => exact List.nodup_nil
  | cons group rest ih =>
      obtain ⟨apart, distinct⟩ := List.nodup_cons.mp distinct
      rcases filed_ruleGroups_cons options taken symbols group rest with
        ⟨_, _, same⟩ | ⟨takenNext, symbolsNext, next, ⟨reserved, rfl⟩ | ⟨_, ⟨_, free⟩, rfl⟩⟩
      · exact same ▸ ih taken symbols reservedTaken distinct
      · -- every later module has a name that was free, and the reserved one is not
        rw [next, List.map_cons, List.nodup_cons]
        refine ⟨fun member => ?_, ih _ _ reservedTaken distinct⟩
        obtain ⟨other, filedLater, sameName⟩ := List.mem_map.mp member
        have different : other ≠ options.reservedModule := by
          rintro rfl
          refine apart ?_
          change group.hostModule ∈ _
          rw [reserved]
          exact filed_subset _ _ _ _ filedLater
        refine filed_fresh _ _ _ _ other filedLater different ?_
        rw [sameName, reserved]
        exact reservedTaken
      · rw [next, List.map_cons, List.nodup_cons]
        refine ⟨fun member => ?_, ih _ _ (List.mem_cons_of_mem _ reservedTaken) distinct⟩
        -- a later module is the reserved one or finds this name taken
        obtain ⟨other, filedLater, sameName⟩ := List.mem_map.mp member
        by_cases reserved : other = options.reservedModule
        · exact free (sameName ▸ reserved ▸ reservedTaken)
        · refine filed_fresh _ _ _ _ other filedLater reserved ?_
          rw [sameName]
          exact List.mem_cons_self

/-! ### Files -/

theorem files_names (modules : List ModuleRuling) (options : Options) (boilerplate : String) :
    (modules.filterMap (·.file? options boilerplate)).map (·.name) =
      (filed modules).map options.fileName := by
  induction modules with
  | nil => rfl
  | cons ruling rest ih =>
      cases kept : ruling.hasFile <;> simp [filed, ModuleRuling.file?, kept] at ih ⊢ <;> exact ih

/-- The modules behind the files of the import side; the reserved one is always among them. -/
def ImportPlan.filed (plan : ImportPlan) (options : Options) : List String :=
  if plan.modules.any (·.hostModule = options.reservedModule) then Glue.filed plan.modules
  else Glue.filed plan.modules ++ [options.reservedModule]

theorem ImportPlan.files_names (plan : ImportPlan) (options : Options) (boilerplate : String) :
    (plan.files options boilerplate).map (·.name) = (plan.filed options).map options.fileName := by
  unfold ImportPlan.files ImportPlan.filed
  simp only
  split
  · exact Glue.files_names _ _ _
  · rw [List.map_append, Glue.files_names, List.map_append]
    rfl

theorem planImports_filed_nodup (options : Options) (symbols : CSource.SymbolTable)
    (imports : List ImportBinding) :
    (((planImports options symbols imports).filed options).map (foldedName options)).Nodup := by
  have reservedTaken : foldedName options options.reservedModule ∈ takenAtFirst options :=
    List.mem_cons_of_mem _ List.mem_cons_self
  have distinct := filed_nodup options (takenAtFirst options) symbols (groups imports)
    reservedTaken (groups_nodup imports)
  unfold ImportPlan.filed
  split
  · exact distinct
  · next untargeted =>
    rw [List.map_append, List.nodup_append]
    refine ⟨distinct, List.pairwise_singleton _ _, ?_⟩
    intro name member reserved isReserved same
    obtain ⟨hostModule, isFiled, rfl⟩ := List.mem_map.mp member
    cases List.mem_singleton.mp isReserved
    have different : hostModule ≠ options.reservedModule := by
      rintro rfl
      obtain ⟨ruling, ruled, host⟩ := List.mem_map.mp isFiled
      exact untargeted (List.any_eq_true.mpr
        ⟨ruling, (List.mem_filter.mp ruled).1, decide_eq_true host⟩)
    refine filed_fresh _ _ _ _ hostModule isFiled different ?_
    rw [same]
    exact reservedTaken

theorem planImports_files_nodup (options : Options) (boilerplate : String)
    (symbols : CSource.SymbolTable) (imports : List ImportBinding) :
    (((planImports options symbols imports).files options boilerplate).map
      fun file => FileName.folded file.name).Nodup := by
  have names := congrArg (List.map FileName.folded)
    ((planImports options symbols imports).files_names options boilerplate)
  rw [List.map_map, List.map_map] at names
  exact names ▸ planImports_filed_nodup options symbols imports

/-- No two generated files have names that differ in the case of letters only. -/
theorem generate_folded_nodup (options : Options) (boilerplate : String)
    (exports : List ExportBinding) (imports : List ImportBinding) :
    ((generate options boilerplate exports imports).files.map
      fun file => FileName.folded file.name).Nodup := by
  have distinct := planImports_files_nodup options boilerplate .runtime imports
  rcases generate_cases options boilerplate exports imports with
    ⟨_, ran⟩ | ⟨_, _, ran⟩ | ⟨_, apart, file, found, ran⟩
  · rw [ran]
    exact distinct
  · rw [ran]
    exact distinct
  · rw [ran, List.map_append, List.nodup_append]
    refine ⟨distinct, List.pairwise_singleton _ _, ?_⟩
    intro name member exported isExported same
    obtain ⟨other, present, rfl⟩ := List.mem_map.mp member
    cases List.mem_singleton.mp isExported
    exact apart other present (ExportPlan.file?_name found ▸ same)

theorem generate_names_nodup (options : Options) (boilerplate : String)
    (exports : List ExportBinding) (imports : List ImportBinding) :
    ((generate options boilerplate exports imports).files.map (·.name)).Nodup := by
  have distinct := generate_folded_nodup options boilerplate exports imports
  exact List.Nodup.of_map FileName.folded (by rwa [List.map_map])

/-- Every generated name is a stem, a point and the extension. -/
theorem generate_stem {options : Options} {boilerplate : String} {exports : List ExportBinding}
    {imports : List ImportBinding} {file : GlueFile}
    (member : file ∈ (generate options boilerplate exports imports).files) :
    ∃ stem, file.name = options.fileName stem := by
  have imported : ∀ file ∈ (planImports options .runtime imports).files options boilerplate,
      ∃ stem, file.name = options.fileName stem := by
    intro file member
    have named := List.mem_map_of_mem (f := (·.name)) member
    rw [ImportPlan.files_names] at named
    obtain ⟨stem, _, same⟩ := List.mem_map.mp named
    exact ⟨stem, same.symm⟩
  rcases generate_cases options boilerplate exports imports with
    ⟨_, ran⟩ | ⟨_, _, ran⟩ | ⟨_, _, exported, found, ran⟩
  · rw [ran] at member
    exact imported file member
  · rw [ran] at member
    exact imported file member
  · rw [ran] at member
    rcases List.mem_append.mp member with inImports | isExported
    · exact imported file inImports
    · cases List.mem_singleton.mp isExported
      exact ⟨options.exportsStem, ExportPlan.file?_name found⟩

end GuestGlue.Glue
