/-
The layout of generated files.  A host module gets a file if its file name is plain
and not in use when the module is named first; the reserved module always gets one,
and the export file comes last.  Imports of modules without a file are reported.
-/

import GuestGlue.Proofs.Glue.FileNames
import Mathlib.Data.List.Count

namespace GuestGlue

def FileName.Same (name other : String) : Prop :=
  folded name = folded other

instance (name other : String) : Decidable (FileName.Same name other) :=
  inferInstanceAs (Decidable (FileName.folded name = FileName.folded other))

namespace Glue

/-! ### Which host modules get a file -/

theorem admits_cons_iff {options : Options} {taken : List String} {earlier hostModule : String} :
    Admits options (foldedName options earlier :: taken) hostModule ↔
      Admits options taken hostModule ∧
        foldedName options earlier ≠ foldedName options hostModule := by
  rw [Admits, Admits, List.mem_cons, not_or, and_assoc, ne_comm]
  exact and_congr_right fun _ => and_comm

/-- A module other than the reserved one gets a file exactly if its name was free from
the start and no earlier module with a file has it. -/
theorem mem_filed_iff (options : Options) (taken : List String) (symbols : CSource.SymbolTable)
    {groups : List Group} (distinct : (groups.map (·.hostModule)).Nodup)
    {before after : List String} {hostModule : String}
    (split : groups.map (·.hostModule) = before ++ hostModule :: after)
    (notReserved : hostModule ≠ options.reservedModule) :
    hostModule ∈ filed (ruleGroups options taken symbols groups).1 ↔
      Admits options taken hostModule ∧
        ∀ earlier ∈ before, earlier ∈ filed (ruleGroups options taken symbols groups).1 →
          earlier ≠ options.reservedModule →
            foldedName options earlier ≠ foldedName options hostModule := by
  induction groups generalizing taken symbols before with
  | nil => exact absurd split.symm (List.append_ne_nil_of_right_ne_nil _ (List.cons_ne_nil _ _))
  | cons group rest ih =>
      obtain ⟨apart, distinct⟩ := List.nodup_cons.mp distinct
      have notLater (takenNext : List String) (symbolsNext : CSource.SymbolTable) :
          group.hostModule ∉ filed (ruleGroups options takenNext symbolsNext rest).1 :=
        fun member => apart (filed_subset _ _ _ _ member)
      have step := filed_ruleGroups_cons options taken symbols group rest
      cases before with
      | nil =>
          obtain ⟨rfl, _⟩ := List.cons.inj split
          rcases step with ⟨_, refused, same⟩ |
            ⟨takenNext, symbolsNext, next, ⟨reserved, _⟩ | ⟨_, admitted, _⟩⟩
          · rw [same]
            exact iff_of_false (notLater _ _) fun accepted => refused accepted.1
          · exact absurd reserved notReserved
          · rw [next]
            exact iff_of_true List.mem_cons_self ⟨admitted, nofun⟩
      | cons first before =>
          obtain ⟨rfl, splitRest⟩ := List.cons.inj split
          have inRest : ∀ earlier ∈ before, earlier ≠ group.hostModule := by
            rintro earlier member rfl
            exact apart (splitRest ▸ List.mem_append_left _ member)
          have later : hostModule ≠ group.hostModule := by
            rintro rfl
            exact apart (splitRest ▸ List.mem_append_right _ List.mem_cons_self)
          rw [List.forall_mem_cons]
          rcases step with ⟨_, _, same⟩ |
            ⟨takenNext, symbolsNext, next, ⟨reserved, rfl⟩ | ⟨other, _, rfl⟩⟩
          · rw [same, ih taken symbols distinct splitRest]
            have absent := notLater taken symbols
            simp only [absent, false_implies, true_and]
          · rw [next, List.mem_cons, or_iff_right later, ih _ _ distinct splitRest]
            simp only [reserved, ne_eq, not_true_eq_false, false_implies, implies_true, true_and]
            refine and_congr_right fun _ => forall₂_congr fun earlier member => ?_
            rw [List.mem_cons, or_iff_right (reserved ▸ inRest earlier member)]
          · rw [next, List.mem_cons, or_iff_right later, ih _ _ distinct splitRest, admits_cons_iff,
              and_assoc]
            refine and_congr_right fun _ => and_congr ?_ ?_
            · exact ⟨fun free _ _ => free, fun free => free List.mem_cons_self other⟩
            · refine forall₂_congr fun earlier member => ?_
              rw [List.mem_cons, or_iff_right (inRest earlier member)]

theorem reserved_mem_filed (options : Options) (taken : List String)
    (symbols : CSource.SymbolTable) {groups : List Group}
    (targeted : options.reservedModule ∈ groups.map (·.hostModule)) :
    options.reservedModule ∈ filed (ruleGroups options taken symbols groups).1 := by
  induction groups generalizing taken symbols with
  | nil => cases targeted
  | cons group rest ih =>
      rcases filed_ruleGroups_cons options taken symbols group rest with
        ⟨other, _, same⟩ | ⟨takenNext, symbolsNext, next, _⟩
      · rw [same]
        exact ih _ _ ((List.mem_cons.mp targeted).resolve_left fun here => other here.symm)
      · rw [next]
        rcases List.mem_cons.mp targeted with here | later
        · exact here ▸ List.mem_cons_self
        · exact List.mem_cons_of_mem _ (ih _ _ later)

theorem filed_sublist (options : Options) (taken : List String) (symbols : CSource.SymbolTable)
    (groups : List Group) :
    (filed (ruleGroups options taken symbols groups).1).Sublist (groups.map (·.hostModule)) := by
  rw [← ruleGroups_hostModules options taken symbols groups]
  exact List.filter_sublist.map _

/-! ### Imports of modules without a file -/

/-- The diagnostic is about the import, whose host module has a file name that is not
plain or that is taken. -/
def Refuses (options : Options) (diagnostic : Diagnostic) (binding : ImportBinding) : Prop :=
  diagnostic.symbol = binding.method.fullName ∧
    diagnostic.code =
      if FileName.isPlain (options.fileName binding.hostModule) then .fileNameCollision
      else .invalidFileName

theorem refusal?_code {options : Options} {taken : List String} {hostModule : String}
    {refusal : Refusal} (refused : refusal? options taken hostModule = some refusal) :
    refusal.code = if FileName.isPlain (options.fileName hostModule) then .fileNameCollision
      else .invalidFileName := by
  unfold refusal? at refused
  simp only at refused
  split at refused
  · next unplain =>
    cases refused
    rw [if_neg (by simpa using unplain)]
  · next plain =>
    split at refused
    · cases refused
      rw [if_pos (by simpa using plain)]
    · cases refused

/-- An objection to each binding that the test admits gives back these bindings. -/
theorem objections_filter {rulings : List ImportRuling} (test : ImportBinding → Bool)
    (objected : ∀ ruling ∈ rulings, test ruling.binding = true →
      ruling.diagnostic?.isSome = true) :
    ((rulings.filterMap fun ruling => ruling.diagnostic?.map (ruling.binding, ·)).filter
        (test ·.1)).map (·.1) =
      (rulings.map (·.binding)).filter test := by
  induction rulings with
  | nil => rfl
  | cons ruling rest ih =>
      obtain ⟨objectedFirst, objectedRest⟩ := List.forall_mem_cons.mp objected
      rw [List.map_cons]
      cases admitted : test ruling.binding with
      | false =>
          rw [List.filter_cons_of_neg (by simp [admitted]), ← ih objectedRest]
          cases reported : ruling.diagnostic? <;> simp [reported, admitted]
      | true =>
          obtain ⟨diagnostic, reported⟩ := Option.isSome_iff_exists.mp (objectedFirst admitted)
          rw [List.filter_cons_of_pos admitted, ← ih objectedRest]
          simp [reported, admitted]

/-! ### Plans -/

/-- The host modules in the order in which they are first named, and the reserved one
behind them unless it is named. -/
def fileOrder (options : Options) (imports : List ImportBinding) : List String :=
  if options.reservedModule ∈ hostModules imports then hostModules imports
  else hostModules imports ++ [options.reservedModule]

section Plans

variable (options : Options) (symbols : CSource.SymbolTable) (imports : List ImportBinding)

theorem planImports_hostModules :
    (planImports options symbols imports).modules.map (·.hostModule) = hostModules imports := by
  rw [← groups_hostModules]
  exact ruleGroups_hostModules options (takenAtFirst options) symbols (groups imports)

theorem planImports_hostModules_nodup :
    ((planImports options symbols imports).modules.map (·.hostModule)).Nodup := by
  rw [planImports_hostModules]
  exact firstSeen_nodup _

theorem planImports_targets_iff :
    (planImports options symbols imports).modules.any (·.hostModule = options.reservedModule) =
        true ↔
      options.reservedModule ∈ hostModules imports := by
  rw [← planImports_hostModules options symbols, List.any_eq_true, List.mem_map]
  simp only [decide_eq_true_eq]

theorem planImports_filed_sublist :
    ((planImports options symbols imports).filed options).Sublist (fileOrder options imports) := by
  have sublist := filed_sublist options (takenAtFirst options) symbols (groups imports)
  rw [groups_hostModules] at sublist
  rw [ImportPlan.filed, fileOrder]
  simp only [planImports_targets_iff]
  split
  · exact sublist
  · exact sublist.append_right _

theorem planImports_reserved_mem :
    options.reservedModule ∈ (planImports options symbols imports).filed options := by
  rw [ImportPlan.filed]
  simp only [planImports_targets_iff]
  split
  · next targeted =>
    rw [← groups_hostModules] at targeted
    exact reserved_mem_filed options _ symbols targeted
  · exact List.mem_append_right _ List.mem_cons_self

variable {options symbols imports}

theorem ImportPlan.mem_filed_of_ne {plan : ImportPlan} {hostModule : String}
    (notReserved : hostModule ≠ options.reservedModule) :
    hostModule ∈ plan.filed options ↔ hostModule ∈ Glue.filed plan.modules := by
  rw [ImportPlan.filed]
  split
  · exact Iff.rfl
  · rw [List.mem_append, List.mem_singleton, or_iff_left notReserved]

/-- A host module gets a file exactly if its file name is plain and differs from those
of the exports, of the reserved module and of the modules that got a file before it. -/
theorem mem_planImports_filed_iff {before after : List String} {hostModule : String}
    (split : hostModules imports = before ++ hostModule :: after)
    (notReserved : hostModule ≠ options.reservedModule) :
    hostModule ∈ (planImports options symbols imports).filed options ↔
      FileName.isPlain (options.fileName hostModule) = true ∧
        ¬FileName.Same (options.fileName hostModule) options.exportsFileName ∧
        ¬FileName.Same (options.fileName hostModule) options.reservedFileName ∧
        ∀ earlier ∈ before, earlier ∈ (planImports options symbols imports).filed options →
          earlier ≠ options.reservedModule →
            ¬FileName.Same (options.fileName hostModule) (options.fileName earlier) := by
  rw [← groups_hostModules] at split
  have ruled := mem_filed_iff options (takenAtFirst options) symbols (groups_nodup imports) split
    notReserved
  rw [ImportPlan.mem_filed_of_ne notReserved]
  refine ruled.trans ?_
  rw [Admits, takenAtFirst, List.mem_cons, List.mem_singleton, not_or, and_assoc, and_assoc]
  refine and_congr_right fun _ => and_congr_right fun _ => and_congr_right fun _ => ?_
  refine forall₂_congr fun earlier _ => ⟨fun free isFiled other same => ?_,
    fun free isFiled other same => ?_⟩
  · exact free ((ImportPlan.mem_filed_of_ne other).mp isFiled) other same.symm
  · exact free ((ImportPlan.mem_filed_of_ne other).mpr isFiled) other same.symm

theorem plain_of_mem_planImports_filed {hostModule : String}
    (isFiled : hostModule ∈ (planImports options symbols imports).filed options)
    (notReserved : hostModule ≠ options.reservedModule) :
    FileName.isPlain (options.fileName hostModule) = true ∧
      ¬FileName.Same (options.fileName hostModule) options.exportsFileName := by
  have named := (filed_sublist options (takenAtFirst options) symbols (groups imports)).subset
    ((ImportPlan.mem_filed_of_ne notReserved).mp isFiled)
  rw [groups_hostModules] at named
  obtain ⟨before, after, split⟩ := List.append_of_mem named
  obtain ⟨plain, apart, _⟩ := (mem_planImports_filed_iff split notReserved).mp isFiled
  exact ⟨plain, apart⟩

/-- Of the files of the import side only the reserved one can have the name of the
export file. -/
theorem planImports_collides_iff (boilerplate : String) :
    (∃ file ∈ (planImports options symbols imports).files options boilerplate,
        FileName.Same file.name options.exportsFileName) ↔
      FileName.Same options.exportsFileName options.reservedFileName := by
  have names := (planImports options symbols imports).files_names options boilerplate
  constructor
  · rintro ⟨file, member, same⟩
    have named := List.mem_map_of_mem (f := (·.name)) member
    rw [names] at named
    obtain ⟨hostModule, isFiled, hasName⟩ := List.mem_map.mp named
    by_cases reserved : hostModule = options.reservedModule
    · rw [← hasName, reserved] at same
      exact same.symm
    · exact absurd (hasName ▸ same) (plain_of_mem_planImports_filed isFiled reserved).2
  · intro same
    have named := List.mem_map_of_mem (f := options.fileName)
      (planImports_reserved_mem options symbols imports)
    rw [← names] at named
    obtain ⟨file, member, hasName⟩ := List.mem_map.mp named
    exact ⟨file, member, (congrArg FileName.folded hasName).trans same.symm⟩

theorem ruling_refused {ruling : ImportRuling}
    (ruled : ruling ∈ (planImports options symbols imports).rulings)
    (unfiled : ruling.binding.hostModule ∉ (planImports options symbols imports).filed options) :
    ∃ diagnostic ∈ ruling.diagnostic?, Refuses options diagnostic ruling.binding := by
  obtain ⟨module, listed, _, own, ⟨hasFile, _⟩ | ⟨_, taken, refusal, refused, made⟩⟩ :=
    planImports_origin ruled
  · rw [own] at unfiled
    refine absurd ?_ unfiled
    by_cases reserved : module.hostModule = options.reservedModule
    · exact reserved ▸ planImports_reserved_mem options symbols imports
    · exact (ImportPlan.mem_filed_of_ne reserved).mpr
        (List.mem_map_of_mem (List.mem_filter.mpr ⟨listed, hasFile⟩))
  · rw [← own] at refused
    rw [made]
    exact ⟨_, rfl, rfl, refusal?_code refused⟩

/-- Each import of a module without a file is objected to once, and refused. -/
theorem planImports_unfiled_objections :
    let plan := planImports options symbols imports
    ((plan.objections.filter (·.1.hostModule ∉ plan.filed options)).map (·.1)).Perm
        (imports.filter (·.hostModule ∉ plan.filed options)) ∧
      ∀ objection ∈ plan.objections, objection.1.hostModule ∉ plan.filed options →
        Refuses options objection.2 objection.1 := by
  intro plan
  constructor
  · have objected : ∀ ruling ∈ plan.rulings,
        decide (ruling.binding.hostModule ∉ plan.filed options) = true →
          ruling.diagnostic?.isSome = true := by
      intro ruling ruled unfiled
      obtain ⟨diagnostic, reported, _⟩ := ruling_refused ruled (of_decide_eq_true unfiled)
      exact Option.isSome_of_mem reported
    have kept := objections_filter
      (fun binding => decide (binding.hostModule ∉ plan.filed options)) objected
    exact (List.Perm.of_eq kept).trans ((planImports_bindings options symbols imports).filter _)
  · intro objection member unfiled
    obtain ⟨ruling, ruled, made⟩ := List.mem_filterMap.mp member
    obtain ⟨diagnostic, reported, rfl⟩ := Option.map_eq_some_iff.mp made
    obtain ⟨other, alsoReported, refuses⟩ := ruling_refused ruled unfiled
    cases Option.mem_unique reported alsoReported
    exact refuses

theorem fileName_inj {options : Options} {stem other : String} :
    options.fileName stem = options.fileName other ↔ stem = other := by
  rw [Options.fileName, Options.fileName, ← String.toList_inj, ← String.toList_inj]
  simp

theorem toList_endLine (text : String) : text.toList <+: (endLine text).toList := by
  rw [endLine]
  split
  · exact List.prefix_refl _
  · rw [String.toList_append]
    exact List.prefix_append _ _

/-- The reserved module's file starts with the caller's text. -/
theorem planImports_reserved_text {boilerplate : String} {file : GlueFile}
    (member : file ∈ (planImports options symbols imports).files options boilerplate)
    (named : file.name = options.reservedFileName) :
    boilerplate.toList <+: file.content.toList := by
  have ofModule : file ∈ (planImports options symbols imports).modules.filterMap
        (·.file? options boilerplate) → boilerplate.toList <+: file.content.toList := by
    intro made
    obtain ⟨module, _, found⟩ := List.mem_filterMap.mp made
    unfold ModuleRuling.file? at found
    split at found
    · cases found
      rw [if_pos (fileName_inj.mp named), fileText, String.toList_append]
      exact (toList_endLine boilerplate).trans (List.prefix_append _ _)
    · cases found
  rw [ImportPlan.files] at member
  split at member
  · exact ofModule member
  · rcases List.mem_append.mp member with made | untargeted
    · exact ofModule made
    · cases List.mem_singleton.mp untargeted
      exact List.prefix_refl _

end Plans

/-! ### Whole runs -/

section Runs

variable (options : Options) (boilerplate : String) (exports : List ExportBinding)
  (imports : List ImportBinding)

theorem generate_files :
    (generate options boilerplate exports imports).files =
      (planImports options .runtime imports).files options boilerplate ++
        if exports ≠ [] ∧ ¬FileName.Same options.exportsFileName options.reservedFileName then
          ((planExports (planImports options .runtime imports).symbols exports).file?
            options).toList
        else [] := by
  have collides := @planImports_collides_iff options .runtime imports boilerplate
  rcases generate_cases options boilerplate exports imports with
    ⟨empty, ran⟩ | ⟨_, collision, ran⟩ | ⟨nonempty, apart, file, found, ran⟩
  · rw [ran, if_neg fun exported => exported.1 empty, List.append_nil]
  · rw [ran, if_neg fun exported => exported.2 (collides.mp collision), List.append_nil]
  · have free : ¬FileName.Same options.exportsFileName options.reservedFileName := by
      intro same
      obtain ⟨other, member, collision⟩ := collides.mpr same
      exact apart other member collision
    rw [ran, if_pos ⟨nonempty, free⟩, found]
    rfl

theorem generate_fileNames :
    (generate options boilerplate exports imports).fileNames =
      ((planImports options .runtime imports).filed options).map options.fileName ++
        if exports ≠ [] ∧ ¬FileName.Same options.exportsFileName options.reservedFileName then
          [options.exportsFileName]
        else [] := by
  rw [Output.fileNames, generate_files, List.map_append, ImportPlan.files_names]
  split
  · next exported =>
    cases found : (planExports (planImports options .runtime imports).symbols exports).file?
        options with
    | none => exact absurd (planExports_file?_eq_none_iff.mp found) exported.1
    | some file => rw [Option.toList_some, List.map_singleton, ExportPlan.file?_name found]
  · rfl

/-- Which exports are wrapped does not depend on the caller's text. -/
theorem generate_exports :
    (generate options boilerplate exports imports).exports =
      if FileName.Same options.exportsFileName options.reservedFileName then []
      else (planExports (planImports options .runtime imports).symbols exports).wrapped := by
  have collides := @planImports_collides_iff options .runtime imports boilerplate
  rcases generate_cases options boilerplate exports imports with
    ⟨rfl, ran⟩ | ⟨_, collision, ran⟩ | ⟨_, apart, file, _, ran⟩
  · rw [ran]
    exact (ite_self []).symm
  · rw [ran, if_pos (collides.mp collision)]
  · rw [ran, if_neg]
    intro same
    obtain ⟨other, member, collision⟩ := collides.mpr same
    exact apart other member collision

theorem generate_reports :
    (generate options boilerplate exports imports).diagnostics =
      (planImports options .runtime imports).objections.map (·.2) ++
        ((planExports (planImports options .runtime imports).symbols exports).diagnostics ++
          if exports ≠ [] ∧ FileName.Same options.exportsFileName options.reservedFileName then
            [exportCollision options.exportsFileName]
          else []) := by
  have collides := @planImports_collides_iff options .runtime imports boilerplate
  rw [ImportPlan.objections_diagnostics]
  rcases generate_cases options boilerplate exports imports with
    ⟨rfl, ran⟩ | ⟨nonempty, collision, ran⟩ | ⟨_, apart, file, _, ran⟩
  · rw [ran, if_neg fun exported => exported.1 rfl, List.append_nil]
    exact (List.append_nil _).symm
  · rw [ran, if_pos ⟨nonempty, collides.mp collision⟩, List.append_assoc]
  · have free : ¬FileName.Same options.exportsFileName options.reservedFileName := by
      intro same
      obtain ⟨other, member, collision⟩ := collides.mpr same
      exact apart other member collision
    rw [ran, if_neg fun exported => free exported.2, List.append_nil]

end Runs

structure FileLayout (options : Options) (boilerplate : String) (exports : List ExportBinding)
    (imports : List ImportBinding) (filed : List String) : Prop where
  distinct : (generate options boilerplate exports imports).fileNames.Pairwise
    (¬FileName.Same · ·)
  inOrder : filed.Sublist (fileOrder options imports)
  reservedFiled : options.reservedModule ∈ filed
  names : (generate options boilerplate exports imports).fileNames =
    filed.map options.fileName ++
      if exports ≠ [] ∧ ¬FileName.Same options.exportsFileName options.reservedFileName then
        [options.exportsFileName]
      else []
  filedOnce : ∀ hostModule, (filed.map options.fileName).count (options.fileName hostModule) =
    if hostModule ∈ filed then 1 else 0
  filed_iff : ∀ before hostModule after, hostModules imports = before ++ hostModule :: after →
    hostModule ≠ options.reservedModule →
      (hostModule ∈ filed ↔
        FileName.isPlain (options.fileName hostModule) = true ∧
          ¬FileName.Same (options.fileName hostModule) options.exportsFileName ∧
          ¬FileName.Same (options.fileName hostModule) options.reservedFileName ∧
          ∀ earlier ∈ before, earlier ∈ filed → earlier ≠ options.reservedModule →
            ¬FileName.Same (options.fileName hostModule) (options.fileName earlier))
  reservedOnce : (generate options boilerplate exports imports).fileNames.count
    options.reservedFileName = 1
  reservedText : ∀ file ∈ (generate options boilerplate exports imports).files,
    file.name = options.reservedFileName → boilerplate.toList <+: file.content.toList
  plain : ∀ name ∈ (generate options boilerplate exports imports).fileNames,
    name ≠ options.reservedFileName → name ≠ options.exportsFileName →
      FileName.isPlain name = true
  reports : (generate options boilerplate exports imports).diagnostics =
    (planImports options .runtime imports).objections.map (·.2) ++
      ((planExports (planImports options .runtime imports).symbols exports).diagnostics ++
        if exports ≠ [] ∧ FileName.Same options.exportsFileName options.reservedFileName then
          [exportCollision options.exportsFileName]
        else [])
  unfiledOnce : (((planImports options .runtime imports).objections.filter
    (·.1.hostModule ∉ filed)).map (·.1)).Perm (imports.filter (·.hostModule ∉ filed))
  unfiledRefused : ∀ objection ∈ (planImports options .runtime imports).objections,
    objection.1.hostModule ∉ filed → Refuses options objection.2 objection.1

/-- The files of every run are laid out in this way. -/
theorem generate_fileLayout (options : Options) (boilerplate : String)
    (exports : List ExportBinding) (imports : List ImportBinding) :
    ∃ filed, FileLayout options boilerplate exports imports filed := by
  let plan := planImports options .runtime imports
  have names := generate_fileNames options boilerplate exports imports
  have folded := generate_folded_nodup options boilerplate exports imports
  have reserved : options.reservedModule ∈ plan.filed options :=
    planImports_reserved_mem options .runtime imports
  have filedDistinct : (plan.filed options).Nodup :=
    List.Nodup.of_map _ (planImports_filed_nodup options .runtime imports)
  have unfiled := @planImports_unfiled_objections options .runtime imports
  refine ⟨plan.filed options, ?_⟩
  constructor
  case distinct => exact List.pairwise_map.mpr (List.pairwise_map.mp folded)
  case inOrder => exact planImports_filed_sublist options .runtime imports
  case reservedFiled => exact reserved
  case names => exact names
  case filedOnce =>
    intro hostModule
    rw [List.count_map_of_injective _ _ fun _ _ => fileName_inj.mp, filedDistinct.count]
  case filed_iff => exact fun _ _ _ split other => mem_planImports_filed_iff split other
  case reservedOnce =>
    refine List.count_eq_one_of_mem (generate_names_nodup options boilerplate exports imports) ?_
    rw [names]
    exact List.mem_append_left _ (List.mem_map_of_mem reserved)
  case reservedText =>
    intro file member named
    rw [generate_files] at member
    rcases List.mem_append.mp member with imported | exported
    · exact planImports_reserved_text imported named
    · split at exported
      · next free =>
        have found := ExportPlan.file?_name (Option.mem_toList.mp exported)
        exact absurd (congrArg FileName.folded (found.symm.trans named)) free.2
      · cases exported
  case plain =>
    intro name member notReserved notExported
    rw [names] at member
    rcases List.mem_append.mp member with imported | exported
    · obtain ⟨hostModule, isFiled, rfl⟩ := List.mem_map.mp imported
      have other : hostModule ≠ options.reservedModule := fun same =>
        notReserved (congrArg options.fileName same)
      exact (plain_of_mem_planImports_filed isFiled other).1
    · split at exported
      · exact absurd (List.mem_singleton.mp exported) notExported
      · cases exported
  case reports => exact generate_reports options boilerplate exports imports
  case unfiledOnce => exact unfiled.1
  case unfiledRefused => exact unfiled.2

end Glue

end GuestGlue
