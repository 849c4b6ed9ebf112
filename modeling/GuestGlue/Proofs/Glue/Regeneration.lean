/-
Generating again from what was bridged.  The bridged imports stand in the order of the
run, their modules kept files with names of their own, and no two bridged bindings share
a name.  So a second run accepts all of them, and reports nothing.
-/

import GuestGlue.Proofs.Glue.Verdicts

namespace GuestGlue.Glue

open CSource SymbolTable

/-! ### Verdicts that are all the same -/

section Verdicts

variable {β : Type} {side : Side β} {table last : SymbolTable} {verdicts : List (Verdict β)}

theorem accepted_sublist (verdicts : List (Verdict β)) :
    (accepted verdicts).Sublist (bindings verdicts) := by
  induction verdicts with
  | nil => exact List.Sublist.refl _
  | cons verdict rest ih =>
      obtain ⟨binding, _ | _⟩ := verdict
      · exact ih.cons_cons binding
      · exact ih.cons binding

theorem Settles.sound_of_accepted (settles : Settles side table verdicts last) :
    ∀ binding ∈ accepted verdicts, side.Sound binding := by
  induction settles with
  | nothing _ => exact nofun
  | @step _ _ _ verdict _ judged _ _ ih =>
      rw [accepted_cons, List.forall_mem_append]
      refine ⟨fun binding member => ?_, ih⟩
      obtain ⟨judgedBinding, report⟩ := verdict
      cases report with
      | none =>
          cases List.mem_singleton.mp member
          exact judged.sound rfl
      | some diagnostic => cases member

/-- Sound bindings without a name in common or a name that is taken are all accepted. -/
theorem Settles.silent (settles : Settles side table verdicts last)
    (sound : ∀ binding ∈ bindings verdicts, side.Sound binding)
    (distinct : (table.names ++ (bindings verdicts).flatMap side.cNames).Nodup) :
    ∀ verdict ∈ verdicts, verdict.report = none := by
  induction settles with
  | nothing _ => exact nofun
  | @step table next _ verdict rest judged takes _ ih =>
      obtain ⟨soundHere, soundLater⟩ := List.forall_mem_cons.mp sound
      rw [bindings, List.map_cons, List.flatMap_cons] at distinct
      have apart := (List.nodup_append.mp distinct).2.2
      have silent : verdict.report = none := by
        by_contra reported
        obtain ⟨name, named, isTaken⟩ := (judged.rejected_iff soundHere).mp reported
        exact apart name isTaken name (List.mem_append_left _ named) rfl
      refine List.forall_mem_cons.mpr ⟨silent, ih soundLater ?_⟩
      have taken : verdict.accepted?.toList.flatMap side.cNames = side.cNames verdict.binding := by
        simp [Verdict.accepted?, silent]
      rw [taken] at takes
      rw [← List.append_assoc] at distinct
      exact (takes.perm.append_right _).nodup_iff.mpr distinct

theorem accepted_of_silent (silent : ∀ verdict ∈ verdicts, verdict.report = none) :
    accepted verdicts = bindings verdicts ∧ reports verdicts = [] := by
  constructor
  · rw [accepted, bindings, ← List.filterMap_eq_map]
    refine List.filterMap_congr fun verdict member => ?_
    simp [Verdict.accepted?, silent verdict member]
  · exact List.filterMap_eq_nil_iff.mpr silent

end Verdicts

/-! ### The order of the run -/

/-- The names of one block and those behind it, where no name goes on. -/
theorem firstSeen_append_filter {hostModule : String} {block others : List String}
    (own : ∀ name ∈ block, name = hostModule) (apart : hostModule ∉ others) :
    (firstSeen (block ++ others)).filter (· ≠ hostModule) = firstSeen others := by
  induction block with
  | nil =>
      refine List.filter_eq_self.mpr fun name member => decide_eq_true ?_
      rintro rfl
      exact apart (mem_firstSeen.mp member)
  | cons name rest ih =>
      obtain ⟨rfl, later⟩ := List.forall_mem_cons.mp own
      rw [List.cons_append, firstSeen, List.filter_cons_of_neg (by simp), List.filter_filter]
      simpa using ih later

theorem hostModules_append {first : ImportBinding} {rest others : List ImportBinding}
    (own : ∀ binding ∈ rest, binding.hostModule = first.hostModule)
    (apart : ∀ binding ∈ others, binding.hostModule ≠ first.hostModule) :
    hostModules (first :: rest ++ others) = first.hostModule :: hostModules others := by
  have ownNames : ∀ name ∈ rest.map (·.hostModule), name = first.hostModule :=
    List.forall_mem_map.mpr own
  have unnamed : first.hostModule ∉ others.map (·.hostModule) := by
    intro member
    obtain ⟨binding, present, same⟩ := List.mem_map.mp member
    exact apart binding present same
  rw [hostModules, List.map_append, List.map_cons, List.cons_append, firstSeen,
    firstSeen_append_filter ownNames unnamed]
  rfl

/-- The imports of a host module that no later one names are a group of their own. -/
theorem groups_append {hostModule : String} {own others : List ImportBinding}
    (nonempty : own ≠ []) (ownModule : ∀ binding ∈ own, binding.hostModule = hostModule)
    (otherModules : ∀ binding ∈ others, binding.hostModule ≠ hostModule) :
    groups (own ++ others) = ⟨hostModule, own⟩ :: groups others := by
  obtain ⟨first, rest, rfl⟩ := List.exists_cons_of_ne_nil nonempty
  obtain ⟨rfl, later⟩ := List.forall_mem_cons.mp ownModule
  have block : (first :: rest ++ others).filter (·.hostModule = first.hostModule) =
      first :: rest := by
    rw [List.filter_append, List.filter_eq_self.mpr (by simpa using ownModule),
      List.filter_eq_nil_iff.mpr (by simpa using otherModules), List.append_nil]
  rw [groups_eq, hostModules_append later otherModules, List.map_cons, groupOf, block, groups_eq]
  congr 1
  refine List.map_congr_left fun other member => ?_
  obtain ⟨binding, present, same⟩ := List.mem_map.mp (mem_firstSeen.mp member)
  have different : other ≠ first.hostModule := same ▸ otherModules binding present
  rw [groupOf, List.filter_append, List.filter_eq_nil_iff.mpr, List.nil_append, groupOf]
  intro binding member isOther
  exact different ((of_decide_eq_true isOther).symm.trans (ownModule binding member))

theorem emissionOrder_append (hostModule : String) {own others : List ImportBinding}
    (ownModule : ∀ binding ∈ own, binding.hostModule = hostModule)
    (otherModules : ∀ binding ∈ others, binding.hostModule ≠ hostModule) :
    emissionOrder (own ++ others) = own ++ emissionOrder others := by
  by_cases empty : own = []
  · rw [empty]
    rfl
  · rw [emissionOrder_eq, groups_append empty ownModule otherModules, List.flatMap_cons,
      ← emissionOrder_eq]

/-- What is kept of the imports in the order of a run is in that order. -/
theorem emissionOrder_of_sublist (imports : List ImportBinding) {kept : List ImportBinding}
    (sublist : kept.Sublist (emissionOrder imports)) : emissionOrder kept = kept := by
  have distinct : (hostModules imports).Nodup := firstSeen_nodup _
  unfold emissionOrder at sublist
  generalize hostModules imports = modules at sublist distinct
  induction modules generalizing kept with
  | nil => exact List.sublist_nil.mp sublist ▸ rfl
  | cons hostModule rest ih =>
      obtain ⟨apart, distinct⟩ := List.nodup_cons.mp distinct
      rw [List.flatMap_cons] at sublist
      obtain ⟨own, others, rfl, inBlock, inRest⟩ := List.sublist_append_iff.mp sublist
      rw [emissionOrder_append hostModule, ih inRest distinct]
      · intro binding member
        exact of_decide_eq_true (List.mem_filter.mp (inBlock.subset member)).2
      · intro binding member same
        obtain ⟨other, listed, present⟩ := List.mem_flatMap.mp (inRest.subset member)
        have own := of_decide_eq_true (List.mem_filter.mp present).2
        exact apart (same ▸ own ▸ listed)

/-! ### The second plan -/

section Plans

variable (options : Options) {table : SymbolTable} (imports : List ImportBinding)

theorem forwarded_sound :
    ∀ binding ∈ (planImports options table imports).forwarded,
      (∃ returned, Forwardable binding returned) ∧
        binding.hostModule ∈ (planImports options table imports).filed options := by
  rw [← planImports_accepted]
  exact (planImports_settles options table imports).sound_of_accepted

/-- The host modules of the forwarded imports get their files again. -/
theorem refiled :
    ∀ binding ∈ (planImports options table imports).forwarded,
      binding.hostModule ∈
        (planImports options table (planImports options table imports).forwarded).filed options := by
  intro binding member
  by_cases reserved : binding.hostModule = options.reservedModule
  · rw [reserved]
    exact planImports_reserved_mem options table _
  have isFiled : ∀ hostModule ∈ hostModules (planImports options table imports).forwarded,
      hostModule ∈ (planImports options table imports).filed options := by
    intro hostModule named
    obtain ⟨other, forwarded, rfl⟩ := List.mem_map.mp (mem_firstSeen.mp named)
    exact (forwarded_sound options imports other forwarded).2
  have named : binding.hostModule ∈ hostModules (planImports options table imports).forwarded :=
    mem_firstSeen.mpr (List.mem_map_of_mem member)
  obtain ⟨before, after, split⟩ := List.append_of_mem named
  have distinct : (hostModules (planImports options table imports).forwarded).Nodup :=
    firstSeen_nodup _
  have first := isFiled _ named
  have namedFirst := (filed_sublist options _ table (groups imports)).subset
    ((ImportPlan.mem_filed_of_ne reserved).mp first)
  rw [groups_hostModules] at namedFirst
  obtain ⟨_, _, splitFirst⟩ := List.append_of_mem namedFirst
  obtain ⟨plain, notExports, notReserved, _⟩ :=
    (mem_planImports_filed_iff splitFirst reserved).mp first
  refine (mem_planImports_filed_iff split reserved).mpr
    ⟨plain, notExports, notReserved, fun earlier inBefore _ _ same => ?_⟩
  -- both modules had files in the first run, so their file names differ
  have earlierNamed : earlier ∈ hostModules (planImports options table imports).forwarded :=
    split ▸ List.mem_append_left _ inBefore
  have alike := List.inj_on_of_nodup_map (planImports_filed_nodup options table imports)
    first (isFiled earlier earlierNamed) same
  rw [split] at distinct
  exact (List.nodup_append.mp distinct).2.2 earlier inBefore binding.hostModule
    List.mem_cons_self alike.symm

/-- The forwarded imports are all forwarded again, in the same order, and take the same names. -/
theorem replan_imports (distinct : table.names.Nodup) :
    let first := planImports options table imports
    let second := planImports options table first.forwarded
    second.forwarded = first.forwarded ∧ second.diagnostics = [] ∧ second.symbols = first.symbols := by
  intro first second
  have takes := planImports_takes options table imports
  have order : bindings (second.rulings.map (·.verdict)) = first.forwarded := by
    rw [planImports_order]
    refine emissionOrder_of_sublist imports ?_
    rw [← planImports_order options table imports, ← planImports_accepted]
    exact accepted_sublist _
  have silent : ∀ verdict ∈ second.rulings.map (·.verdict), verdict.report = none := by
    refine (planImports_settles options table first.forwarded).silent ?_ ?_
    · rw [order]
      exact fun binding member => ⟨(forwarded_sound options imports binding member).1,
        refiled options imports binding member⟩
    · rw [order]
      exact takes.nodup distinct
  obtain ⟨whole, quiet⟩ := accepted_of_silent silent
  have same : second.forwarded = first.forwarded := by
    rw [← planImports_accepted, whole, order]
  refine ⟨same, (planImports_reports options table first.forwarded).symm.trans quiet, ?_⟩
  have takesAgain := planImports_takes options table first.forwarded
  rw [same] at takesAgain
  exact takesAgain.unique takes

theorem replan_exports (distinct : table.names.Nodup) (exports : List ExportBinding) :
    let first := planExports table exports
    let second := planExports table first.wrapped
    second.wrapped = first.wrapped ∧ second.diagnostics = [] := by
  intro first second
  have order : bindings (second.rulings.map (·.verdict)) = first.wrapped :=
    planExports_order table first.wrapped
  have silent : ∀ verdict ∈ second.rulings.map (·.verdict), verdict.report = none := by
    refine (ruleExports_settles table first.wrapped).silent ?_ ?_
    · intro binding member
      have wrapped : binding ∈ first.wrapped := order ▸ member
      rw [← planExports_accepted] at wrapped
      exact (ruleExports_settles table exports).sound_of_accepted binding wrapped
    · have names := (planExports_takes table exports).nodup distinct
      rwa [← planExports_order table first.wrapped] at names
  obtain ⟨whole, quiet⟩ := accepted_of_silent silent
  refine ⟨?_, (planExports_reports table first.wrapped).symm.trans quiet⟩
  rw [← planExports_accepted, whole, order]

end Plans

/-! ### The second run -/

theorem ExportPlan.file?_congr (options : Options) {plan other : ExportPlan}
    (nonempty : plan.rulings ≠ []) (otherNonempty : other.rulings ≠ [])
    (same : other.wrapped = plan.wrapped) : other.file? options = plan.file? options := by
  unfold ExportPlan.file?
  rw [if_neg (by simpa using otherNonempty), if_neg (by simpa using nonempty), same]

theorem rulings_ne_nil_of_wrapped {plan : ExportPlan} (wrapped : plan.wrapped ≠ []) :
    plan.rulings ≠ [] := by
  rintro empty
  rw [ExportPlan.wrapped, empty] at wrapped
  exact wrapped rfl

theorem Output.file?_of_mem {output : Output} {file : GlueFile}
    (distinct : (output.files.map (·.name)).Nodup) (member : file ∈ output.files) :
    output.file? file.name = some file := by
  cases found : output.file? file.name with
  | none => exact absurd (decide_eq_true rfl) (List.find?_eq_none.mp found file member)
  | some other =>
      have named : other.name = file.name := by simpa using List.find?_some found
      rw [List.inj_on_of_nodup_map distinct (List.mem_of_find?_eq_some found) member named]

section Runs

variable {options : Options} {boilerplate : String} {exports : List ExportBinding}
  {imports : List ImportBinding}

/-- No export is bridged unless the export file has a name of its own. -/
theorem free_of_bridged (bridged : (generate options boilerplate exports imports).exports ≠ []) :
    ¬FileName.Same options.exportsFileName options.reservedFileName := by
  intro same
  rw [generate_exports, if_pos same] at bridged
  exact bridged rfl

theorem wrapped_of_bridged
    (bridged : (generate options boilerplate exports imports).exports ≠ []) :
    (planExports (planImports options .runtime imports).symbols exports).wrapped =
      (generate options boilerplate exports imports).exports := by
  rw [generate_exports, if_neg (free_of_bridged bridged)]

/-- If an export is bridged, the export file is that of the plan. -/
theorem generate_exportFile
    (bridged : (generate options boilerplate exports imports).exports ≠ []) :
    ∃ file, (planExports (planImports options .runtime imports).symbols exports).file? options =
        some file ∧
      (generate options boilerplate exports imports).file? options.exportsFileName = some file := by
  have nonempty : exports ≠ [] := by
    rintro rfl
    exact bridged (wrapped_of_bridged bridged).symm
  obtain ⟨file, found⟩ := Option.ne_none_iff_exists'.mp
    (mt planExports_file?_eq_none_iff.mp nonempty)
  refine ⟨file, found, ?_⟩
  have member : file ∈ (generate options boilerplate exports imports).files := by
    rw [generate_files, if_pos ⟨nonempty, free_of_bridged bridged⟩, found]
    exact List.mem_append_right _ List.mem_cons_self
  rw [← ExportPlan.file?_name found]
  exact Output.file?_of_mem (generate_names_nodup options boilerplate exports imports) member

theorem runtime_nodup : SymbolTable.runtime.names.Nodup := by decide

/-- Behind the imports of the run the bridged exports are all wrapped again. -/
theorem replan_bridged :
    let bridged := (generate options boilerplate exports imports).exports
    let second := planExports (planImports options .runtime imports).symbols bridged
    second.wrapped = bridged ∧ second.diagnostics = [] := by
  have takes := planImports_takes options .runtime imports
  have distinct := takes.perm.nodup_iff.mpr (takes.nodup runtime_nodup)
  rw [generate_exports]
  split
  · exact ⟨rfl, rfl⟩
  · exact replan_exports distinct exports

end Runs

/-- What was bridged is bridged again, in the same order and without a report, and the
export file stays as it is. -/
theorem generate_bridged_again (options : Options) (boilerplate : String)
    (exports : List ExportBinding) (imports : List ImportBinding) :
    let first := generate options boilerplate exports imports
    let second := generate options boilerplate first.exports first.imports
    second.diagnostics = [] ∧ second.exports = first.exports ∧ second.imports = first.imports ∧
      (first.exports ≠ [] → ∃ file, first.file? options.exportsFileName = some file ∧
        second.file? options.exportsFileName = some file) := by
  intro first second
  have imported : first.imports = (planImports options .runtime imports).forwarded :=
    generate_imports options boilerplate exports imports
  obtain ⟨forwarded, importsSilent, symbols⟩ := replan_imports options imports runtime_nodup
  rw [← imported] at forwarded importsSilent symbols
  have exported : (planExports (planImports options .runtime first.imports).symbols
        first.exports).wrapped = first.exports ∧
      (planExports (planImports options .runtime first.imports).symbols
        first.exports).diagnostics = [] := by
    rw [symbols]
    exact replan_bridged
  have returned : second.exports = first.exports := by
    rw [generate_exports options boilerplate first.exports first.imports, exported.1]
    split
    · next same => exact (not_not.mp fun bridged => free_of_bridged bridged same).symm
    · rfl
  refine ⟨?_, returned, ?_, fun bridged => ?_⟩
  · rw [generate_reports, ImportPlan.objections_diagnostics, importsSilent, exported.2,
      if_neg fun collision => free_of_bridged collision.1 collision.2]
    rfl
  · rw [generate_imports, forwarded, imported]
  · -- both files are those of plans that wrap the same exports
    obtain ⟨file, found, written⟩ := generate_exportFile bridged
    obtain ⟨fileAgain, foundAgain, writtenAgain⟩ := generate_exportFile (returned ▸ bridged)
    have wrapped := wrapped_of_bridged bridged
    have same := ExportPlan.file?_congr options
      (rulings_ne_nil_of_wrapped (wrapped ▸ bridged))
      (rulings_ne_nil_of_wrapped fun unwrapped => bridged (exported.1.symm.trans unwrapped))
      (exported.1.trans wrapped.symm)
    rw [found, foundAgain, Option.some_inj] at same
    exact ⟨file, written, same ▸ writtenAgain⟩

/-- An export and two imports find their name or the name of their file taken. -/
theorem generate_bridged_again_rejected :
    let run : MethodSignature := ⟨"App.dll", "", "App", "Run", [], .void⟩
    let first := generate .standard "" [⟨run, some "start"⟩, ⟨run, some "start"⟩]
      [⟨run, "exports", none⟩, ⟨run, "host", none⟩, ⟨run, "host", none⟩]
    let second := generate .standard "" first.exports first.imports
    first.exports = [⟨run, some "start"⟩] ∧ first.imports = [⟨run, "host", none⟩] ∧
      first.diagnostics.map (·.code) =
        [.fileNameCollision, .duplicateSymbol, .duplicateSymbol] ∧
      second.diagnostics = [] ∧ ∃ file, second.file? "exports.c" = some file := by
  intro run first second
  have exported : first.exports = [⟨run, some "start"⟩] := by decide +kernel
  have bridged : first.exports ≠ [] := by simp [exported]
  obtain ⟨quiet, _, _, written⟩ := generate_bridged_again .standard ""
    [⟨run, some "start"⟩, ⟨run, some "start"⟩]
    [⟨run, "exports", none⟩, ⟨run, "host", none⟩, ⟨run, "host", none⟩]
  obtain ⟨file, _, again⟩ := written bridged
  exact ⟨exported, by decide +kernel, by decide +kernel, quiet, file, again⟩

end GuestGlue.Glue
