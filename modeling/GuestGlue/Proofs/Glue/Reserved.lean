/-
Runs that differ in the reserved module.  Its name decides which file is kept free of
other modules, and through the names of files which bindings are bridged.  Where both
names are set apart from all other files, both runs decide the same about every binding.
-/

import GuestGlue.Proofs.Glue.Layout

namespace GuestGlue

def Options.withReserved (options : Options) (name : String) : Options :=
  { options with reservedModule := name }

namespace Glue

/-! ### One module more -/

section Groups

variable {options : Options} {taken next : List String} {symbols : CSource.SymbolTable}
  {group : Group} {rest : List Group}

/-- A module that gets its file takes a name, unless that was reserved for it. -/
def Files (options : Options) (taken : List String) (hostModule : String)
    (next : List String) : Prop :=
  hostModule = options.reservedModule ∧ next = taken ∨
    hostModule ≠ options.reservedModule ∧ Admits options taken hostModule ∧
      next = foldedName options hostModule :: taken

theorem ruleGroups_of_files (files : Files options taken group.hostModule next) :
    ruleGroups options taken symbols (group :: rest) =
      let ruled := ruleImports symbols group.imports
      let later := ruleGroups options next ruled.2 rest
      (⟨group.hostModule, true, ruled.1⟩ :: later.1, later.2) := by
  rw [ruleGroups]
  rcases files with ⟨reserved, rfl⟩ | ⟨other, admitted, rfl⟩
  · simp only [if_pos reserved]
  · simp only [if_neg other, refusal?_eq_none_iff.mpr admitted]
    rfl

theorem ruleGroups_of_refusal {refusal : Refusal}
    (other : group.hostModule ≠ options.reservedModule)
    (refused : refusal? options taken group.hostModule = some refusal) :
    ruleGroups options taken symbols (group :: rest) =
      let later := ruleGroups options taken symbols rest
      (⟨group.hostModule, false, group.imports.map refusal.ruling⟩ :: later.1, later.2) := by
  rw [ruleGroups]
  simp only [if_neg other, refused]

end Groups

/-! ### One run beside the other -/

section Runs

variable {options : Options} {name : String} {taken other : List String}

theorem refusal?_congr {hostModule : String}
    (same : foldedName options hostModule ∈ taken ↔ foldedName options hostModule ∈ other) :
    refusal? options other hostModule = refusal? options taken hostModule := by
  have contains : other.contains (foldedName options hostModule) =
      taken.contains (foldedName options hostModule) := by
    rw [Bool.eq_iff_iff, List.contains_iff_mem, List.contains_iff_mem]
    exact same.symm
  unfold foldedName at contains
  unfold refusal?
  simp only [contains]

/-- No other of these modules has a file name like that of the module. -/
def Unlike (options : Options) (hostModules : List String) (hostModule : String) : Prop :=
  ∀ other ∈ hostModules, other ≠ hostModule →
    foldedName options other ≠ foldedName options hostModule

/-- With one name taken on one side and another on the other side, the modules that are
left find the same names free. -/
structure Beside (options : Options) (name : String) (taken other : List String)
    (hostModules : List String) : Prop where
  unlikeReserved : Unlike options hostModules options.reservedModule
  unlikeNamed : Unlike options hostModules name
  taken_iff : ∀ hostModule ∈ hostModules, hostModule ≠ options.reservedModule →
    hostModule ≠ name →
      (foldedName options hostModule ∈ taken ↔ foldedName options hostModule ∈ other)
  reserved : options.reservedModule ∈ hostModules → Admits options other options.reservedModule
  named : name ∈ hostModules → Admits options taken name

theorem Beside.tail {hostModule : String} {rest : List String}
    (beside : Beside options name taken other (hostModule :: rest)) :
    Beside options name taken other rest where
  unlikeReserved later member := beside.unlikeReserved later (List.mem_cons_of_mem _ member)
  unlikeNamed later member := beside.unlikeNamed later (List.mem_cons_of_mem _ member)
  taken_iff later member := beside.taken_iff later (List.mem_cons_of_mem _ member)
  reserved member := beside.reserved (List.mem_cons_of_mem _ member)
  named member := beside.named (List.mem_cons_of_mem _ member)

theorem Beside.fileTaken {hostModule : String} {rest : List String}
    (beside : Beside options name taken other (hostModule :: rest))
    (notReserved : hostModule ≠ options.reservedModule)
    (notNamed : hostModule ≠ name) :
    Beside options name (foldedName options hostModule :: taken)
      (foldedName options hostModule :: other) rest where
  unlikeReserved := beside.tail.unlikeReserved
  unlikeNamed := beside.tail.unlikeNamed
  taken_iff later member laterNotReserved laterNotNamed := by
    rw [List.mem_cons, List.mem_cons,
      beside.tail.taken_iff later member laterNotReserved laterNotNamed]
  reserved member := admits_cons_iff.mpr ⟨beside.tail.reserved member,
    beside.unlikeReserved hostModule List.mem_cons_self notReserved⟩
  named member := admits_cons_iff.mpr ⟨beside.tail.named member,
    beside.unlikeNamed hostModule List.mem_cons_self notNamed⟩

/-- What is reserved on one side is one of many on the other, and takes its name there. -/
theorem Beside.reservedTaken {rest : List String}
    (beside : Beside options name taken other (options.reservedModule :: rest))
    (apart : options.reservedModule ∉ rest) :
    Beside options name taken (foldedName options options.reservedModule :: other) rest where
  unlikeReserved := beside.tail.unlikeReserved
  unlikeNamed := beside.tail.unlikeNamed
  taken_iff later member notReserved notNamed := by
    rw [List.mem_cons, or_iff_right (beside.tail.unlikeReserved later member notReserved)]
    exact beside.tail.taken_iff later member notReserved notNamed
  reserved member := absurd member apart
  named := beside.tail.named

theorem Beside.namedTaken {rest : List String}
    (beside : Beside options name taken other (name :: rest)) (apart : name ∉ rest) :
    Beside options name (foldedName options name :: taken) other rest where
  unlikeReserved := beside.tail.unlikeReserved
  unlikeNamed := beside.tail.unlikeNamed
  taken_iff later member notReserved notNamed := by
    rw [List.mem_cons, or_iff_right (beside.tail.unlikeNamed later member notNamed)]
    exact beside.tail.taken_iff later member notReserved notNamed
  reserved := beside.tail.reserved
  named member := absurd member apart

/-- The rulings stay the same if another module is the reserved one. -/
theorem ruleGroups_withReserved {groups : List Group} (symbols : CSource.SymbolTable)
    (different : name ≠ options.reservedModule)
    (distinct : (groups.map (·.hostModule)).Nodup)
    (beside : Beside options name taken other (groups.map (·.hostModule))) :
    ruleGroups (options.withReserved name) other symbols groups =
      ruleGroups options taken symbols groups := by
  induction groups generalizing taken other symbols with
  | nil => rfl
  | cons group rest ih =>
      rw [List.map_cons] at distinct beside
      obtain ⟨apart, distinct⟩ := List.nodup_cons.mp distinct
      -- both runs give the module its file, and go on with what is taken then
      have filed {next nextOther : List String} (files : Files options taken group.hostModule next)
          (filesOther : Files (options.withReserved name) other group.hostModule nextOther)
          (later : Beside options name next nextOther (rest.map (·.hostModule))) :
          ruleGroups (options.withReserved name) other symbols (group :: rest) =
            ruleGroups options taken symbols (group :: rest) := by
        rw [ruleGroups_of_files files, ruleGroups_of_files filesOther]
        simp only [ih _ distinct later]
      by_cases isReserved : group.hostModule = options.reservedModule
      · rw [isReserved] at beside apart
        have notNamed : group.hostModule ≠ name := fun named =>
          different (named.symm.trans isReserved)
        have admitted := beside.reserved List.mem_cons_self
        rw [← isReserved] at admitted
        apply filed (Or.inl ⟨isReserved, rfl⟩) (Or.inr ⟨notNamed, admitted, rfl⟩)
        exact isReserved ▸ beside.reservedTaken apart
      · by_cases isNamed : group.hostModule = name
        · rw [isNamed] at beside apart
          have admitted := beside.named List.mem_cons_self
          rw [← isNamed] at admitted
          apply filed (Or.inr ⟨isReserved, admitted, rfl⟩) (Or.inl ⟨isNamed, rfl⟩)
          exact isNamed ▸ beside.namedTaken apart
        · have same := beside.taken_iff _ List.mem_cons_self isReserved isNamed
          have alike : refusal? (options.withReserved name) other group.hostModule =
              refusal? options taken group.hostModule := refusal?_congr same
          cases refused : refusal? options taken group.hostModule with
          | some refusal =>
              rw [ruleGroups_of_refusal isReserved refused, @ruleGroups_of_refusal
                (options.withReserved name) other symbols group rest refusal isNamed
                (alike.trans refused)]
              simp only [ih _ distinct beside.tail]
          | none =>
              have admitted := refusal?_eq_none_iff.mp refused
              have admittedOther := refusal?_eq_none_iff.mp (alike.trans refused)
              apply filed (Or.inr ⟨isReserved, admitted, rfl⟩)
                (Or.inr ⟨isNamed, admittedOther, rfl⟩)
              exact beside.fileTaken isReserved isNamed

end Runs

/-! ### Plans and whole runs -/

structure SetApart (options : Options) (imports : List ImportBinding) (hostModule : String) :
    Prop where
  plain : FileName.isPlain (options.fileName hostModule) = true
  notExports : ¬FileName.Same (options.fileName hostModule) options.exportsFileName
  unlike : ∀ other ∈ hostModules imports, other ≠ hostModule →
    ¬FileName.Same (options.fileName other) (options.fileName hostModule)

section Plans

variable {options : Options} {name : String} {imports : List ImportBinding}

theorem beside_takenAtFirst (different : name ≠ options.reservedModule)
    (reserved : SetApart options imports options.reservedModule)
    (named : SetApart options imports name) :
    Beside options name (takenAtFirst options) (takenAtFirst (options.withReserved name))
      (hostModules imports) where
  unlikeReserved := reserved.unlike
  unlikeNamed := named.unlike
  taken_iff hostModule member notReserved notNamed := by
    simp only [takenAtFirst, List.mem_cons, List.not_mem_nil, or_false]
    apply or_congr_right
    apply iff_of_false
    · exact reserved.unlike hostModule member notReserved
    · exact named.unlike hostModule member notNamed
  reserved member := by
    refine ⟨reserved.plain, ?_⟩
    rw [takenAtFirst, List.mem_cons, List.mem_singleton, not_or]
    exact ⟨reserved.notExports, named.unlike _ member different.symm⟩
  named member := by
    refine ⟨named.plain, ?_⟩
    rw [takenAtFirst, List.mem_cons, List.mem_singleton, not_or]
    exact ⟨named.notExports, reserved.unlike _ member different⟩

theorem planImports_withReserved (symbols : CSource.SymbolTable)
    (reserved : SetApart options imports options.reservedModule)
    (named : SetApart options imports name) :
    planImports (options.withReserved name) symbols imports =
      planImports options symbols imports := by
  by_cases different : name = options.reservedModule
  · rw [different]
    rfl
  · have beside := beside_takenAtFirst different reserved named
    rw [← groups_hostModules] at beside
    unfold planImports
    rw [ruleGroups_withReserved symbols different (groups_nodup imports) beside]

/-- A run bridges the same bindings under either name if both are set apart. -/
theorem generate_withReserved (boilerplate : String) (exports : List ExportBinding)
    (reserved : SetApart options imports options.reservedModule)
    (named : SetApart options imports name) :
    (generate (options.withReserved name) boilerplate exports imports).exports =
        (generate options boilerplate exports imports).exports ∧
      (generate (options.withReserved name) boilerplate exports imports).imports =
        (generate options boilerplate exports imports).imports := by
  rw [generate_exports, generate_exports, generate_imports, generate_imports,
    planImports_withReserved .runtime reserved named]
  refine ⟨?_, rfl⟩
  rw [if_neg fun same => named.notExports same.symm,
    if_neg fun same => reserved.notExports same.symm]

theorem mem_forwarded {plan : ImportPlan} {binding : ImportBinding}
    (forwarded : binding ∈ plan.forwarded) :
    ∃ ruling ∈ plan.rulings, ruling.binding = binding ∧ ruling.diagnostic? = none := by
  obtain ⟨ruling, ruled, accepted⟩ := List.mem_filterMap.mp forwarded
  rcases ImportRuling.decides ruling with ⟨bridged, silent⟩ | ⟨dropped, _⟩
  · rw [bridged] at accepted
    exact ⟨ruling, ruled, Option.some.inj accepted, silent⟩
  · rw [dropped] at accepted
    cases accepted

/-- An import that is forwarded is one of the run, and its module has a file. -/
theorem filed_of_forwarded {symbols : CSource.SymbolTable} {binding : ImportBinding}
    (forwarded : binding ∈ (planImports options symbols imports).forwarded) :
    binding ∈ imports ∧
      binding.hostModule ∈ (planImports options symbols imports).filed options := by
  obtain ⟨ruling, ruled, rfl, silent⟩ := mem_forwarded forwarded
  constructor
  · apply (planImports_bindings options symbols imports).mem_iff.mp
    exact List.mem_map_of_mem ruled
  · by_contra unfiled
    obtain ⟨diagnostic, reported, _⟩ := ruling_refused ruled unfiled
    rw [silent] at reported
    cases reported

/-- Nothing is bridged from modules whose files would be taken for the reserved one. -/
theorem generate_imports_eq_nil (boilerplate : String) (exports : List ExportBinding)
    (alike : ∀ binding ∈ imports, binding.hostModule ≠ options.reservedModule ∧
      FileName.Same (options.fileName binding.hostModule) options.reservedFileName) :
    (generate options boilerplate exports imports).imports = [] := by
  rw [generate_imports]
  apply List.eq_nil_iff_forall_not_mem.mpr
  intro binding forwarded
  obtain ⟨imported, isFiled⟩ := filed_of_forwarded forwarded
  obtain ⟨other, same⟩ := alike binding imported
  have named : binding.hostModule ∈ hostModules imports :=
    mem_firstSeen.mpr (List.mem_map_of_mem imported)
  obtain ⟨before, after, split⟩ := List.append_of_mem named
  exact ((mem_planImports_filed_iff split other).mp isFiled).2.2.1 same

end Plans

end Glue

end GuestGlue
