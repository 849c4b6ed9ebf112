/-
Grouping by host module.  One pass over the imports keeps an index into the growing list of
groups.  After each import the groups are those of the imports so far: the modules stand
in the order in which they are first named, each with its own imports in their order, and
the index gives the place of each module's group.
-/

import GuestGlue.Glue.Import
import GuestGlue.Proofs.NameMap
import Mathlib.Data.List.Induction
import Mathlib.Data.List.Nodup

namespace GuestGlue.Glue

/-! ### Names at their first place -/

def firstSeen : List String → List String
  | [] => []
  | name :: rest => name :: (firstSeen rest).filter (· ≠ name)

theorem firstSeen_nodup (names : List String) : (firstSeen names).Nodup := by
  induction names with
  | nil => exact List.nodup_nil
  | cons name rest ih =>
      rw [firstSeen, List.nodup_cons]
      exact ⟨by simp, ih.filter _⟩

theorem mem_firstSeen {names : List String} {name : String} :
    name ∈ firstSeen names ↔ name ∈ names := by
  induction names with
  | nil => exact Iff.rfl
  | cons first rest ih =>
      rw [firstSeen, List.mem_cons, List.mem_cons, List.mem_filter, ih]
      by_cases same : name = first <;> simp [same]

theorem firstSeen_concat (names : List String) (name : String) :
    firstSeen (names ++ [name]) =
      if name ∈ firstSeen names then firstSeen names else firstSeen names ++ [name] := by
  induction names with
  | nil => rfl
  | cons first rest ih =>
      rw [List.cons_append, firstSeen, firstSeen, ih]
      by_cases same : name = first
      · rw [if_pos (List.mem_cons.mpr (Or.inl same))]
        split
        · rfl
        · simp [same]
      · have member : name ∈ first :: (firstSeen rest).filter (· ≠ first) ↔
            name ∈ firstSeen rest := by
          simp [same]
        simp only [member]
        split
        · rfl
        · simp [same]

def hostModules (imports : List ImportBinding) : List String :=
  firstSeen (imports.map (·.hostModule))

theorem mem_hostModules {imports : List ImportBinding} {hostModule : String} :
    hostModule ∈ hostModules imports ↔ ∃ binding ∈ imports, binding.hostModule = hostModule := by
  rw [hostModules, mem_firstSeen, List.mem_map]

/-! ### Groups so far -/

/-- The group of a host module among the imports seen so far; it may be empty. -/
def groupOf (seen : List ImportBinding) (hostModule : String) : Group :=
  ⟨hostModule, seen.filter (·.hostModule = hostModule)⟩

theorem groupOf_concat_self (seen : List ImportBinding) (binding : ImportBinding) :
    groupOf (seen ++ [binding]) binding.hostModule =
      ⟨binding.hostModule, (groupOf seen binding.hostModule).imports ++ [binding]⟩ := by
  simp [groupOf]

theorem groupOf_concat_of_ne {binding : ImportBinding} {hostModule : String}
    (other : hostModule ≠ binding.hostModule) (seen : List ImportBinding) :
    groupOf (seen ++ [binding]) hostModule = groupOf seen hostModule := by
  simp [groupOf, Ne.symm other]

theorem groupOf_of_notMem {seen : List ImportBinding} {hostModule : String}
    (unseen : hostModule ∉ hostModules seen) : groupOf seen hostModule = ⟨hostModule, []⟩ := by
  rw [groupOf, List.filter_eq_nil_iff.mpr]
  intro binding member same
  exact unseen (mem_hostModules.mpr ⟨binding, member, of_decide_eq_true same⟩)

namespace Grouping

/-- The groups of these host modules, with the imports seen so far, and their index. -/
structure Holds (grouping : Grouping) (names : List String) (seen : List ImportBinding) :
    Prop where
  groups : grouping.groups.toList = names.map (groupOf seen)
  index : ∀ hostModule slot,
    grouping.index.find? hostModule = some slot ↔ names[slot]? = some hostModule

variable {grouping : Grouping} {seen : List ImportBinding} {names : List String}

theorem holds_empty : empty.Holds [] [] where
  groups := rfl
  index _ _ := iff_of_false nofun nofun

theorem Holds.size_groups (holds : grouping.Holds names seen) :
    grouping.groups.size = names.length := by
  rw [← Array.length_toList, holds.groups, List.length_map]

theorem Holds.find?_eq_none_iff (holds : grouping.Holds names seen) {hostModule : String} :
    grouping.index.find? hostModule = none ↔ hostModule ∉ names := by
  rw [Option.eq_none_iff_forall_ne_some, List.mem_iff_getElem?, not_exists]
  exact forall_congr' fun slot => not_congr (holds.index hostModule slot)

theorem getElem?_concat_eq_some_iff {name other : String} {slot : Nat} :
    (names ++ [name])[slot]? = some other ↔
      names[slot]? = some other ∨ slot = names.length ∧ name = other := by
  rw [List.getElem?_append]
  split
  · next inside => simp [Nat.ne_of_lt inside]
  · next outside =>
    have nothing : names[slot]? = none := List.getElem?_eq_none (Nat.le_of_not_lt outside)
    rw [nothing, List.getElem?_singleton]
    split
    · next last =>
      have position : slot = names.length := by omega
      simp [position]
    · next beyond =>
      have position : slot ≠ names.length := by omega
      simp [position]

theorem Holds.hostModule_getElem? (holds : grouping.Holds names seen) (slot : Nat) :
    (grouping.groups[slot]?).map (·.hostModule) = names[slot]? := by
  rw [← Array.getElem?_toList, holds.groups, List.getElem?_map, Option.map_map]
  exact congrFun Option.map_id _

/-- After the slot is found, the module has a group, and the slot is its place. -/
theorem Holds.slot (holds : grouping.Holds (hostModules seen) seen) (hostModule : String) :
    let after := if hostModule ∈ hostModules seen then hostModules seen
      else hostModules seen ++ [hostModule]
    (grouping.slot hostModule).2.Holds after seen ∧
      after[(grouping.slot hostModule).1]? = some hostModule := by
  rw [Grouping.slot]
  cases found : grouping.index.find? hostModule with
  | some slot =>
      have place := (holds.index hostModule slot).mp found
      rw [if_pos (List.mem_of_getElem? place)]
      exact ⟨holds, place⟩
  | none =>
      have unseen := holds.find?_eq_none_iff.mp found
      rw [if_neg unseen]
      refine ⟨⟨?_, fun other slot => ?_⟩, ?_⟩
      · rw [Array.toList_push, holds.groups, List.map_append, List.map_singleton,
          groupOf_of_notMem unseen]
      · rw [NameMap.find?_insert, holds.size_groups, getElem?_concat_eq_some_iff]
        by_cases same : other = hostModule
        · subst same
          have absent : (hostModules seen)[slot]? ≠ some other := fun present =>
            unseen (List.mem_of_getElem? present)
          simp [absent, eq_comm]
        · rw [if_neg same, holds.index]
          simp [Ne.symm same]
      · rw [holds.size_groups]
        exact List.getElem?_concat_length

/-- The group at the slot gets the binding, and the others stay as they are. -/
theorem Holds.modify (holds : grouping.Holds names seen) (distinct : names.Nodup)
    {binding : ImportBinding} {slot : Nat} (place : names[slot]? = some binding.hostModule) :
    Holds { grouping with
      groups := grouping.groups.modify slot fun group =>
        { group with imports := group.imports ++ [binding] } } names (seen ++ [binding]) where
  groups := by
    rw [Array.toList_modify, holds.groups]
    apply List.ext_getElem?
    intro position
    rw [List.getElem?_modify, List.getElem?_map, List.getElem?_map]
    cases named : names[position]? with
    | none => rfl
    | some hostModule =>
        by_cases here : slot = position
        · subst here
          cases Option.some.inj (named.symm.trans place)
          simp only [Option.map_eq_map, Option.map_some, if_true, groupOf_concat_self]
          rfl
        · have other : hostModule ≠ binding.hostModule := by
            rintro rfl
            have inside := (List.getElem?_eq_some_iff.mp place).1
            exact here ((List.getElem?_inj inside distinct).mp (place.trans named.symm))
          simp only [Option.map_eq_map, Option.map_some, if_neg here, groupOf_concat_of_ne other]
  index := holds.index

theorem Holds.place (holds : grouping.Holds (hostModules seen) seen) (binding : ImportBinding) :
    (grouping.place binding).Holds (hostModules (seen ++ [binding])) (seen ++ [binding]) := by
  obtain ⟨found, place⟩ := holds.slot binding.hostModule
  have after : hostModules (seen ++ [binding]) =
      if binding.hostModule ∈ hostModules seen then hostModules seen
      else hostModules seen ++ [binding.hostModule] := by
    rw [hostModules, List.map_append, List.map_singleton, firstSeen_concat]
    rfl
  rw [← after] at found place
  exact found.modify (firstSeen_nodup _) place

theorem holds_foldl (imports : List ImportBinding) :
    (imports.foldl place empty).Holds (hostModules imports) imports := by
  induction imports using List.reverseRecOn with
  | nil => exact holds_empty
  | append_singleton seen binding ih =>
      rw [List.foldl_append]
      exact ih.place binding

end Grouping

/-! ### All groups -/

theorem groups_eq (imports : List ImportBinding) :
    groups imports = (hostModules imports).map (groupOf imports) :=
  (Grouping.holds_foldl imports).groups

theorem groups_hostModules (imports : List ImportBinding) :
    (groups imports).map (·.hostModule) = hostModules imports := by
  rw [groups_eq, List.map_map]
  exact List.map_id _

theorem groups_nodup (imports : List ImportBinding) :
    ((groups imports).map (·.hostModule)).Nodup := by
  rw [groups_hostModules]
  exact firstSeen_nodup _

theorem groups_imports (imports : List ImportBinding) :
    ∀ group ∈ groups imports,
      group.imports = imports.filter (·.hostModule = group.hostModule) := by
  rw [groups_eq]
  exact List.forall_mem_map.mpr fun _ _ => rfl

theorem groups_own (imports : List ImportBinding) :
    ∀ group ∈ groups imports, ∀ binding ∈ group.imports,
      binding.hostModule = group.hostModule := by
  intro group listed binding member
  rw [groups_imports imports group listed] at member
  exact of_decide_eq_true (List.mem_filter.mp member).2

theorem groups_nonempty (imports : List ImportBinding) :
    ∀ group ∈ groups imports, group.imports ≠ [] := by
  rw [groups_eq]
  refine List.forall_mem_map.mpr fun hostModule named => ?_
  obtain ⟨binding, present, own⟩ := mem_hostModules.mp named
  exact List.ne_nil_of_mem (List.mem_filter.mpr ⟨present, decide_eq_true own⟩)

/-- Taking the items of one name after another only reorders them. -/
theorem flatMap_filter_perm {α : Type} (nameOf : α → String) {names : List String}
    {items : List α} (distinct : names.Nodup) (covered : ∀ item ∈ items, nameOf item ∈ names) :
    (names.flatMap fun name => items.filter (nameOf · = name)).Perm items := by
  induction names generalizing items with
  | nil =>
      have empty : items = [] := List.eq_nil_iff_forall_not_mem.mpr fun item member =>
        nomatch covered item member
      exact empty ▸ List.Perm.refl _
  | cons name rest ih =>
      obtain ⟨apart, distinct⟩ := List.nodup_cons.mp distinct
      -- the later names find all their items among those of other names
      have later : (rest.flatMap fun other => items.filter (nameOf · = other)) =
          rest.flatMap fun other =>
            (items.filter fun item => !decide (nameOf item = name)).filter
              (nameOf · = other) := by
        refine List.flatMap_congr fun other member => ?_
        rw [List.filter_filter]
        refine List.filter_congr fun item _ => ?_
        have different : other ≠ name := fun same => apart (same ▸ member)
        by_cases here : nameOf item = other <;> simp [here, different]
      have coveredLater : ∀ item ∈ items.filter fun item => !decide (nameOf item = name),
          nameOf item ∈ rest := by
        intro item member
        obtain ⟨present, other⟩ := List.mem_filter.mp member
        exact (List.mem_cons.mp (covered item present)).resolve_left (by simpa using other)
      rw [List.flatMap_cons, later]
      exact ((ih distinct coveredLater).append_left _).trans (List.filter_append_perm _ _)

theorem groups_perm (imports : List ImportBinding) :
    ((groups imports).flatMap (·.imports)).Perm imports := by
  rw [groups_eq, List.flatMap_map]
  refine flatMap_filter_perm ImportBinding.hostModule (firstSeen_nodup _) fun binding member => ?_
  exact mem_hostModules.mpr ⟨binding, member, rfl⟩

/-- The groups are the imports taken apart by host module, and the pass over the imports
never loses the place of a group. -/
structure StablePartition (imports : List ImportBinding) : Prop where
  names : (groups imports).map (·.hostModule) = hostModules imports
  distinct : ((groups imports).map (·.hostModule)).Nodup
  members : ∀ group ∈ groups imports,
    group.imports = imports.filter (·.hostModule = group.hostModule)
  once : ((groups imports).flatMap (·.imports)).Perm imports
  index : ∀ seen later, imports = seen ++ later →
    let grouping := seen.foldl Grouping.place .empty
    ∀ hostModule slot, grouping.index.find? hostModule = some slot ↔
      (grouping.groups[slot]?).map (·.hostModule) = some hostModule
  place : ∀ seen binding later, imports = seen ++ binding :: later →
    let (slot, grouping) := (seen.foldl Grouping.place .empty).slot binding.hostModule
    (grouping.groups[slot]?).map (·.hostModule) = some binding.hostModule

theorem groups_stablePartition (imports : List ImportBinding) : StablePartition imports where
  names := groups_hostModules imports
  distinct := groups_nodup imports
  members := groups_imports imports
  once := groups_perm imports
  index seen _ _ hostModule slot := by
    have holds := Grouping.holds_foldl seen
    rw [holds.hostModule_getElem?]
    exact holds.index hostModule slot
  place seen binding _ _ := by
    obtain ⟨holds, place⟩ := (Grouping.holds_foldl seen).slot binding.hostModule
    exact (holds.hostModule_getElem? _).trans place

end GuestGlue.Glue
