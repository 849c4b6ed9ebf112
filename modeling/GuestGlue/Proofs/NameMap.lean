/-
Finite maps by what they answer.  A map that is made from a list answers with the last
value of a name, and two maps with the same answers are equal; so a map is made again
from its entries.
-/

import GuestGlue.NameMap
import Mathlib.Data.List.Perm.Basic

namespace GuestGlue.NameMap

variable {β : Type}

/-! ### Insertion -/

theorem lookup_insertEntry_self (name : String) (value : β) (entries : List (String × β)) :
    (insertEntry name value entries).lookup name = some value := by
  induction entries with
  | nil => exact List.lookup_cons_self
  | cons entry rest ih =>
      rw [insertEntry]
      split
      · exact List.lookup_cons_self
      · split
        · next above =>
          have other : (name == entry.1) = false := beq_false_of_ne (String.ne_of_lt above).symm
          rw [List.lookup_cons, other]
          exact ih
        · exact List.lookup_cons_self

theorem lookup_insertEntry_of_ne {name other : String} (different : other ≠ name) (value : β)
    (entries : List (String × β)) :
    (insertEntry name value entries).lookup other = entries.lookup other := by
  have passed : (other == name) = false := beq_false_of_ne different
  induction entries with
  | nil => rw [insertEntry, List.lookup_cons, passed]
  | cons entry rest ih =>
      rw [insertEntry]
      split
      · rw [List.lookup_cons, passed]
      · split
        · rw [List.lookup_cons, List.lookup_cons, ih]
        · next notBelow notAbove =>
          have same : entry.1 = name := String.le_antisymm notBelow notAbove
          rw [List.lookup_cons, List.lookup_cons, passed, same, passed]

theorem find?_insert (map : NameMap β) (name other : String) (value : β) :
    (map.insert name value).find? other = if other = name then some value else map.find? other := by
  by_cases same : other = name
  · rw [if_pos same, same]
    exact lookup_insertEntry_self name value map.entries
  · rw [if_neg same]
    exact lookup_insertEntry_of_ne same value map.entries

/-! ### Maps from lists -/

theorem find?_foldl_insert (map : NameMap β) (entries : List (String × β)) (name : String) :
    (entries.foldl (fun map entry => map.insert entry.1 entry.2) map).find? name =
      (entries.reverse.lookup name).or (map.find? name) := by
  induction entries generalizing map with
  | nil => rfl
  | cons entry rest ih =>
      have here : (map.insert entry.1 entry.2).find? name =
          ([entry].lookup name).or (map.find? name) := by
        rw [find?_insert, List.lookup_cons]
        by_cases same : name = entry.1
        · simp [same]
        · rw [if_neg same, beq_false_of_ne same]
          rfl
      rw [List.foldl_cons, ih, here, List.reverse_cons, List.lookup_append, Option.or_assoc]

theorem find?_ofList (entries : List (String × β)) (name : String) :
    (ofList entries).find? name = entries.reverse.lookup name := by
  have nothing : (empty : NameMap β).find? name = none := rfl
  rw [ofList, find?_foldl_insert, nothing, Option.or_none]

/-! ### Answers -/

theorem lookup_eq_some_iff_mem {entries : List (String × β)}
    (distinct : entries.Pairwise fun earlier later => earlier.1 ≠ later.1) {name : String} {value : β} :
    entries.lookup name = some value ↔ (name, value) ∈ entries := by
  induction entries with
  | nil => exact iff_of_false nofun nofun
  | cons entry rest ih =>
      obtain ⟨apart, distinct⟩ := List.pairwise_cons.mp distinct
      rw [List.lookup_cons, List.mem_cons]
      by_cases same : name = entry.1
      · have absent : (name, value) ∉ rest := fun present => apart _ present same.symm
        rw [same] at absent
        simp [same, Prod.ext_iff, absent, eq_comm]
      · have passed : (name == entry.1) = false := beq_false_of_ne same
        rw [passed]
        simp [ih distinct, Prod.ext_iff, same]

theorem distinct (map : NameMap β) :
    map.entries.Pairwise fun earlier later => earlier.1 ≠ later.1 :=
  map.ascending.imp String.ne_of_lt

theorem ext_find? {left right : NameMap β} (same : ∀ name, left.find? name = right.find? name) :
    left = right := by
  have members : ∀ entry : String × β, entry ∈ left.entries ↔ entry ∈ right.entries := by
    rintro ⟨name, value⟩
    rw [← lookup_eq_some_iff_mem left.distinct, ← lookup_eq_some_iff_mem right.distinct]
    exact Eq.congr_left (same name)
  have nodup : ∀ map : NameMap β, map.entries.Nodup :=
    fun map => map.distinct.imp fun names same => names (congrArg Prod.fst same)
  have permuted := (List.perm_ext_iff_of_nodup (nodup left) (nodup right)).mpr members
  apply NameMap.ext
  apply permuted.eq_of_pairwise _ left.ascending right.ascending
  intro first second _ _ before after
  exact absurd before (String.lt_asymm after)

theorem ofList_entries (map : NameMap β) : ofList map.entries = map := by
  have backwards : map.entries.reverse.Pairwise fun earlier later => earlier.1 ≠ later.1 :=
    List.pairwise_reverse.mpr (map.distinct.imp Ne.symm)
  apply ext_find?
  intro name
  rw [find?_ofList, find?]
  apply Option.ext
  intro value
  rw [lookup_eq_some_iff_mem backwards, lookup_eq_some_iff_mem map.distinct, List.mem_reverse]

end GuestGlue.NameMap

theorem GuestGlue.NameSet.ofList_toList (set : NameSet) : NameSet.ofList set.toList = set := by
  have names : set.toList.map (fun name => (name, ())) = set.entries := by
    rw [NameSet.toList, List.map_map]
    exact List.map_id' _
  rw [NameSet.ofList, names, NameMap.ofList_entries]
