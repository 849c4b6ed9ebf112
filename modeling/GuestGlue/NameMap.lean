/-
Finite maps from names, kept in ascending order of the names, each name once.
The order is by code points, which is the order of the names' bytes as well.  A
set of names is a map without values, so two maps with the same entries are equal.
-/

namespace GuestGlue

def Ascending {β : Type} (entries : List (String × β)) : Prop :=
  entries.Pairwise fun earlier later => earlier.1 < later.1

structure NameMap (β : Type) where
  entries : List (String × β)
  ascending : Ascending entries

namespace NameMap

variable {β : Type}

def empty : NameMap β := ⟨[], List.Pairwise.nil⟩

/-- Puts a name in its place; the value of a name that is there is replaced. -/
def insertEntry (name : String) (value : β) : List (String × β) → List (String × β)
  | [] => [(name, value)]
  | entry :: rest =>
      if name < entry.1 then (name, value) :: entry :: rest
      else if entry.1 < name then entry :: insertEntry name value rest
      else (name, value) :: rest

private theorem name_of_insertEntry {name : String} {value : β} {entries : List (String × β)}
    {entry : String × β} (member : entry ∈ insertEntry name value entries) :
    entry.1 = name ∨ entry ∈ entries := by
  induction entries with
  | nil =>
      cases List.mem_singleton.mp member
      exact Or.inl rfl
  | cons head rest ih =>
      rw [insertEntry] at member
      split at member
      · rcases List.mem_cons.mp member with rfl | present
        · exact Or.inl rfl
        · exact Or.inr present
      · split at member
        · rcases List.mem_cons.mp member with rfl | present
          · exact Or.inr List.mem_cons_self
          · exact (ih present).imp_right (List.mem_cons_of_mem head)
        · rcases List.mem_cons.mp member with rfl | present
          · exact Or.inl rfl
          · exact Or.inr (List.mem_cons_of_mem head present)

theorem ascending_insertEntry (name : String) (value : β) {entries : List (String × β)}
    (ascending : Ascending entries) : Ascending (insertEntry name value entries) := by
  induction entries with
  | nil => exact List.pairwise_singleton _ _
  | cons head rest ih =>
      have later := List.pairwise_cons.mp ascending
      rw [insertEntry]
      split
      · next below =>
        refine List.pairwise_cons.mpr ⟨fun entry present => ?_, ascending⟩
        rcases List.mem_cons.mp present with rfl | present
        · exact below
        · exact String.lt_trans below (later.1 entry present)
      · next notBelow =>
        split
        · next above =>
          refine List.pairwise_cons.mpr ⟨fun entry present => ?_, ih later.2⟩
          rcases name_of_insertEntry present with same | present
          · rw [same]; exact above
          · exact later.1 entry present
        · next notAbove =>
          have same : head.1 = name := String.le_antisymm notBelow notAbove
          refine List.pairwise_cons.mpr ⟨fun entry present => ?_, later.2⟩
          rw [← same]
          exact later.1 entry present

def insert (map : NameMap β) (name : String) (value : β) : NameMap β :=
  ⟨insertEntry name value map.entries, ascending_insertEntry name value map.ascending⟩

def ofList (entries : List (String × β)) : NameMap β :=
  entries.foldl (fun map entry => map.insert entry.1 entry.2) empty

def find? (map : NameMap β) (name : String) : Option β :=
  map.entries.lookup name

@[ext] theorem ext {left right : NameMap β} (same : left.entries = right.entries) :
    left = right := by
  cases left
  cases right
  cases same
  rfl

end NameMap

abbrev NameSet := NameMap Unit

namespace NameSet

def ofList (names : List String) : NameSet :=
  NameMap.ofList (names.map fun name => (name, ()))

def toList (set : NameSet) : List String :=
  set.entries.map Prod.fst

def contains (set : NameSet) (name : String) : Bool :=
  set.toList.contains name

def insertAll (set : NameSet) (names : List String) : NameSet :=
  names.foldl (fun set name => set.insert name ()) set

end NameSet

end GuestGlue
