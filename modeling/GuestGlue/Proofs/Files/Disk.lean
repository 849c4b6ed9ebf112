/-
Entries of a disk and what they hold.  Locations that are names of one file have one
content, whether by a number they share or because they are the same location, and what is
filled in under one of them all of them hold.
-/

import GuestGlue.Files.Disk

namespace GuestGlue.Disk

/-! ### Entries -/

theorem append_name_ne_nil (location : Location) (name : String) : location ++ [name] ≠ [] := by
  simp

theorem append_name_inj {location : Location} {name other : String} :
    location ++ [name] = location ++ [other] ↔ name = other := by
  simp

theorem entry?_erase (disk : Disk) (location other : Location) :
    Disk.entry? (disk.erase location) other =
      if other ≠ [] ∧ other = location then none else disk.entry? other := by
  unfold entry? erase
  by_cases root : other = []
  · simp [root]
  · simp only [root, if_false, ne_eq, not_false_eq_true, true_and]
    induction disk.entries with
    | nil => simp
    | cons head rest ih =>
        obtain ⟨place, entry⟩ := head
        by_cases same : place = location
        · rw [List.filter_cons_of_neg (by simp [same]), ih]
          by_cases here : other = location
          · simp [here]
          · have missed : (other == place) = false := by simp [same, here]
            simp [here, List.lookup_cons, missed]
        · rw [List.filter_cons_of_pos (by simp [same]), List.lookup_cons, List.lookup_cons, ih]
          cases found : other == place with
          | false => rfl
          | true =>
              have here : other ≠ location := fun equal =>
                same ((eq_of_beq found).symm.trans equal)
              simp [here]

theorem entry?_put (disk : Disk) (location other : Location) (entry : Entry) :
    Disk.entry? (disk.put location entry) other =
      if other ≠ [] ∧ other = location then some entry else disk.entry? other := by
  have erased := entry?_erase disk location other
  unfold entry? put at *
  by_cases root : other = []
  · simp [root]
  · simp only [root, if_false, ne_eq, not_false_eq_true, true_and] at erased ⊢
    rw [List.lookup_cons]
    by_cases here : other = location
    · simp [here]
    · have missed : (other == location) = false := by simp [here]
      rw [missed, if_neg here]
      rw [if_neg here] at erased
      exact erased

theorem isDirectoryAt_iff {disk : Disk} {location : Location} :
    disk.isDirectoryAt location = true ↔ disk.entry? location = some .directory := by
  rw [isDirectoryAt]
  cases disk.entry? location with
  | none => simp
  | some entry => cases entry <;> simp [Entry.isDirectory]

theorem enter_eq_ok_iff {disk : Disk} {location : Location} :
    disk.enter location = .ok () ↔ disk.isDirectoryAt location = true := by
  rw [isDirectoryAt_iff, enter]
  cases disk.entry? location with
  | none => simp
  | some entry => cases entry <;> simp

theorem isSome_of_isDirectoryAt {disk : Disk} {location : Location}
    (directory : disk.isDirectoryAt location = true) : (disk.entry? location).isSome = true := by
  rw [isDirectoryAt_iff.mp directory]
  rfl

theorem mem_children_iff {disk : Disk} {location : Location} {name : String} :
    name ∈ disk.children location ↔ ∃ entry, (location ++ [name], entry) ∈ disk.entries := by
  refine List.mem_filterMap.trans ⟨?_, fun ⟨entry, listed⟩ => ⟨_, listed, by simp⟩⟩
  rintro ⟨⟨place, entry⟩, listed, found⟩
  simp only at found
  split at found
  · next inside =>
    obtain ⟨front, rfl⟩ := List.getLast?_eq_some_iff.mp found
    rw [List.dropLast_concat] at inside
    exact ⟨entry, inside ▸ listed⟩
  · cases found

theorem mem_entries_of_entry? {disk : Disk} {location : Location} {entry : Entry}
    (found : disk.entry? location = some entry) (notRoot : location ≠ []) :
    (location, entry) ∈ disk.entries := by
  unfold entry? at found
  rw [if_neg notRoot] at found
  obtain ⟨before, after, entries, _⟩ := List.lookup_eq_some_iff.mp found
  rw [entries]
  exact List.mem_append_right _ List.mem_cons_self

theorem mem_children_of_entry? {disk : Disk} {location : Location} {name : String}
    (present : (disk.entry? (location ++ [name])).isSome = true) : name ∈ disk.children location := by
  obtain ⟨entry, found⟩ := Option.isSome_iff_exists.mp present
  exact mem_children_iff.mpr ⟨entry, mem_entries_of_entry? found (append_name_ne_nil _ _)⟩

theorem entry?_of_childless {disk : Disk} {location : Location}
    (childless : disk.children location = []) (name : String) :
    disk.entry? (location ++ [name]) = none := by
  cases found : disk.entry? (location ++ [name]) with
  | none => rfl
  | some entry =>
      have listed := mem_children_of_entry? (Option.isSome_of_eq_some found)
      rw [childless] at listed
      cases listed

theorem children_erase_subset (disk : Disk) (erased location : Location) :
    (disk.erase erased).children location ⊆ disk.children location := by
  intro name member
  obtain ⟨entry, listed⟩ := mem_children_iff.mp member
  exact mem_children_iff.mpr ⟨entry, (List.mem_filter.mp listed).1⟩

theorem mem_children_put {disk : Disk} {directory location : Location} {added name : String}
    {entry : Entry} (member : name ∈ (disk.put (directory ++ [added]) entry).children location) :
    name = added ∨ name ∈ disk.children location := by
  obtain ⟨held, listed⟩ := mem_children_iff.mp member
  rcases List.mem_cons.mp listed with here | before
  · cases List.append_inj_right' (congrArg Prod.fst here) rfl
    exact Or.inl rfl
  · exact Or.inr (children_erase_subset _ _ _ (mem_children_iff.mpr ⟨held, before⟩))

/-! ### Names of files -/

/-- The content of the regular file of a name directly inside a location, if it has no
other name. -/
def file? (disk : Disk) (location : Location) (name : String) : Option ByteArray :=
  match disk.entry? (location ++ [name]) with
  | some (.file content) => some content
  | _ => none

def IsLink (disk : Disk) (location : Location) : Prop :=
  ∃ target, disk.entry? location = some (.link target)

def IsShared (disk : Disk) (location : Location) : Prop :=
  ∃ number, disk.entry? location = some (.shared number)

def isPlainEntry : Entry → Bool
  | .file _ | .directory => true
  | .shared _ | .link _ => false

/-- Nothing is there, or what is there has no other name that leads to it from there. -/
structure Unlinked (disk : Disk) (location : Location) : Prop where
  notLink : ¬disk.IsLink location
  notShared : ¬disk.IsShared location

section Kinds

variable {disk : Disk} {location place : Location} {name : String} {content : ByteArray}

theorem Unlinked.of_none (absent : disk.entry? location = none) : disk.Unlinked location := by
  constructor <;> rintro ⟨_, present⟩ <;> rw [absent] at present <;> cases present

theorem Unlinked.of_file (present : disk.entry? location = some (.file content)) :
    disk.Unlinked location := by
  constructor <;> rintro ⟨_, other⟩ <;> rw [present] at other <;> cases other

theorem Unlinked.of_directory (present : disk.isDirectoryAt location = true) :
    disk.Unlinked location := by
  rw [isDirectoryAt_iff] at present
  constructor <;> rintro ⟨_, other⟩ <;> rw [present] at other <;> cases other

theorem Unlinked.congr {other : Disk} (unlinked : disk.Unlinked location)
    (same : other.entry? location = disk.entry? location) : other.Unlinked location := by
  obtain ⟨notLink, notShared⟩ := unlinked
  constructor
  · rintro ⟨target, present⟩
    exact notLink ⟨target, same ▸ present⟩
  · rintro ⟨number, present⟩
    exact notShared ⟨number, same ▸ present⟩

theorem unlinked_of_plain (plain : ∀ held ∈ disk.entries, isPlainEntry held.2 = true)
    (location : Location) : disk.Unlinked location := by
  by_cases root : location = []
  · subst root
    exact .of_directory rfl
  · constructor
    · rintro ⟨target, found⟩
      have listed := mem_entries_of_entry? found root
      cases plain _ listed
    · rintro ⟨number, found⟩
      have listed := mem_entries_of_entry? found root
      cases plain _ listed

theorem file?_eq_some_iff : disk.file? location name = some content ↔
    disk.entry? (location ++ [name]) = some (.file content) := by
  rw [file?]
  cases disk.entry? (location ++ [name]) with
  | none => simp
  | some entry => cases entry <;> simp

theorem content?_eq_file? (unlinked : disk.Unlinked (location ++ [name])) :
    disk.content? (location ++ [name]) = disk.file? location name := by
  rw [content?, file?]
  cases present : disk.entry? (location ++ [name]) with
  | none => rfl
  | some entry =>
      cases entry with
      | shared number => exact absurd ⟨number, present⟩ unlinked.notShared
      | file | directory | link => rfl

/-- Where there is an entry that is neither a directory nor a link, there is a file. -/
theorem content?_isSome_iff : (disk.content? location).isSome = true ↔
    (disk.entry? location).isSome = true ∧ disk.isDirectoryAt location = false ∧
      ¬disk.IsLink location := by
  rw [content?, isDirectoryAt, IsLink]
  cases disk.entry? location with
  | none => simp
  | some entry => cases entry <;> simp [Entry.isDirectory]

theorem takesFile_iff : disk.takesFile location = true ↔
    disk.isDirectoryAt location = false ∧ ¬disk.IsLink location := by
  rw [takesFile, isDirectoryAt, IsLink]
  cases disk.entry? location with
  | none => simp
  | some entry => cases entry <;> simp [Entry.isDirectory, Entry.isFile]

theorem takesFile_unlinked (unlinked : disk.Unlinked location) :
    disk.takesFile location = true ↔ disk.isDirectoryAt location = false := by
  rw [takesFile_iff, and_iff_left unlinked.notLink]

end Kinds

theorem file?_put (disk : Disk) (location : Location) (name other : String) (content : ByteArray) :
    (disk.put (location ++ [name]) (.file content)).file? location other =
      if other = name then some content else disk.file? location other := by
  simp only [file?, entry?_put, append_name_ne_nil, append_name_inj, ne_eq, not_false_eq_true,
    true_and]
  by_cases same : other = name <;> simp only [same, if_true, if_false]

theorem content?_erase (disk : Disk) (location other : Location) (notRoot : location ≠ []) :
    (disk.erase location).content? other =
      if other = location then none else disk.content? other := by
  rw [content?, entry?_erase]
  by_cases here : other = location
  · rw [if_pos ⟨here ▸ notRoot, here⟩, if_pos here]
  · rw [if_neg fun both => here both.2, if_neg here]
    rfl

/-! ### Filling -/

/-- The two locations are names of one file. -/
def SameFile (disk : Disk) (location other : Location) : Prop :=
  other = location ∨
    ∃ number, disk.entry? location = some (.shared number) ∧ disk.entry? other = some (.shared number)

section Filling

variable {disk : Disk} {location other : Location} {content : ByteArray}

theorem fill_of_shared {number : Nat} (shared : disk.entry? location = some (.shared number)) :
    disk.fill location content = { disk with contents := (number, content) :: disk.contents } := by
  rw [fill, shared]

theorem fill_of_not_shared (single : ¬disk.IsShared location) :
    disk.fill location content = disk.put location (.file content) := by
  rw [fill]
  split
  · next number shared => exact absurd ⟨number, shared⟩ single
  · rfl

/-- Filling changes no entry but one, and that only where no number is shared. -/
theorem entry?_fill (disk : Disk) (location other : Location) (content : ByteArray) :
    Disk.entry? (disk.fill location content) other = disk.entry? other ∨
      other = location ∧ ¬disk.IsShared location ∧
        Disk.entry? (disk.fill location content) other = some (.file content) := by
  by_cases shared : disk.IsShared location
  · obtain ⟨number, shared⟩ := shared
    rw [fill_of_shared shared]
    exact Or.inl rfl
  · rw [fill_of_not_shared shared, entry?_put]
    split
    · next here => exact Or.inr ⟨here.2, shared, rfl⟩
    · exact Or.inl rfl

theorem content?_fill_of_sameFile (notRoot : location ≠ [])
    (same : disk.SameFile location other) :
    (disk.fill location content).content? other = some content := by
  by_cases shared : disk.IsShared location
  · obtain ⟨number, shared⟩ := shared
    have there : disk.entry? other = some (.shared number) := by
      rcases same with rfl | ⟨again, here, there⟩
      · exact shared
      · cases shared.symm.trans here
        exact there
    have kept : Disk.entry? { disk with contents := (number, content) :: disk.contents } other =
        some (.shared number) := there
    rw [fill_of_shared shared, content?, kept]
    simp
  · rcases same with rfl | ⟨number, here, _⟩
    · have there : Disk.entry? (disk.put other (.file content)) other = some (.file content) := by
        rw [entry?_put, if_pos ⟨notRoot, rfl⟩]
      rw [fill_of_not_shared shared, content?, there]
    · exact absurd ⟨number, here⟩ shared

theorem entry?_fill_of_ne (apart : other ≠ location) :
    Disk.entry? (disk.fill location content) other = disk.entry? other := by
  rcases entry?_fill disk location other content with same | ⟨here, _⟩
  · exact same
  · exact absurd here apart

theorem entry?_fill_of_shared {number : Nat} (shared : disk.entry? other = some (.shared number)) :
    Disk.entry? (disk.fill location content) other = some (.shared number) := by
  rcases entry?_fill disk location other content with same | ⟨rfl, single, _⟩
  · rw [same, shared]
  · exact absurd ⟨number, shared⟩ single

theorem content?_fill_of_not_sameFile (apart : ¬disk.SameFile location other) :
    (disk.fill location content).content? other = disk.content? other := by
  have elsewhere : other ≠ location := fun here => apart (Or.inl here)
  rw [content?, entry?_fill_of_ne elsewhere, content?]
  cases present : disk.entry? other with
  | none => rfl
  | some entry =>
      cases entry with
      | file | directory | link => rfl
      | shared number =>
          dsimp only
          by_cases shared : disk.IsShared location
          · obtain ⟨filled, shared⟩ := shared
            have differs : (number == filled) = false := by
              rw [beq_eq_false_iff_ne]
              rintro rfl
              exact apart (Or.inr ⟨number, shared, present⟩)
            rw [fill_of_shared shared, List.lookup_cons, differs]
          · rw [fill_of_not_shared shared]
            rfl

theorem lookup_fill (disk : Disk) (location : Location) (content : ByteArray) (number : Nat) :
    (disk.fill location content).contents.lookup number = disk.contents.lookup number ∨
      disk.entry? location = some (.shared number) ∧
        (disk.fill location content).contents.lookup number = some content := by
  by_cases shared : disk.IsShared location
  · obtain ⟨filled, shared⟩ := shared
    rw [fill_of_shared shared, List.lookup_cons]
    by_cases same : number = filled
    · subst same
      exact Or.inr ⟨shared, by simp⟩
    · have differs : (number == filled) = false := beq_eq_false_iff_ne.mpr same
      rw [differs]
      exact Or.inl rfl
  · rw [fill_of_not_shared shared]
    exact Or.inl rfl

theorem mem_children_fill {added name : String} {place : Location}
    (member : name ∈ (disk.fill (location ++ [added]) content).children place) :
    name = added ∨ name ∈ disk.children place := by
  by_cases shared : disk.IsShared (location ++ [added])
  · obtain ⟨number, shared⟩ := shared
    rw [fill_of_shared shared] at member
    exact Or.inr member
  · rw [fill_of_not_shared shared] at member
    exact mem_children_put member

end Filling

/-! ### Links that go -/

/-- No entry has come that is a link or one of several names of a file. -/
def FewerLinks (disk other : Disk) : Prop :=
  ∀ place, other.entry? place = disk.entry? place ∨ other.Unlinked place

/-- The names are no links, and no two of them are names of one file. -/
structure Separate (disk : Disk) (location : Location) (names : List String) : Prop where
  notLink : ∀ name ∈ names, ¬disk.IsLink (location ++ [name])
  apart : ∀ name ∈ names, ∀ other ∈ names,
    disk.SameFile (location ++ [name]) (location ++ [other]) → other = name

theorem Separate.tail {disk : Disk} {location : Location} {name : String} {names : List String}
    (separate : disk.Separate location (name :: names)) : disk.Separate location names where
  notLink other member := separate.notLink other (List.mem_cons_of_mem _ member)
  apart other member another anotherMember := separate.apart other (List.mem_cons_of_mem _ member)
    another (List.mem_cons_of_mem _ anotherMember)

namespace FewerLinks

variable {disk other third : Disk} {location place : Location}

theorem refl (disk : Disk) : FewerLinks disk disk :=
  fun _ => Or.inl rfl

theorem trans (earlier : FewerLinks disk other) (later : FewerLinks other third) :
    FewerLinks disk third := by
  intro place
  rcases later place with same | unlinked
  · rw [same]
    exact (earlier place).imp_right (·.congr same)
  · exact Or.inr unlinked

theorem unlinked (fewer : FewerLinks disk other) (before : disk.Unlinked place) :
    other.Unlinked place :=
  (fewer place).elim before.congr id

theorem not_isLink (fewer : FewerLinks disk other) (before : ¬disk.IsLink place) :
    ¬other.IsLink place := by
  rcases fewer place with same | unlinked
  · rwa [IsLink, same]
  · exact unlinked.notLink

theorem sameFile (fewer : FewerLinks disk other) (same : other.SameFile location place) :
    disk.SameFile location place := by
  rcases same with rfl | ⟨number, here, there⟩
  · exact Or.inl rfl
  · have kept : ∀ spot, other.entry? spot = some (.shared number) →
        disk.entry? spot = some (.shared number) := by
      intro spot shared
      rcases fewer spot with same | unlinked
      · exact same ▸ shared
      · exact absurd ⟨number, shared⟩ unlinked.notShared
    exact Or.inr ⟨number, kept _ here, kept _ there⟩

theorem separate {names : List String} (fewer : FewerLinks disk other)
    (separate : disk.Separate location names) : other.Separate location names where
  notLink name member := fewer.not_isLink (separate.notLink name member)
  apart name member another anotherMember same :=
    separate.apart name member another anotherMember (fewer.sameFile same)

end FewerLinks

section Changed

variable {disk : Disk} {location : Location} {content : ByteArray}

theorem fewerLinks_erase : FewerLinks disk (disk.erase location) := by
  intro place
  rw [entry?_erase]
  split
  · next here =>
    refine Or.inr (.of_none ?_)
    rw [entry?_erase, if_pos here]
  · exact Or.inl rfl

theorem fewerLinks_fill : FewerLinks disk (disk.fill location content) := by
  intro place
  rcases entry?_fill disk location place content with same | ⟨_, _, filled⟩
  · exact Or.inl same
  · exact Or.inr (.of_file filled)

/-- One name that leads nowhere else is one name of a file. -/
theorem sameFile_of_unlinked {place : Location} (unlinked : disk.Unlinked location)
    (same : disk.SameFile location place) : place = location := by
  rcases same with rfl | ⟨number, shared, _⟩
  · rfl
  · exact absurd ⟨number, shared⟩ unlinked.notShared

theorem separate_of_unlinked {names : List String}
    (unlinked : ∀ name ∈ names, disk.Unlinked (location ++ [name])) :
    disk.Separate location names where
  notLink name member := (unlinked name member).notLink
  apart name member _ _ same := append_name_inj.mp (sameFile_of_unlinked (unlinked name member) same)

end Changed

end GuestGlue.Disk
