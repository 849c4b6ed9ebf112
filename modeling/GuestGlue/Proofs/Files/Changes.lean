/-
What operations change.  Writing and removing a file leave all directories, and
creating directories leaves all entries that there were.
-/

import GuestGlue.Proofs.Files.Opened

namespace GuestGlue

theorem bind_apply {σ α β : Type} (program : StateM σ α) (next : α → StateM σ β) (state : σ) :
    (program >>= next) state = next (program state).1 (program state).2 :=
  rfl

namespace DiskM

variable {operation : Disk → Except FileError Disk} {disk after : Disk}

theorem change_ok (changed : operation disk = .ok after) :
    change operation disk = (.ok (), after) := by
  rw [change, changed]

theorem change_error {error : FileError} (failed : operation disk = .error error) :
    change operation disk = (.error error, disk) := by
  rw [change, failed]

theorem change_iff : change operation disk = (.ok (), after) ↔ operation disk = .ok after := by
  refine ⟨fun changed => ?_, change_ok⟩
  cases ran : operation disk with
  | error error =>
      rw [change_error ran] at changed
      cases changed
  | ok other =>
      rw [change_ok ran] at changed
      cases changed
      rfl

end DiskM

namespace Disk

/-! ### Writing and removing -/

structure SameDirectories (disk other : Disk) : Prop where
  workingDirectory : other.workingDirectory = disk.workingDirectory
  strays : other.strays = disk.strays
  isDirectoryAt : ∀ location, other.isDirectoryAt location = disk.isDirectoryAt location

namespace SameDirectories

theorem refl (disk : Disk) : SameDirectories disk disk :=
  ⟨rfl, rfl, fun _ => rfl⟩

theorem trans {first second third : Disk} (earlier : SameDirectories first second)
    (later : SameDirectories second third) : SameDirectories first third where
  workingDirectory := later.workingDirectory.trans earlier.workingDirectory
  strays := later.strays.trans earlier.strays
  isDirectoryAt location := (later.isDirectoryAt location).trans (earlier.isDirectoryAt location)

end SameDirectories

section Files

variable {disk after : Disk} {location : Location} {path : Path} {content : ByteArray}

theorem sameDirectories_fill (takes : disk.takesFile location = true) :
    SameDirectories disk (disk.fill location content) := by
  have notDirectory := (takesFile_iff.mp takes).1
  constructor
  case workingDirectory => unfold fill; split <;> rfl
  case strays => unfold fill; split <;> rfl
  case isDirectoryAt =>
    intro other
    rw [isDirectoryAt]
    rcases entry?_fill disk location other content with same | ⟨rfl, _, filled⟩
    · rw [same]
      rfl
    · rw [filled, notDirectory]
      rfl

theorem sameDirectories_erase (notDirectory : disk.isDirectoryAt location = false) :
    SameDirectories disk (disk.erase location) where
  workingDirectory := rfl
  strays := rfl
  isDirectoryAt other := by
    rw [isDirectoryAt, entry?_erase]
    split
    · next here =>
      rw [here.2, notDirectory]
      rfl
    · rfl

theorem sameLinks_fill (takes : disk.takesFile location = true) :
    SameLinks disk (disk.fill location content) := by
  have same : SameDirectories disk (disk.fill location content) := sameDirectories_fill takes
  refine ⟨same.workingDirectory, fun other present => (same.isDirectoryAt other).trans present, ?_⟩
  intro other target
  rcases entry?_fill disk location other content with same | ⟨rfl, _, filled⟩
  · rw [same]
  · rw [filled]
    constructor
    · intro linked
      cases linked
    · intro linked
      exact absurd ⟨target, linked⟩ (takesFile_iff.mp takes).2

theorem removeFile_target (removed : disk.removeFile path = .ok after) :
    ∃ target, disk.target? path = .ok (some target) ∧ target.closed = false ∧
      disk.isDirectoryAt (target.directory ++ [target.name]) = false ∧
      after = disk.erase (target.directory ++ [target.name]) := by
  unfold removeFile at removed
  cases found : disk.target? path with
  | error error => simp [found, bind, Except.bind] at removed
  | ok target? =>
      cases target? with
      | none => simp [found, bind, Except.bind, throw, throwThe, MonadExceptOf.throw] at removed
      | some target =>
          simp only [found, bind, Except.bind, throw, throwThe, MonadExceptOf.throw, pure,
            Except.pure] at removed
          refine ⟨target, rfl, ?_⟩
          rw [isDirectoryAt]
          split at removed
          · cases removed
          · split at removed
            · cases removed
            · generalize disk.entry? (target.directory ++ [target.name]) = entry? at removed ⊢
              cases entry? with
              | none => cases removed
              | some entry =>
                  cases entry with
                  | directory => cases removed
                  | file | shared | link =>
                      dsimp only at removed
                      split at removed
                      · cases removed
                      · next notClosed =>
                        exact ⟨Bool.eq_false_iff.mpr notClosed, rfl, (Except.ok.inj removed).symm⟩

theorem removeFile_erases (removed : disk.removeFile path = .ok after) :
    ∃ location, disk.isDirectoryAt location = false ∧ after = disk.erase location := by
  obtain ⟨target, _, _, notDirectory, rfl⟩ := removeFile_target removed
  exact ⟨_, notDirectory, rfl⟩

theorem removeFile_sameDirectories (removed : disk.removeFile path = .ok after) :
    SameDirectories disk after := by
  obtain ⟨location, notDirectory, rfl⟩ := removeFile_erases removed
  exact sameDirectories_erase notDirectory

theorem removeFile_fewerLinks (removed : disk.removeFile path = .ok after) :
    FewerLinks disk after := by
  obtain ⟨location, _, rfl⟩ := removeFile_erases removed
  exact fewerLinks_erase

theorem writeFile_fills (written : disk.writeFile path content = .ok after) :
    ∃ location, disk.takesFile location = true ∧ after = disk.fill location content := by
  unfold writeFile at written
  cases found : disk.target? path with
  | error error => simp [found, bind, Except.bind] at written
  | ok target? =>
      cases target? with
      | none => simp [found, bind, Except.bind, throw, throwThe, MonadExceptOf.throw] at written
      | some target =>
          simp only [found, bind, Except.bind, throw, throwThe, MonadExceptOf.throw, pure,
            Except.pure] at written
          split at written
          · cases written
          · cases followed : disk.follow target.links target.directory [target.name] with
            | error error =>
                rw [followed] at written
                cases written
            | ok reached =>
                simp only [followed] at written
                split at written
                · cases written
                · next takes => exact ⟨reached.1, by simpa using takes, (Except.ok.inj written).symm⟩

theorem writeFile_sameDirectories (written : disk.writeFile path content = .ok after) :
    SameDirectories disk after := by
  obtain ⟨location, takes, rfl⟩ := writeFile_fills written
  exact sameDirectories_fill takes

theorem writeFile_fewerLinks (written : disk.writeFile path content = .ok after) :
    FewerLinks disk after := by
  obtain ⟨location, _, rfl⟩ := writeFile_fills written
  exact fewerLinks_fill

theorem writeFile_sameLinks (written : disk.writeFile path content = .ok after) :
    SameLinks disk after := by
  obtain ⟨location, takes, rfl⟩ := writeFile_fills written
  exact sameLinks_fill takes

end Files

/-! ### Creating directories -/

structure AddsDirectories (disk other : Disk) : Prop where
  workingDirectory : other.workingDirectory = disk.workingDirectory
  contents : other.contents = disk.contents
  strays : other.strays = disk.strays
  entries : ∀ location, other.entry? location = disk.entry? location ∨
    (disk.entry? location = none ∧ other.entry? location = some .directory)
  names : ∀ location, ∀ name ∈ other.children location,
    name ∈ disk.children location ∨ IsName name

namespace AddsDirectories

theorem refl (disk : Disk) : AddsDirectories disk disk :=
  ⟨rfl, rfl, rfl, fun _ => Or.inl rfl, fun _ _ member => Or.inl member⟩

theorem trans {first second third : Disk} (earlier : AddsDirectories first second)
    (later : AddsDirectories second third) : AddsDirectories first third where
  workingDirectory := later.workingDirectory.trans earlier.workingDirectory
  contents := later.contents.trans earlier.contents
  strays := later.strays.trans earlier.strays
  entries location := by
    rcases later.entries location with same | ⟨absent, added⟩
    · rw [same]
      exact earlier.entries location
    · rcases earlier.entries location with same | ⟨_, added⟩
      · exact Or.inr ⟨same ▸ absent, added⟩
      · rw [absent] at added
        cases added
  names location name member :=
    (later.names location name member).elim (earlier.names location name) Or.inr

variable {disk other : Disk}

theorem sameLinks (adds : AddsDirectories disk other) : SameLinks disk other := by
  refine ⟨adds.workingDirectory, fun location present => ?_, fun location target => ?_⟩
  · rw [isDirectoryAt_iff] at present ⊢
    rcases adds.entries location with same | ⟨absent, _⟩
    · rw [same, present]
    · rw [absent] at present
      cases present
  · rcases adds.entries location with same | ⟨absent, added⟩
    · rw [same]
    · rw [absent, added]
      exact iff_of_false nofun nofun

theorem content?_eq (adds : AddsDirectories disk other) (location : Location) :
    other.content? location = disk.content? location := by
  unfold content?
  rw [adds.contents]
  rcases adds.entries location with same | ⟨absent, added⟩
  · rw [same]
  · rw [absent, added]

theorem fewerLinks (adds : AddsDirectories disk other) : FewerLinks disk other := by
  intro place
  rcases adds.entries place with same | ⟨_, added⟩
  · exact Or.inl same
  · exact Or.inr (.of_directory (isDirectoryAt_iff.mpr added))

end AddsDirectories

theorem addsDirectories_put {disk : Disk} {location : Location} {name : String}
    (absent : disk.entry? (location ++ [name]) = none) (isName : IsName name) :
    AddsDirectories disk (disk.put (location ++ [name]) .directory) where
  workingDirectory := rfl
  contents := rfl
  strays := rfl
  entries other := by
    rw [entry?_put]
    split
    · next here => exact Or.inr ⟨here.2 ▸ absent, rfl⟩
    · exact Or.inl rfl
  names place other member := by
    rcases mem_children_put member with rfl | before
    · exact Or.inr isName
    · exact Or.inl before

/-- A target is a name at the end of a way into a directory; only separators come after it. -/
theorem target?_leads {disk : Disk} {path : Path} {target : Target}
    (found : disk.target? path = .ok (some target)) :
    target.name ≠ "" ∧ '/' ∉ target.name.toList ∧ checkPath path = .ok () ∧
      disk.isDirectoryAt target.directory = true ∧
      ∃ front behind, components path = front ++ target.name :: behind ∧
        (target.closed = false → behind = []) ∧
        disk.Leads linkLimit (disk.startOf path) front target.directory target.links := by
  unfold target? at found
  cases checked : checkPath path with
  | error error => simp [checked, bind, Except.bind] at found
  | ok =>
      simp only [checked, bind, Except.bind] at found
      split at found
      · cases found
      · next name before parts =>
        have reversed :=
          List.takeWhile_append_dropWhile (p := (· = "")) (l := (components path).reverse)
        have empties : ∀ part ∈ (components path).reverse.takeWhile (· = ""), part = "" := by
          intro part member
          simpa using List.mem_takeWhile_imp member
        rw [parts] at reversed
        have whole := congrArg List.reverse reversed
        rw [List.reverse_reverse, List.reverse_append, List.reverse_cons, List.append_assoc,
          List.singleton_append] at whole
        generalize (components path).reverse.takeWhile (· = "") = separators at whole empties
        have nonempty : name ≠ "" := by
          have head := List.head?_dropWhile_not (· = "") (components path).reverse
          simpa [parts] using head
        have member : name ∈ components path := by
          rw [← whole]
          simp
        cases followed : disk.follow linkLimit (disk.startOf path) before.reverse with
        | error error => simp [followed] at found
        | ok reached =>
            simp only [followed] at found
            cases entered : disk.enter reached.1 with
            | error error => simp [entered] at found
            | ok =>
                simp only [entered] at found
                cases found
                refine ⟨nonempty, whole_of_mem_components member, rfl,
                  enter_eq_ok_iff.mp entered, before.reverse, separators.reverse, whole.symm, ?_,
                  leads_of_follow followed⟩
                intro notClosed
                cases separators with
                | nil => rfl
                | cons separator others =>
                    cases empties separator List.mem_cons_self
                    have last : (components path).getLast? = some "" := by
                      rw [← whole, List.reverse_cons, ← List.cons_append, ← List.append_assoc]
                      exact List.getLast?_concat
                    simp [last] at notClosed

theorem target?_name {disk : Disk} {path : Path} {target : Target}
    (found : disk.target? path = .ok (some target)) (noDots : isDots target.name ≠ true) :
    IsName target.name := by
  simp only [isDots, Bool.or_eq_true, decide_eq_true_eq, not_or, ne_eq] at noDots
  obtain ⟨nonempty, whole, _⟩ := target?_leads found
  exact ⟨nonempty, noDots.1, noDots.2, whole⟩

/-- A directory that is made was named by its path, and nothing was there. -/
theorem makeDirectory_target {disk after : Disk} {path : Path}
    (made : disk.makeDirectory path = .ok after) :
    ∃ target, disk.target? path = .ok (some target) ∧ isDots target.name ≠ true ∧
      target.name.utf8ByteSize ≤ nameLimit ∧
      disk.entry? (target.directory ++ [target.name]) = none ∧
      after = disk.put (target.directory ++ [target.name]) .directory := by
  unfold makeDirectory at made
  cases found : disk.target? path with
  | error error => simp [found, bind, Except.bind] at made
  | ok target? =>
      cases target? with
      | none => simp [found, bind, Except.bind, throw, throwThe, MonadExceptOf.throw] at made
      | some target =>
          simp only [found, bind, Except.bind, throw, throwThe, MonadExceptOf.throw, pure,
            Except.pure] at made
          split at made
          · cases made
          · next noDots =>
            split at made
            · cases made
            · next short =>
              split at made
              · cases made
              · next absent =>
                cases made
                exact ⟨target, rfl, noDots, Nat.le_of_not_lt short, by simpa using absent, rfl⟩

theorem makeDirectory_adds {disk after : Disk} {path : Path}
    (made : disk.makeDirectory path = .ok after) : AddsDirectories disk after := by
  obtain ⟨target, found, noDots, _, absent, rfl⟩ := makeDirectory_target made
  exact addsDirectories_put absent (target?_name found noDots)

/-- The name of a file that is removed is on no way to a directory, also if it is a link. -/
theorem removeFile_waysIn {disk after : Disk} {path : Path} (found : disk.hasFile path = true)
    (removed : disk.removeFile path = .ok after) : WaysIn disk after := by
  obtain ⟨target, aimed, notClosed, notDirectory, rfl⟩ := removeFile_target removed
  obtain ⟨_, _, _, _, front, behind, parts, ends, leads⟩ := target?_leads aimed
  rw [ends notClosed] at parts
  obtain ⟨place, resolved, present⟩ := hasFile_iff.mp found
  obtain ⟨_, left, whole⟩ := resolve_eq_ok_iff.mp resolved
  rw [parts] at whole
  obtain ⟨middle, between, earlier, last⟩ := whole.split
  cases earlier.unique leads
  refine waysIn_of_blocked rfl ?_ notDirectory ?_
  · intro location apart
    rw [entry?_erase, if_neg fun both => apart both.2]
  · intro links current name location left here alone
    obtain ⟨rfl, same⟩ := List.append_inj' here rfl
    cases same
    cases last.unique alone
    exact (content?_isSome_iff.mp present).2.1

/-! ### Names -/

def WellNamed (disk : Disk) : Prop :=
  ∀ location, ∀ name ∈ disk.children location, IsName name

theorem wellNamed_iff {disk : Disk} :
    disk.WellNamed ↔ ∀ held ∈ disk.entries, ∀ name ∈ held.1.getLast?, IsName name := by
  constructor
  · intro wellNamed held listed name last
    obtain ⟨location, place⟩ := List.getLast?_eq_some_iff.mp last
    exact wellNamed location name (mem_children_iff.mpr ⟨held.2, place ▸ listed⟩)
  · intro named location name member
    obtain ⟨entry, listed⟩ := mem_children_iff.mp member
    exact named _ listed name List.getLast?_concat

namespace WellNamed

variable {disk after : Disk} {path : Path}

theorem initial : Disk.initial.WellNamed :=
  wellNamed_iff.mpr (by decide)

theorem adds (wellNamed : disk.WellNamed) (adds : AddsDirectories disk after) : after.WellNamed := by
  intro location name member
  exact (adds.names location name member).elim (wellNamed location name) id

theorem erase (wellNamed : disk.WellNamed) (location : Location) :
    (disk.erase location).WellNamed := by
  intro place name member
  exact wellNamed place name (children_erase_subset _ _ _ member)

theorem put {location : Location} {name : String} {entry : Entry} (wellNamed : disk.WellNamed)
    (isName : IsName name) : (disk.put (location ++ [name]) entry).WellNamed := by
  intro place other member
  rcases mem_children_put member with rfl | before
  · exact isName
  · exact wellNamed place other before

end WellNamed

/-! ### Directories that are there -/

/-- The target of a path to a directory is there, and no other entry can be put there. -/
theorem Opens.target? {disk : Disk} {path : Path} {location : Location}
    (opens : disk.Opens path location) :
    ∃ target?, disk.target? path = .ok target? ∧ ∀ target ∈ target?, isDots target.name = true ∨
      target.name.utf8ByteSize ≤ nameLimit ∧
        (disk.entry? (target.directory ++ [target.name])).isSome = true := by
  obtain ⟨left, leads⟩ := opens.leads
  unfold Disk.target?
  simp only [opens.checked, bind, Except.bind]
  cases parts : (components path).reverse.dropWhile (· = "") with
  | nil => exact ⟨none, rfl, nofun⟩
  | cons name before =>
      have whole : components path =
          before.reverse ++ name :: ((components path).reverse.takeWhile (· = "")).reverse := by
        have reversed :=
          List.takeWhile_append_dropWhile (p := (· = "")) (l := (components path).reverse)
        rw [parts] at reversed
        simpa using (congrArg List.reverse reversed).symm
      have nonempty : name ≠ "" := by
        have head := List.head?_dropWhile_not (· = "") (components path).reverse
        simpa [parts] using head
      rw [whole] at leads
      obtain ⟨directory, between, earlier, later⟩ := leads.split
      have entered := enter_eq_ok_iff.mpr later.directory
      refine ⟨some ⟨directory, name, _, between⟩, by simp only [earlier.follow, entered]; rfl, ?_⟩
      rintro target ⟨⟩
      cases later with
      | stay _ stays _ =>
          refine Or.inl ?_
          simpa [isDots] using Or.inl (stays.resolve_left nonempty)
      | back _ _ => exact Or.inl rfl
      | name _ step _ last =>
          refine Or.inr ⟨step.short, ?_⟩
          cases present : disk.isDirectoryAt (directory ++ [name]) with
          | true => exact isSome_of_isDirectoryAt present
          | false =>
              have stops := opens.directory
              rw [last.ends present, present] at stops
              cases stops
      | link _ step entry _ =>
          refine Or.inr ⟨step.short, ?_⟩
          rw [entry]
          rfl

theorem Opens.makeDirectory {disk : Disk} {path : Path} {location : Location}
    (opens : disk.Opens path location) : disk.makeDirectory path = .error .exists := by
  obtain ⟨target?, found, there⟩ := opens.target?
  unfold Disk.makeDirectory
  rw [found]
  cases target? with
  | none => rfl
  | some target =>
      rcases there target rfl with dots | ⟨short, present⟩
      · simp [bind, Except.bind, throw, throwThe, MonadExceptOf.throw, dots]
      · cases dots : isDots target.name <;>
          simp [bind, Except.bind, throw, throwThe, MonadExceptOf.throw, dots, present,
            Nat.not_lt.mpr short]

theorem Opens.createDirectories {disk : Disk} {path : Path} {location : Location}
    (opens : disk.Opens path location) :
    FileSystem.createDirectories (m := DiskM) path disk = (.ok (), disk) := by
  have made : FileSystem.makeDirectory (m := DiskM) path disk = (.error .exists, disk) :=
    DiskM.change_error opens.makeDirectory
  have present : FileSystem.isDirectory (m := DiskM) path disk = (true, disk) := by
    change (disk.hasDirectory path, disk) = _
    rw [hasDirectory, opens.located]
    simp only [opens.directory]
  rw [FileSystem.createDirectories, if_neg opens.notEmpty, bind_apply, made]
  change ((FileSystem.isDirectory path : DiskM Bool) >>= _) disk = _
  rw [bind_apply, present]
  rfl

end Disk

end GuestGlue
