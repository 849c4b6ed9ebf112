/-
Names inside a directory that a path opens.  A path joined with a name leads to the entry
of that name, and further if that is a link; so reading, writing and removing are told by
the entries of the directory as long as these are no links and have no other names.
-/

import GuestGlue.Proofs.Files.Resolution

namespace GuestGlue.Disk

/-! ### Paths -/

section Paths

variable {disk other : Disk} {path : Path} {location : Location} {content : ByteArray}

theorem resolve_eq_ok_iff : disk.resolve path = .ok location ↔ checkPath path = .ok () ∧
    ∃ left, disk.Leads linkLimit (disk.startOf path) (components path) location left := by
  rw [resolve]
  cases checked : checkPath path with
  | error error => simp [bind, Except.bind]
  | ok =>
      simp only [← follow_eq_ok_iff, bind, Except.bind, true_and]
      cases followed : disk.follow linkLimit (disk.startOf path) (components path) with
      | error error => simp
      | ok reached => simp [pure, Except.pure, Prod.ext_iff]

theorem locate_eq_ok_iff : disk.locate path = .ok location ↔
    disk.resolve path = .ok location ∧ (disk.entry? location).isSome = true := by
  rw [locate]
  cases disk.resolve path with
  | error error => simp [bind, Except.bind]
  | ok reached =>
      simp only [bind, Except.bind, Except.ok.injEq]
      split
      · next present =>
        constructor
        · intro same
          cases same
          exact ⟨rfl, present⟩
        · rintro ⟨rfl, _⟩
          rfl
      · next absent =>
        simp only [throw, throwThe, MonadExceptOf.throw, reduceCtorEq, false_iff]
        rintro ⟨rfl, present⟩
        exact absent present

theorem hasFile_iff : disk.hasFile path = true ↔
    ∃ location, disk.resolve path = .ok location ∧ (disk.content? location).isSome = true := by
  rw [hasFile]
  cases found : disk.locate path with
  | error error =>
      simp only [Bool.false_eq_true, false_iff]
      rintro ⟨location, resolved, present⟩
      have located := locate_eq_ok_iff.mpr ⟨resolved, (content?_isSome_iff.mp present).1⟩
      rw [found] at located
      cases located
  | ok place =>
      have resolved := (locate_eq_ok_iff.mp found).1
      simp [resolved]

theorem readFile_eq_ok_iff : disk.readFile path = .ok content ↔
    ∃ location, disk.resolve path = .ok location ∧ disk.content? location = some content := by
  rw [readFile]
  cases found : disk.locate path with
  | error error =>
      simp only [bind, Except.bind, reduceCtorEq, false_iff]
      rintro ⟨location, resolved, held⟩
      have present := (content?_isSome_iff.mp (Option.isSome_of_eq_some held)).1
      rw [locate_eq_ok_iff.mpr ⟨resolved, present⟩] at found
      cases found
  | ok place =>
      have resolved := (locate_eq_ok_iff.mp found).1
      simp only [bind, Except.bind, resolved, Except.ok.injEq, exists_eq_left']
      cases disk.content? place <;> simp [throw, throwThe, MonadExceptOf.throw, pure, Except.pure]

theorem WaysIn.resolve (within : WaysIn disk other) (resolved : disk.resolve path = .ok location)
    (directory : disk.isDirectoryAt location = true) : other.resolve path = .ok location := by
  obtain ⟨checked, left, leads⟩ := resolve_eq_ok_iff.mp resolved
  refine resolve_eq_ok_iff.mpr ⟨checked, left, ?_⟩
  rw [startOf, within.workingDirectory]
  exact within.leads _ _ _ _ _ leads directory

theorem SameLinks.resolve (same : SameLinks disk other)
    (resolved : disk.resolve path = .ok location) : other.resolve path = .ok location := by
  obtain ⟨checked, left, leads⟩ := resolve_eq_ok_iff.mp resolved
  refine resolve_eq_ok_iff.mpr ⟨checked, left, ?_⟩
  rw [startOf, same.workingDirectory]
  exact same.leads leads

/-- A file that is left when entries have gone was there before. -/
theorem hasFile_of_removed (workingDirectory : other.workingDirectory = disk.workingDirectory)
    (entries : ∀ place, other.entry? place = disk.entry? place ∨ other.entry? place = none)
    (found : other.hasFile path = true) : disk.hasFile path = true := by
  obtain ⟨place, resolved, held⟩ := hasFile_iff.mp found
  obtain ⟨checked, left, leads⟩ := resolve_eq_ok_iff.mp resolved
  obtain ⟨present, notDirectory, notLink⟩ := content?_isSome_iff.mp held
  rw [startOf, workingDirectory] at leads
  refine hasFile_iff.mpr ⟨place,
    resolve_eq_ok_iff.mpr ⟨checked, left, leads.of_removed entries present⟩, ?_⟩
  rcases entries place with same | gone
  · rw [content?_isSome_iff, isDirectoryAt, IsLink, ← same]
    exact ⟨present, notDirectory, notLink⟩
  · rw [gone] at present
    cases present

end Paths

/-! ### Open directories -/

structure Opens (disk : Disk) (path : Path) (location : Location) : Prop where
  located : disk.locate path = .ok location
  directory : disk.isDirectoryAt location = true

theorem opens_iff {disk : Disk} {path : Path} {location : Location} :
    disk.Opens path location ↔
      disk.resolve path = .ok location ∧ disk.isDirectoryAt location = true := by
  constructor
  · rintro ⟨located, directory⟩
    exact ⟨(locate_eq_ok_iff.mp located).1, directory⟩
  · rintro ⟨resolved, directory⟩
    exact ⟨locate_eq_ok_iff.mpr ⟨resolved, isSome_of_isDirectoryAt directory⟩, directory⟩

theorem Opens.mono {disk other : Disk} {path : Path} {location : Location}
    (opens : disk.Opens path location) (within : WaysIn disk other) :
    other.Opens path location := by
  obtain ⟨resolved, directory⟩ := opens_iff.mp opens
  exact opens_iff.mpr ⟨within.resolve resolved directory, within.directory location directory⟩

theorem Opens.unique {disk : Disk} {path : Path} {location other : Location}
    (opens : disk.Opens path location) (again : disk.Opens path other) : other = location :=
  Except.ok.inj (again.located.symm.trans opens.located)

theorem listDirectory_iff {disk : Disk} {path : Path} {names : List EntryName} :
    disk.listDirectory path = .ok names ↔ ∃ location, disk.Opens path location ∧
      names = (disk.children location).map .text ++ (disk.rawChildren location).map .raw := by
  rw [listDirectory]
  cases found : disk.locate path with
  | error error =>
      simp only [bind, Except.bind, reduceCtorEq, false_iff]
      rintro ⟨location, opens, _⟩
      rw [opens.located] at found
      cases found
  | ok place =>
      constructor
      · intro listed
        simp only [bind, Except.bind] at listed
        split at listed
        · next directory =>
          cases listed
          exact ⟨place, ⟨found, directory⟩, rfl⟩
        · cases listed
      · rintro ⟨location, opens, rfl⟩
        cases Except.ok.inj (found.symm.trans opens.located)
        simp [bind, Except.bind, opens.directory, pure, Except.pure]

/-- Neither the joined path nor the name is too long for the system, on any disk. -/
def Fits (path : Path) (name : String) : Prop :=
  checkPath (path.join name) = .ok () ∧ name.utf8ByteSize ≤ nameLimit

section Opened

variable {disk : Disk} {path : Path} {location : Location} {name : String} {content : ByteArray}
variable {after : Disk}

theorem Opens.resolved (opens : disk.Opens path location) : disk.resolve path = .ok location :=
  (opens_iff.mp opens).1

theorem Opens.checked (opens : disk.Opens path location) : checkPath path = .ok () :=
  (resolve_eq_ok_iff.mp opens.resolved).1

theorem Opens.notEmpty (opens : disk.Opens path location) : path.text ≠ "" :=
  (checkPath_eq_ok_iff.mp opens.checked).2.1

theorem Opens.leads (opens : disk.Opens path location) :
    ∃ left, disk.Leads linkLimit (disk.startOf path) (components path) location left :=
  (resolve_eq_ok_iff.mp opens.resolved).2

theorem leads_separators {links : Nat} (directory : disk.isDirectoryAt location = true)
    (count : Nat) : disk.Leads links location (List.replicate count "") location links := by
  induction count with
  | zero => exact .here
  | succ count ih => exact .stay directory (Or.inl rfl) ih

theorem Opens.closed {count : Nat} (opens : disk.Opens path location)
    (short : path.text.utf8ByteSize + count < pathLimit) :
    disk.Opens ⟨path.text ++ separators count⟩ location := by
  have nonempty : path.text.toList ≠ [] := by
    rw [ne_eq, String.toList_eq_nil_iff]
    exact opens.notEmpty
  have start : disk.startOf ⟨path.text ++ separators count⟩ = disk.startOf path := by
    obtain ⟨first, rest, text⟩ := List.exists_cons_of_ne_nil nonempty
    simp [startOf, startFrom, Path.isAbsolute, text]
  have checked : checkPath ⟨path.text ++ separators count⟩ = .ok () := by
    obtain ⟨noZero, -, -⟩ := checkPath_eq_ok_iff.mp opens.checked
    refine checkPath_eq_ok_iff.mpr ⟨?_, ?_, ?_⟩
    · simp [separators, noZero]
    · simp [opens.notEmpty]
    · rwa [String.utf8ByteSize_append, utf8ByteSize_separators]
  obtain ⟨left, leads⟩ := opens.leads
  refine opens_iff.mpr ⟨resolve_eq_ok_iff.mpr ⟨checked, left, ?_⟩, opens.directory⟩
  rw [start, components_separators]
  exact leads.append (leads_separators opens.directory count)

/-- What can keep a name from being used in a directory that is there. -/
theorem Opens.fits_iff (opens : disk.Opens path location) (isName : IsName name) :
    Fits path name ↔ '\x00' ∉ name.toList ∧ name.utf8ByteSize ≤ nameLimit ∧
      (path.join name).text.utf8ByteSize < pathLimit := by
  obtain ⟨noZero, nonempty, -⟩ := checkPath_eq_ok_iff.mp opens.checked
  have relative : Path.isAbsolute ⟨name⟩ = false := by
    rw [Path.isAbsolute, decide_eq_false_iff_not]
    exact fun slash => isName.whole (List.mem_of_mem_head? slash)
  have joined : ('\x00' ∉ (path.join name).text.toList ↔ '\x00' ∉ name.toList) ∧
      (path.join name).text ≠ "" := by
    simp only [Path.join, relative, Bool.false_eq_true, if_false]
    split <;> simp [noZero, nonempty]
  rw [Fits, checkPath_eq_ok_iff, joined.1]
  constructor
  · rintro ⟨⟨noZeroName, _, short⟩, shortName⟩
    exact ⟨noZeroName, shortName, short⟩
  · rintro ⟨noZeroName, shortName, short⟩
    exact ⟨⟨noZeroName, joined.2, short⟩, shortName⟩

/-- The components of a joined path before the name lead to the directory, with as many
links left over for every name. -/
theorem Opens.way (opens : disk.Opens path location) :
    ∃ links, ∀ name, IsName name → ∃ front, components (path.join name) = front ++ [name] ∧
      disk.Leads linkLimit (disk.startOf (path.join name)) front location links := by
  obtain ⟨links, leads⟩ := opens.leads
  refine ⟨links, fun name isName => ?_⟩
  obtain ⟨front, joined, alone⟩ := components_join opens.notEmpty isName
  refine ⟨front, joined, ?_⟩
  have start : disk.startOf (path.join name) = disk.startOf path := by
    rw [startOf, startOf, startFrom, startFrom, isAbsolute_join opens.notEmpty isName]
  rw [start]
  rcases alone with same | closed
  · rwa [same] at leads
  · rw [closed] at leads
    obtain ⟨middle, between, earlier, later⟩ := leads.split
    cases later.of_empty
    exact earlier

/-- Where a joined path leads, the name in the directory leads too. -/
theorem Opens.resolve_join (opens : disk.Opens path location) :
    ∃ links, ∀ name, IsName name → ∀ found, disk.resolve (path.join name) = .ok found ↔
      checkPath (path.join name) = .ok () ∧ ∃ left, disk.Leads links location [name] found left := by
  obtain ⟨links, way⟩ := opens.way
  refine ⟨links, fun name isName found => ?_⟩
  obtain ⟨front, joined, leads⟩ := way name isName
  rw [resolve_eq_ok_iff, joined]
  refine and_congr_right fun _ => ⟨?_, fun ⟨left, last⟩ => ⟨left, leads.append last⟩⟩
  rintro ⟨left, whole⟩
  obtain ⟨middle, between, earlier, last⟩ := whole.split
  have same := earlier.follow.symm.trans leads.follow
  cases same
  exact ⟨left, last⟩

theorem leads_name_iff {links : Nat} {found : Location}
    (directory : disk.isDirectoryAt location = true) (isName : IsName name)
    (notLink : ¬disk.IsLink (location ++ [name])) :
    (∃ left, disk.Leads links location [name] found left) ↔
      name.utf8ByteSize ≤ nameLimit ∧ found = location ++ [name] := by
  constructor
  · rintro ⟨left, leads⟩
    cases leads with
    | stay _ stays _ => exact absurd stays (not_or.mpr ⟨isName.notEmpty, isName.notPoint⟩)
    | back _ _ => exact absurd rfl isName.notPoints
    | name _ step _ last =>
        cases last
        exact ⟨step.short, rfl⟩
    | link _ _ entry _ => exact absurd ⟨_, entry⟩ notLink
  · rintro ⟨short, rfl⟩
    exact ⟨links, .name directory (.of_isName isName short) notLink .here⟩

theorem Opens.resolve_join_iff {found : Location} (opens : disk.Opens path location)
    (isName : IsName name) (notLink : ¬disk.IsLink (location ++ [name])) :
    disk.resolve (path.join name) = .ok found ↔ Fits path name ∧ found = location ++ [name] := by
  obtain ⟨links, resolves⟩ := opens.resolve_join
  rw [resolves name isName, leads_name_iff opens.directory isName notLink, Fits, and_assoc]

theorem target?_of_leads {front : List String} {links : Nat}
    (parts : components path = front ++ [name])
    (leads : disk.Leads linkLimit (disk.startOf path) front location links)
    (directory : disk.isDirectoryAt location = true) (isName : IsName name) :
    disk.target? path = (checkPath path).map fun _ => some ⟨location, name, false, links⟩ := by
  have trimmed : (front ++ [name]).reverse.dropWhile (· = "") = name :: front.reverse := by
    simp [isName.notEmpty]
  have entered := enter_eq_ok_iff.mpr directory
  rw [target?, parts]
  cases checkPath path with
  | error error => rfl
  | ok =>
      simp only [bind, Except.bind, trimmed, List.reverse_reverse, leads.follow, entered]
      simp [isName.notEmpty, Except.map, pure, Except.pure]

/-! ### Operations -/

/-- A file is written where the name leads. -/
theorem Opens.writeFile_join (opens : disk.Opens path location) (isName : IsName name) :
    disk.writeFile (path.join name) content = .ok after ↔
      ∃ place, disk.resolve (path.join name) = .ok place ∧ disk.takesFile place = true ∧
        after = disk.fill place content := by
  have noDots : isDots name = false := by simp [isDots, isName.notPoint, isName.notPoints]
  obtain ⟨links, way⟩ := opens.way
  obtain ⟨front, joined, leads⟩ := way name isName
  have resolves : disk.resolve (path.join name) = (checkPath (path.join name)).bind fun _ =>
      (disk.follow links location [name]).map Prod.fst := by
    have followed : disk.follow linkLimit (disk.startOf (path.join name)) (front ++ [name]) =
        disk.follow links location [name] := follow_append leads
    rw [resolve, joined, followed]
    cases checkPath (path.join name) with
    | error error => rfl
    | ok => cases disk.follow links location [name] <;> rfl
  rw [resolves, writeFile, target?_of_leads joined leads opens.directory isName]
  cases checkPath (path.join name) with
  | error error => simp [Except.map, bind, Except.bind]
  | ok =>
      simp only [Except.map, bind, Except.bind, noDots, Bool.or_self, Bool.false_eq_true, if_false]
      cases disk.follow links location [name] with
      | error error => simp
      | ok reached =>
          cases takes : disk.takesFile reached.1 with
          | false => simp [takes, throw, throwThe, MonadExceptOf.throw]
          | true =>
              simp only [takes, Bool.not_true, Bool.false_eq_true, if_false, pure, Except.pure,
                Except.ok.injEq, exists_eq_left', true_and]
              exact eq_comm

/-- What is removed is the entry of the name itself. -/
theorem Opens.removeFile_join (opens : disk.Opens path location) (isName : IsName name) :
    disk.removeFile (path.join name) = .ok after ↔
      Fits path name ∧ (disk.entry? (location ++ [name])).isSome = true ∧
        disk.isDirectoryAt (location ++ [name]) = false ∧
        after = disk.erase (location ++ [name]) := by
  have noDots : isDots name = false := by simp [isDots, isName.notPoint, isName.notPoints]
  obtain ⟨links, way⟩ := opens.way
  obtain ⟨front, joined, leads⟩ := way name isName
  rw [removeFile, target?_of_leads joined leads opens.directory isName, Fits, isDirectoryAt]
  cases checkPath (path.join name) with
  | error error => simp [Except.map, bind, Except.bind]
  | ok =>
      simp only [Except.map, bind, Except.bind, noDots, Bool.false_eq_true, if_false, true_and,
        throw, throwThe, MonadExceptOf.throw, pure, Except.pure]
      split
      · next long => simp [Nat.not_le_of_gt long]
      · next short =>
        generalize disk.entry? (location ++ [name]) = entry?
        cases entry? with
        | none => simp
        | some entry =>
            cases entry <;> simp [Entry.isDirectory, Nat.le_of_not_lt short, eq_comm]

-- a link leads to what is read and written, and is itself what is removed
example :
    let disk := plain [(["out", "env.c"], .link ⟨"../other"⟩), (["out"], .directory),
      (["other"], .file .empty)] []
    disk.resolve ⟨"out/env.c"⟩ = .ok ["other"] ∧
      (disk.removeFile ⟨"out/env.c"⟩).toOption.map (fun after =>
        (after.takesFile ["other"], after.children ["out"])) = some (true, []) := by
  decide

/-- A name that leads to a file can be removed. -/
theorem Opens.removeFile_of_hasFile (opens : disk.Opens path location) (isName : IsName name)
    (found : disk.hasFile (path.join name) = true) :
    disk.removeFile (path.join name) = .ok (disk.erase (location ++ [name])) := by
  obtain ⟨place, resolved, held⟩ := hasFile_iff.mp found
  obtain ⟨links, resolves⟩ := opens.resolve_join
  obtain ⟨checked, left, leads⟩ := (resolves name isName place).mp resolved
  apply (opens.removeFile_join isName).mpr
  cases leads with
  | stay _ stays _ => exact absurd stays (not_or.mpr ⟨isName.notEmpty, isName.notPoint⟩)
  | back _ _ => exact absurd rfl isName.notPoints
  | name _ step _ last =>
      cases last
      obtain ⟨present, notDirectory, _⟩ := content?_isSome_iff.mp held
      exact ⟨⟨checked, step.short⟩, present, notDirectory, rfl⟩
  | link _ step entry _ =>
      refine ⟨⟨checked, step.short⟩, ?_, ?_, rfl⟩
      · rw [entry]
        rfl
      · rw [isDirectoryAt, entry]
        rfl

/-- A name that is no link is asked about in the directory itself. -/
theorem Opens.hasFile_join (opens : disk.Opens path location) (isName : IsName name)
    (notLink : ¬disk.IsLink (location ++ [name])) :
    disk.hasFile (path.join name) = true ↔
      Fits path name ∧ (disk.content? (location ++ [name])).isSome = true := by
  simp only [hasFile_iff, opens.resolve_join_iff isName notLink, and_assoc, exists_and_left,
    exists_eq_left]

theorem Opens.readFile_join (opens : disk.Opens path location) (isName : IsName name)
    (notLink : ¬disk.IsLink (location ++ [name])) :
    disk.readFile (path.join name) = .ok content ↔
      Fits path name ∧ disk.content? (location ++ [name]) = some content := by
  simp only [readFile_eq_ok_iff, opens.resolve_join_iff isName notLink, and_assoc, exists_and_left,
    exists_eq_left]

section Unlinked

variable (opens : disk.Opens path location) (isName : IsName name)
variable (unlinked : disk.Unlinked (location ++ [name]))

include opens isName unlinked

theorem Opens.hasFile_unlinked :
    disk.hasFile (path.join name) = true ↔
      Fits path name ∧ (disk.file? location name).isSome = true := by
  rw [opens.hasFile_join isName unlinked.notLink, content?_eq_file? unlinked]

theorem Opens.readFile_unlinked :
    disk.readFile (path.join name) = .ok content ↔
      Fits path name ∧ disk.file? location name = some content := by
  rw [opens.readFile_join isName unlinked.notLink, content?_eq_file? unlinked]

theorem Opens.writeFile_unlinked :
    disk.writeFile (path.join name) content = .ok after ↔
      Fits path name ∧ disk.isDirectoryAt (location ++ [name]) = false ∧
        after = disk.put (location ++ [name]) (.file content) := by
  simp only [opens.writeFile_join isName, opens.resolve_join_iff isName unlinked.notLink, and_assoc,
    exists_and_left, exists_eq_left, takesFile_unlinked unlinked,
    fill_of_not_shared unlinked.notShared]

end Unlinked

end Opened

end GuestGlue.Disk
