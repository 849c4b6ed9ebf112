/-
Directories that are made.  A path whose last component names nothing yet, below a
directory that is there, is made into an empty directory that the path leads to.
-/

import GuestGlue.Proofs.Files.Changes

namespace GuestGlue.Disk

structure Creates (disk : Disk) (path : Path) (location : Location) (made : Disk) : Prop where
  created : FileSystem.createDirectories (m := DiskM) path disk = (.ok (), made)
  opens : made.Opens path location
  empty : made.children location = []

section Fresh

variable {disk made : Disk} {path : Path} {location : Location} {name : String}

theorem createDirectories_of_makeDirectory (nonempty : path.text ≠ "")
    (makes : disk.makeDirectory path = .ok made) :
    FileSystem.createDirectories (m := DiskM) path disk = (.ok (), made) := by
  have ran : FileSystem.makeDirectory (m := DiskM) path disk = (.ok (), made) :=
    DiskM.change_ok makes
  rw [FileSystem.createDirectories, if_neg nonempty, bind_apply, ran]
  rfl

theorem createDirectories_of_notFound {parent : Path} {middle : Disk} (nonempty : path.text ≠ "")
    (missing : disk.makeDirectory path = .error .notFound) (outer : path.parent? = some parent)
    (created : FileSystem.createDirectories (m := DiskM) parent disk = (.ok (), middle)) :
    FileSystem.createDirectories (m := DiskM) path disk =
      FileSystem.ensureDirectory (m := DiskM) path middle := by
  have ran : FileSystem.makeDirectory (m := DiskM) path disk = (.error .notFound, disk) :=
    DiskM.change_error missing
  rw [FileSystem.createDirectories, if_neg nonempty, bind_apply, ran]
  dsimp only
  generalize path.parent? = outer? at outer ⊢
  subst outer
  change ((FileSystem.createDirectories parent : DiskM _) >>= _) disk = _
  rw [bind_apply, created]

theorem children_put_self {entry : Entry} (childless : disk.children (location ++ [name]) = []) :
    (disk.put (location ++ [name]) entry).children (location ++ [name]) = [] := by
  apply List.eq_nil_iff_forall_not_mem.mpr
  intro child member
  obtain ⟨held, listed⟩ := mem_children_iff.mp member
  rcases List.mem_cons.mp listed with here | before
  · have lengths := congrArg (fun entry => entry.1.length) here
    simp at lengths
  · have earlier : child ∈ disk.children (location ++ [name]) :=
      mem_children_iff.mpr ⟨held, (List.mem_filter.mp before).1⟩
    rw [childless] at earlier
    cases earlier

theorem creates_of_leads {front : List String} {links : Nat} (checked : checkPath path = .ok ())
    (parts : components path = front ++ [name])
    (leads : disk.Leads linkLimit (disk.startOf path) front location links)
    (directory : disk.isDirectoryAt location = true) (isName : IsName name)
    (short : name.utf8ByteSize ≤ nameLimit) (absent : disk.entry? (location ++ [name]) = none)
    (childless : disk.children (location ++ [name]) = []) :
    disk.Creates path (location ++ [name]) (disk.put (location ++ [name]) .directory) := by
  have noDots : isDots name = false := by simp [isDots, isName.notPoint, isName.notPoints]
  have target : disk.target? path = .ok (some ⟨location, name, false, links⟩) := by
    rw [target?_of_leads parts leads directory isName, checked]
    rfl
  have makes : disk.makeDirectory path = .ok (disk.put (location ++ [name]) .directory) := by
    rw [makeDirectory, target]
    simp [bind, Except.bind, noDots, absent, Nat.not_lt.mpr short, pure, Except.pure]
  have within := (addsDirectories_put absent isName).sameLinks
  have made : Disk.isDirectoryAt (disk.put (location ++ [name]) .directory) (location ++ [name]) =
      true := by
    rw [isDirectoryAt_iff, entry?_put, if_pos ⟨append_name_ne_nil location name, rfl⟩]
  constructor
  · exact createDirectories_of_makeDirectory (checkPath_eq_ok_iff.mp checked).2.1 makes
  · refine opens_iff.mpr ⟨resolve_eq_ok_iff.mpr ⟨checked, links, ?_⟩, made⟩
    rw [parts]
    refine (within.leads leads).append ?_
    exact .name (within.directory location directory) (.of_isName isName short)
      (Unlinked.of_directory made).notLink .here
  · exact children_put_self childless

/-- A directory that is there, and the name of nothing in it. -/
theorem Opens.creates (opens : disk.Opens path location) (isName : IsName name)
    (fits : Fits path name) (absent : disk.entry? (location ++ [name]) = none)
    (childless : disk.children (location ++ [name]) = []) :
    disk.Creates (path.join name) (location ++ [name]) (disk.put (location ++ [name]) .directory) := by
  obtain ⟨links, way⟩ := opens.way
  obtain ⟨front, joined, leads⟩ := way name isName
  exact creates_of_leads fits.1 joined leads opens.directory isName fits.2 absent childless

theorem creates_name (checked : checkPath ⟨name⟩ = .ok ()) (isName : IsName name)
    (directory : disk.isDirectoryAt disk.workingDirectory = true)
    (short : name.utf8ByteSize ≤ nameLimit)
    (absent : disk.entry? (disk.workingDirectory ++ [name]) = none)
    (childless : disk.children (disk.workingDirectory ++ [name]) = []) :
    disk.Creates ⟨name⟩ (disk.workingDirectory ++ [name])
      (disk.put (disk.workingDirectory ++ [name]) .directory) := by
  have parts : components ⟨name⟩ = [] ++ [name] := by
    rw [components, splitComponents_name isName.whole, List.map_singleton, String.ofList_toList]
    rfl
  have start : disk.startOf ⟨name⟩ = disk.workingDirectory := by
    have relative : Path.isAbsolute ⟨name⟩ = false := by
      rw [Path.isAbsolute, decide_eq_false_iff_not]
      exact fun slash => isName.whole (List.mem_of_mem_head? slash)
    simp [startOf, startFrom, relative]
  have here : disk.Leads linkLimit (disk.startOf ⟨name⟩) [] disk.workingDirectory linkLimit := by
    rw [start]
    exact .here
  exact creates_of_leads checked parts here directory isName short absent childless

end Fresh

end GuestGlue.Disk
