/-
The places a path leads through.  Creating the directory of a path puts new directories
only where the path, as it is written, leads through: below a name that is left again with
two points there can be one too.  Without two points and links these are the directory
itself and those around it.
-/

import GuestGlue.Proofs.Files.States
import Mathlib.Data.List.Infix

namespace GuestGlue

/-! ### Texts of parents -/

namespace Path

/-- What is dropped from the end ends where a separator stands, if anything is left. -/
theorem trimBack_split (chars : List Char) :
    ∃ dropped, chars = dropped ++ trimBack chars ∧
      (trimBack chars ≠ [] → dropped = [] ∨ ∃ front, dropped = front ++ ['/']) := by
  fun_induction trimBack chars with
  | case1 rest ih =>
      obtain ⟨dropped, split, ends⟩ := ih
      refine ⟨'/' :: dropped, congrArg ('/' :: ·) split, fun left => Or.inr ?_⟩
      rcases ends left with rfl | ⟨front, rfl⟩
      · exact ⟨[], rfl⟩
      · exact ⟨'/' :: front, rfl⟩
  | case2 rest ih =>
      obtain ⟨dropped, split, ends⟩ := ih
      refine ⟨'.' :: '/' :: dropped, congrArg ('.' :: '/' :: ·) split, fun left => Or.inr ?_⟩
      rcases ends left with rfl | ⟨front, rfl⟩
      · exact ⟨['.'], rfl⟩
      · exact ⟨'.' :: '/' :: front, rfl⟩
  | case3 => exact ⟨['.'], rfl, fun left => absurd rfl left⟩
  | case4 chars => exact ⟨[], rfl, fun _ => Or.inl rfl⟩

theorem splitHead_append (chars : List Char) :
    (splitHead chars).1 ++ (splitHead chars).2 = chars := by
  unfold splitHead
  split <;> rfl

/-- After a point at the start there is nothing or a separator. -/
theorem splitHead_point {chars body : List Char} (split : splitHead chars = (['.'], body)) :
    body = [] ∨ ∃ rest, body = '/' :: rest := by
  unfold splitHead at split
  split at split <;> cases split
  · exact Or.inl rfl
  · exact Or.inr ⟨_, rfl⟩

theorem splitHead_cases (chars : List Char) :
    (splitHead chars).1 = ['/'] ∨ (splitHead chars).1 = ['.'] ∨ (splitHead chars).1 = [] := by
  unfold splitHead
  split <;> simp

/-- What stands before the last component, and what was taken away behind it. -/
theorem outer_split {back : List Char}
    (left : trimBack ((back.dropWhile (· ≠ '/')).drop 1) ≠ []) :
    ∃ behind, back = behind ++ '/' :: trimBack ((back.dropWhile (· ≠ '/')).drop 1) := by
  obtain ⟨dropped, split, ends⟩ := trimBack_split ((back.dropWhile (· ≠ '/')).drop 1)
  have parts := List.takeWhile_append_dropWhile (p := (· ≠ '/')) (l := back)
  have last := List.head?_dropWhile_not (· ≠ '/') back
  generalize trimBack ((back.dropWhile (· ≠ '/')).drop 1) = kept at left split ends
  generalize back.dropWhile (· ≠ '/') = tail at parts split last
  generalize back.takeWhile (· ≠ '/') = taken at parts
  cases tail with
  | nil =>
      have nothing := (List.append_eq_nil_iff.mp split.symm).2
      exact absurd nothing left
  | cons first outer =>
      have slash : first = '/' := by simpa using last
      change outer = _ at split
      rw [slash, split] at parts
      rcases ends left with rfl | ⟨front, rfl⟩
      · exact ⟨_, parts.symm⟩
      · refine ⟨taken ++ '/' :: front, ?_⟩
        rw [← parts]
        simp

/-- In the text of a path a separator follows on its parent, unless that is the root or
empty. -/
theorem parent?_text {path parent : Path} (found : path.parent? = some parent) :
    parent.text = "" ∨ parent.text = "/" ∨
      ∃ more, path.text.toList = parent.text.toList ++ '/' :: more := by
  unfold parent? at found
  have whole := splitHead_append path.text.toList
  have heads := splitHead_cases path.text.toList
  have point := @splitHead_point path.text.toList
  generalize splitHead path.text.toList = parts at found whole heads point
  obtain ⟨head, body⟩ := parts
  simp only at found whole heads
  split at found
  · split at found
    · cases found
      exact Or.inl rfl
    · cases found
  · next present =>
    cases found
    obtain ⟨ended, split, _⟩ := trimBack_split body.reverse
    have outer := @outer_split (trimBack body.reverse)
    generalize trimBack body.reverse = back at split present outer
    generalize trimBack ((back.dropWhile (· ≠ '/')).drop 1) = kept at outer
    by_cases nothing : kept = []
    · -- of the path only its head is left
      subst nothing
      rcases heads with rfl | rfl | rfl
      · exact Or.inr (Or.inl rfl)
      · rcases point rfl with rfl | ⟨rest, rfl⟩
        · exact absurd (List.append_eq_nil_iff.mp split.symm).2 present
        · exact Or.inr (Or.inr ⟨rest, whole.symm⟩)
      · exact Or.inl rfl
    · obtain ⟨behind, rfl⟩ := outer nothing
      refine Or.inr (Or.inr ⟨behind.reverse ++ ended.reverse, ?_⟩)
      have forwards := congrArg List.reverse split
      rw [List.reverse_reverse] at forwards
      rw [← whole, forwards, String.toList_ofList]
      simp

end Path

namespace Disk

/-! ### Places on the way -/

def Passes (disk : Disk) (path : Path) (place : Location) : Prop :=
  ∃ front left, front <+: components path ∧
    disk.Leads linkLimit (disk.startOf path) front place left

theorem Passes.mono {disk other : Disk} {path : Path} {place : Location}
    (passes : disk.Passes path place) (directory : disk.isDirectoryAt place = true)
    (within : WaysIn disk other) : other.Passes path place := by
  obtain ⟨front, left, isPrefix, leads⟩ := passes
  refine ⟨front, left, isPrefix, ?_⟩
  rw [startOf, within.workingDirectory]
  exact within.leads _ _ _ _ _ leads directory

/-- The way to what a path goes on from is a part of its own way. -/
theorem Passes.of_text {disk : Disk} {path parent : Path} {place : Location} {more : List Char}
    (text : path.text.toList = parent.text.toList ++ '/' :: more) (present : parent.text ≠ "")
    (passes : disk.Passes parent place) : disk.Passes path place := by
  obtain ⟨front, left, isPrefix, leads⟩ := passes
  have nonempty : parent.text.toList ≠ [] := by
    rwa [ne_eq, String.toList_eq_nil_iff]
  have start : disk.startOf path = disk.startOf parent := by
    obtain ⟨first, rest, chars⟩ := List.exists_cons_of_ne_nil nonempty
    simp [startOf, startFrom, Path.isAbsolute, text, chars]
  refine ⟨front, left, isPrefix.trans ?_, start ▸ leads⟩
  rw [components, components, text, splitComponents_append, List.map_append]
  exact List.prefix_append _ _

/-- A way through links leaves fewer of them; without links and two points a path leads
further into the directories. -/
theorem Leads.straight {disk : Disk} {links left : Nat} {current place : Location}
    {parts : List String} (leads : disk.Leads links current parts place left) :
    left ≤ links ∧ (left = links → ".." ∉ parts →
      place = current ++ parts.filter fun part => part ≠ "" ∧ part ≠ ".") := by
  induction leads with
  | here => exact ⟨Nat.le_refl _, fun _ _ => (List.append_nil _).symm⟩
  | stay _ stays _ ih =>
      refine ⟨ih.1, fun same noPoints => ?_⟩
      rw [ih.2 same fun points => noPoints (List.mem_cons_of_mem _ points),
        List.filter_cons_of_neg (by simpa [or_iff_not_imp_left] using stays)]
  | back _ _ ih => exact ⟨ih.1, fun _ noPoints => absurd List.mem_cons_self noPoints⟩
  | name _ step _ _ ih =>
      refine ⟨ih.1, fun same noPoints => ?_⟩
      rw [ih.2 same fun points => noPoints (List.mem_cons_of_mem _ points),
        List.filter_cons_of_pos (by simp [step.notEmpty, step.notPoint])]
      simp
  | link _ _ _ _ ih => exact ⟨Nat.le_succ_of_le ih.1, fun same => by omega⟩

def destination (disk : Disk) (path : Path) : Location :=
  disk.startOf path ++ (components path).filter fun part => part ≠ "" ∧ part ≠ "."

theorem destination_congr {disk other : Disk}
    (same : other.workingDirectory = disk.workingDirectory) (path : Path) :
    other.destination path = disk.destination path := by
  rw [destination, startOf, same]
  rfl

/-- No beginning of the path leads through a link. -/
def Straight (disk : Disk) (path : Path) : Prop :=
  ∀ front place left, front <+: components path →
    disk.Leads linkLimit (disk.startOf path) front place left → left = linkLimit

theorem Leads.linkless {disk : Disk} {links left : Nat} {current place : Location}
    {parts : List String} (leads : disk.Leads links current parts place left)
    (linkless : ∀ place, ¬disk.IsLink place) : left = links := by
  induction leads with
  | here => rfl
  | stay _ _ _ ih => exact ih
  | back _ _ ih => exact ih
  | name _ _ _ _ ih => exact ih
  | link _ _ entry _ _ => exact absurd ⟨_, entry⟩ (linkless _)

theorem straight_of_linkless {disk : Disk} (linkless : ∀ place, ¬disk.IsLink place)
    (path : Path) : disk.Straight path :=
  fun _ _ _ _ leads => leads.linkless linkless

theorem Opens.destination_eq {disk : Disk} {path : Path} {location : Location}
    (opens : disk.Opens path location) (straight : disk.Straight path)
    (noPoints : ".." ∉ components path) : location = disk.destination path := by
  obtain ⟨left, leads⟩ := opens.leads
  exact leads.straight.2 (straight _ _ _ (List.prefix_refl _) leads) noPoints

theorem Passes.prefix_destination {disk : Disk} {path : Path} {place : Location}
    (passes : disk.Passes path place) (straight : disk.Straight path)
    (noPoints : ".." ∉ components path) : place <+: disk.destination path := by
  obtain ⟨front, left, isPrefix, leads⟩ := passes
  have unlinked := straight front place left isPrefix leads
  obtain ⟨back, whole⟩ := isPrefix
  rw [← whole, List.mem_append, not_or] at noPoints
  rw [destination, ← whole, leads.straight.2 unlinked noPoints.1, List.filter_append,
    ← List.append_assoc]
  exact List.prefix_append _ _

/-! ### Directories that are made -/

/-- A new directory lies where the path leads through. -/
theorem makeDirectory_passes {disk after : Disk} {path : Path}
    (made : disk.makeDirectory path = .ok after) (place : Location) :
    after.entry? place = disk.entry? place ∨ after.Passes path place := by
  have within := (makeDirectory_adds made).sameLinks
  obtain ⟨target, found, noDots, short, absent, rfl⟩ := makeDirectory_target made
  have isName := target?_name found noDots
  obtain ⟨_, _, _, directory, front, behind, parts, _, leads⟩ := target?_leads found
  rw [entry?_put]
  split
  · next here =>
    have isPrefix : front ++ [target.name] <+: components path := ⟨behind, by simp [parts]⟩
    refine Or.inr ⟨front ++ [target.name], target.links, isPrefix, ?_⟩
    have entered : Disk.entry? (disk.put (target.directory ++ [target.name]) .directory)
        (target.directory ++ [target.name]) = some .directory := by
      rw [entry?_put, if_pos ⟨append_name_ne_nil _ _, rfl⟩]
    rw [startOf, within.workingDirectory, here.2]
    refine (within.leads leads).append ?_
    refine .name (within.directory _ directory) (.of_isName isName short) ?_ .here
    rintro ⟨other, linked⟩
    rw [entered] at linked
    cases linked
  · exact Or.inl rfl

section MakesWay

variable {σ α β : Type} [FileSystem (StateM σ)] [DiskState σ] {path parent : Path}

/-- The program adds directories only, and only where the path leads through. -/
def MakesWay (path : Path) (program : StateM σ α) : Prop :=
  ∀ state, AddsDirectories (DiskState.disk state) (DiskState.disk (program state).2) ∧
    ∀ place, Disk.entry? (DiskState.disk (program state).2) place =
        Disk.entry? (DiskState.disk state) place ∨
      Disk.Passes (DiskState.disk (program state).2) path place

theorem makesWay_of_same {program : StateM σ α}
    (same : ∀ state, DiskState.disk (program state).2 = DiskState.disk state) (path : Path) :
    MakesWay path program := by
  intro state
  rw [same]
  exact ⟨.refl _, fun _ => Or.inl rfl⟩

theorem makesWay_pure (path : Path) (value : α) : MakesWay path (pure value : StateM σ α) :=
  makesWay_of_same (fun _ => rfl) path

theorem MakesWay.bind {program : StateM σ α} {next : α → StateM σ β} (first : MakesWay path program)
    (second : ∀ value, MakesWay path (next value)) : MakesWay path (program >>= next) := by
  intro state
  obtain ⟨adds, passes⟩ := first state
  obtain ⟨addsLater, passesLater⟩ := second (program state).1 (program state).2
  refine ⟨adds.trans addsLater, fun place => ?_⟩
  rw [bind_apply]
  rcases passesLater place with same | there
  · rcases passes place with unchanged | before
    · exact Or.inl (same.trans unchanged)
    · -- what was made before is there still
      rcases adds.entries place with unchanged | ⟨_, added⟩
      · exact Or.inl (same.trans unchanged)
      · exact Or.inr (before.mono (isDirectoryAt_iff.mpr added) addsLater.sameLinks.waysIn)
  · exact Or.inr there

theorem makesWay_makeDirectory (path : Path) :
    MakesWay path (FileSystem.makeDirectory (m := StateM σ) path) := by
  intro state
  rcases DiskState.makeDirectory path state with same | made
  · rw [same]
    exact ⟨.refl _, fun _ => Or.inl rfl⟩
  · exact ⟨makeDirectory_adds made, makeDirectory_passes made⟩

/-- Whether a directory is there already is only asked. -/
private theorem accept_disk (path : Path) (error : FileError) (state : σ) :
    DiskState.disk ((do
      if ← FileSystem.isDirectory path then return .ok () else return .error error :
        StateM σ (Except FileError Unit)) state).2 = DiskState.disk state := by
  rw [bind_apply]
  split <;> exact DiskState.isDirectory path state

theorem makesWay_ensureDirectory (path : Path) :
    MakesWay path (FileSystem.ensureDirectory (m := StateM σ) path) := by
  unfold FileSystem.ensureDirectory
  refine (makesWay_makeDirectory path).bind fun made => ?_
  cases made with
  | ok => exact makesWay_pure path _
  | error error => exact makesWay_of_same (accept_disk path error) path

theorem createDirectories_root (state : σ) :
    DiskState.disk (FileSystem.createDirectories (m := StateM σ) ⟨"/"⟩ state).2 =
      DiskState.disk state := by
  have nowhere : Path.parent? ⟨"/"⟩ = none := by decide
  have unmade (disk after : Disk) : disk.makeDirectory ⟨"/"⟩ ≠ .ok after := by
    intro made
    cases made
  have made := (DiskState.makeDirectory ⟨"/"⟩ state).resolve_right (unmade _ _)
  rw [FileSystem.createDirectories, if_neg (by decide), bind_apply]
  generalize FileSystem.makeDirectory (m := StateM σ) ⟨"/"⟩ state = ran at made ⊢
  obtain ⟨outcome, later⟩ := ran
  split
  · cases outcome with
    | ok => exact made
    | error error =>
        cases error with
        | notFound => exact made
        | _ => exact (accept_disk _ _ _).trans made
  · next found =>
    rw [nowhere] at found
    cases found

/-- Where the way to its parent leads, the way of the path leads too. -/
theorem MakesWay.of_parent (found : path.parent? = some parent)
    (makes : MakesWay parent (FileSystem.createDirectories (m := StateM σ) parent)) :
    MakesWay path (FileSystem.createDirectories (m := StateM σ) parent) := by
  rcases Path.parent?_text found with empty | root | ⟨more, text⟩
  · rw [FileSystem.createDirectories, if_pos empty]
    exact makesWay_pure path _
  · have same : parent = ⟨"/"⟩ := by
      cases parent
      exact congrArg Path.mk root
    rw [same]
    exact makesWay_of_same createDirectories_root path
  · by_cases empty : parent.text = ""
    · rw [FileSystem.createDirectories, if_pos empty]
      exact makesWay_pure path _
    · intro state
      obtain ⟨adds, passes⟩ := makes state
      exact ⟨adds, fun place => (passes place).imp_right (·.of_text text empty)⟩

theorem makesWay_createDirectories (path : Path) :
    MakesWay path (FileSystem.createDirectories (m := StateM σ) path) := by
  -- a parent is a shorter text
  induction size : path.text.toList.length using Nat.strongRecOn generalizing path with
  | ind size shorter =>
      subst size
      rw [FileSystem.createDirectories]
      split
      · exact makesWay_pure path _
      · refine (makesWay_makeDirectory path).bind fun made => ?_
        split
        · exact makesWay_pure path _
        · split
          · exact makesWay_pure path _
          · next parent found =>
            have makes := shorter _ (Path.length_of_parent? found) parent rfl
            refine (MakesWay.of_parent found makes).bind fun created => ?_
            cases created with
            | error error => exact makesWay_pure path _
            | ok => exact makesWay_ensureDirectory path
        · next error _ => exact makesWay_of_same (accept_disk path error) path

theorem adds_createDirectories (path : Path) (state : σ) :
    AddsDirectories (DiskState.disk state)
      (DiskState.disk (FileSystem.createDirectories (m := StateM σ) path state).2) :=
  (makesWay_createDirectories path state).1

end MakesWay

end Disk

end GuestGlue
