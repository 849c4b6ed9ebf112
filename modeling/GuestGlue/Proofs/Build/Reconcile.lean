/-
What reconciliation leaves in a directory.  Each step is told by what the names of the
directory hold before it; the stale files that a path can name go, and the generated files
come.  The generated names have to be names of different files, and neither these nor the
stale ones links: what is written through a link is another entry than the one that is named.
-/

import GuestGlue.Proofs.Build.Completion
import GuestGlue.Proofs.Files.Ways

namespace GuestGlue

namespace Disk

instance (path : Path) (name : String) : Decidable (Fits path name) :=
  inferInstanceAs (Decidable (_ ∧ _))

end Disk

namespace Reconcile

variable {disk after : Disk} {directory : Path} {location : Location}
variable {files : List GlueFile} {extension : String}

/-! ### Whole runs -/

section States

variable {σ : Type} [FileSystem (StateM σ)] [DiskState σ] {property : Disk → Prop}

/-- What the removal of every stale file keeps, a sweep keeps, however it ends. -/
theorem sweep_keeps {items : List (Except FileError EntryName)}
    (step : ∀ name, .ok (.text name) ∈ items → isStaleName files extension name = true →
      ∀ disk after, property disk → disk.hasFile (directory.join name) = true →
        disk.removeFile (directory.join name) = .ok after → property after) :
    Keeps (fun state : σ => property (DiskState.disk state))
      (sweep (m := StateM σ) directory files extension items) := by
  induction items with
  | nil => exact .pure []
  | cons item rest ih =>
      have later := ih fun name member => step name (List.mem_cons_of_mem _ member)
      match item with
      | .error error => exact .throw _
      | .ok (.raw name) => exact later
      | .ok (.text name) =>
          intro state before
          rw [sweep]
          let kept (state : σ) : Prop := property (DiskState.disk state)
          let path := directory.join name
          have asked := DiskState.isFile path state
          have found := DiskState.hasFile path state
          have first : kept (FileSystem.isFile (m := StateM σ) path state).2 := by
            rwa [← asked] at before
          change kept _
          apply run_bind_snd first
          intro present middle ran
          rw [run_lift_ok_iff.mp ran] at asked found first
          split
          · next goes =>
            obtain ⟨stale, isFile⟩ := Bool.and_eq_true_iff.mp goes
            refine run_bind_keeps ?_ fun _ => later.bind fun _ => .pure _
            rw [run_onPath_snd]
            rcases DiskState.remove path middle with same | removed
            · change property _
              rwa [same]
            · rw [asked] at removed
              exact step name List.mem_cons_self stale _ _ before (found isFile) removed
          · exact later middle first

theorem holds_disk (path : Path) (content : ByteArray) (state : σ) :
    DiskState.disk (holds (m := StateM σ) path content state).2 = DiskState.disk state := by
  have read := DiskState.read path state
  rw [holds, bind_apply]
  cases (FileSystem.read (m := StateM σ) path state).1 <;> exact read

/-- What the writing of every file keeps, also when it stops half way, all of it keeps. -/
theorem writeFiles_keeps
    (step : ∀ file ∈ files, ∀ part, Begins part file.content.toUTF8 → ∀ disk after,
      property disk → disk.writeFile (directory.join file.name) part = .ok after →
        property after) :
    Keeps (fun state : σ => property (DiskState.disk state))
      (writeFiles (m := StateM σ) directory files) := by
  induction files with
  | nil => exact .pure _
  | cons file rest ih =>
      obtain ⟨stepHere, others⟩ := List.forall_mem_cons.mp step
      have later := ih others
      rw [writeFiles]
      refine (Keeps.lift fun state before => ?_).bind fun held => ?_
      · rw [holds_disk]
        exact before
      · split
        · exact later.bind fun _ => .pure _
        · refine Keeps.bind (.onPath _ fun state before => ?_) fun _ => later.bind fun _ => .pure _
          rcases DiskState.write (directory.join file.name) file.content.toUTF8 state with
            same | ⟨part, begins, written⟩
          · rw [same]
            exact before
          · exact stepHere part begins _ _ before written

/-- In a run that succeeds every file that is written is written to its end. -/
theorem writeFiles_whole {state after : σ} {names : List String × List String}
    (step : ∀ file ∈ files, ∀ disk after, property disk →
      disk.writeFile (directory.join file.name) file.content.toUTF8 = .ok after → property after)
    (ran : (writeFiles (m := StateM σ) directory files).run state = (.ok names, after))
    (before : property (DiskState.disk state)) : property (DiskState.disk after) := by
  induction files generalizing state names with
  | nil =>
      cases ran
      exact before
  | cons file rest ih =>
      obtain ⟨stepHere, later⟩ := List.forall_mem_cons.mp step
      rw [writeFiles] at ran
      obtain ⟨held, asked, asking, ranAsked⟩ := run_bind_ok_iff.mp ran
      have unmoved := holds_disk (directory.join file.name) file.content.toUTF8 state
      rw [run_lift_ok_iff.mp asking] at unmoved
      rw [← unmoved] at before
      split at ranAsked
      · obtain ⟨others, last, ranRest, ended⟩ := run_bind_ok_iff.mp ranAsked
        cases ended
        exact ih later ranRest before
      · obtain ⟨_, written, putting, ranPut⟩ := run_bind_ok_iff.mp ranAsked
        obtain ⟨others, last, ranRest, ended⟩ := run_bind_ok_iff.mp ranPut
        cases ended
        have put := DiskState.written (directory.join file.name) file.content.toUTF8 asked
        rw [run_onPath_ok_iff.mp putting] at put
        exact ih later ranRest (stepHere _ _ before (put rfl))

end States

section Completed

variable {property : Disk → Prop}

@[elab_as_elim]
theorem sweep_maintains {items : List (Except FileError EntryName)} {removed : List String}
    (step : ∀ name disk after, property disk → disk.hasFile (directory.join name) = true →
      disk.removeFile (directory.join name) = .ok after → property after)
    (before : property disk)
    (completed : Completes (sweep directory files extension items) disk removed after) :
    property after := by
  have keeps : Keeps (fun state : Disk => property (DiskState.disk state))
      (sweep directory files extension items) := sweep_keeps fun name _ _ => step name
  exact keeps.completes before completed

@[elab_as_elim]
theorem writeFiles_maintains {names : List String × List String}
    (step : ∀ file ∈ files, ∀ part disk after, property disk →
      disk.writeFile (directory.join file.name) part = .ok after → property after)
    (before : property disk)
    (completed : Completes (writeFiles directory files) disk names after) : property after := by
  have keeps : Keeps (fun state : Disk => property (DiskState.disk state))
      (writeFiles directory files) :=
    writeFiles_keeps fun file member part _ => step file member part
  exact keeps.completes before completed

end Completed

/-! ### Removing -/

def textItem (name : String) : Except FileError EntryName :=
  .ok (.text name)

def Swept (directory : Path) (files : List GlueFile) (extension name : String) : Prop :=
  isStaleName files extension name = true ∧ Disk.Fits directory name

instance (directory : Path) (files : List GlueFile) (extension name : String) :
    Decidable (Swept directory files extension name) :=
  inferInstanceAs (Decidable (_ ∧ _))

theorem isStaleName_iff {name : String} :
    isStaleName files extension name = true ↔
      FileName.extension? name = some extension ∧ name ∉ files.map (·.name) := by
  simp [isStaleName]

/-- What becomes of the first name, and of the others after it. -/
theorem completes_sweep_cons_iff {name : String} {rest : List (Except FileError EntryName)}
    {removed : List String} :
    Completes (sweep directory files extension (textItem name :: rest)) disk removed after ↔
      (isStaleName files extension name = true ∧ disk.hasFile (directory.join name) = true ∧
        ∃ middle others, disk.removeFile (directory.join name) = .ok middle ∧
          Completes (sweep directory files extension rest) middle others after ∧
          removed = name :: others) ∨
      (¬(isStaleName files extension name = true ∧ disk.hasFile (directory.join name) = true) ∧
        Completes (sweep directory files extension rest) disk removed after) := by
  rw [textItem, sweep, completes_bind_iff]
  constructor
  · rintro ⟨present, _, asked, ran⟩
    cases completes_lift_iff.mp asked
    split at ran
    · next goes =>
      obtain ⟨_, middle, gone, ran⟩ := completes_bind_iff.mp ran
      obtain ⟨others, _, swept, ran⟩ := completes_bind_iff.mp ran
      obtain ⟨rfl, rfl⟩ := completes_pure_iff.mp ran
      have ⟨stale, present⟩ := Bool.and_eq_true_iff.mp goes
      exact Or.inl ⟨stale, present, middle, others,
        DiskM.change_iff.mp (completes_onPath_iff.mp gone), swept, rfl⟩
    · next stays => exact Or.inr ⟨fun both => stays (Bool.and_eq_true_iff.mpr both), ran⟩
  · have asked : Completes (liftM (FileSystem.isFile (m := DiskM) (directory.join name))) disk
        (disk.hasFile (directory.join name)) disk := completes_lift_iff.mpr rfl
    rintro (⟨stale, present, middle, others, gone, swept, rfl⟩ | ⟨stays, swept⟩)
    · refine ⟨_, disk, asked, ?_⟩
      rw [if_pos (Bool.and_eq_true_iff.mpr ⟨stale, present⟩)]
      exact (completes_onPath_iff.mpr (DiskM.change_iff.mpr gone)).bind
        (swept.bind (completes_pure_iff.mpr ⟨rfl, rfl⟩))
    · refine ⟨_, disk, asked, ?_⟩
      rw [if_neg fun both => stays (Bool.and_eq_true_iff.mp both)]
      exact swept

/-- Names that are no texts are passed over. -/
theorem sweep_append_raw (items : List (Except FileError EntryName)) (names : List RawName) :
    sweep (m := DiskM) directory files extension (items ++ names.map fun name => .ok (.raw name)) =
      sweep directory files extension items := by
  induction items with
  | nil =>
      induction names with
      | nil => rfl
      | cons name rest ih => exact ih
  | cons item rest ih =>
      match item with
      | .error error => rfl
      | .ok (.raw name) => exact ih
      | .ok (.text name) =>
          rw [List.cons_append, sweep, sweep, ih]

theorem sweep_sameDirectories {items : List (Except FileError EntryName)} {removed : List String}
    (completed : Completes (sweep directory files extension items) disk removed after) :
    Disk.SameDirectories disk after := by
  refine sweep_maintains ?_ (.refl disk) completed
  intro name middle later same _ gone
  exact same.trans (Disk.removeFile_sameDirectories gone)

theorem sweep_waysIn {items : List (Except FileError EntryName)} {removed : List String}
    (completed : Completes (sweep directory files extension items) disk removed after) :
    Disk.WaysIn disk after := by
  refine sweep_maintains ?_ (.refl disk) completed
  intro name middle later within found gone
  exact within.trans (Disk.removeFile_waysIn found gone)

theorem sweep_fewerLinks {items : List (Except FileError EntryName)} {removed : List String}
    (completed : Completes (sweep directory files extension items) disk removed after) :
    Disk.FewerLinks disk after := by
  refine sweep_maintains ?_ (.refl disk) completed
  intro name middle later fewer _ gone
  exact fewer.trans (Disk.removeFile_fewerLinks gone)

/-- The names concerned are no links, and each generated one has a file of its own. -/
structure Direct (files : List GlueFile) (extension : String) (disk : Disk) (location : Location) :
    Prop where
  generated : disk.Separate location (files.map (·.name))
  stale : ∀ name, isStaleName files extension name = true → ¬disk.IsLink (location ++ [name])

theorem Direct.mono (direct : Direct files extension disk location)
    (fewer : Disk.FewerLinks disk after) : Direct files extension after location where
  generated := fewer.separate direct.generated
  stale name isStale := fewer.not_isLink (direct.stale name isStale)

section Removing

variable {names removed : List String} {name : String}

/-- Removing a file leaves the way to its directory. -/
theorem remove_found (opens : disk.Opens directory location) (isName : IsName name)
    (found : disk.hasFile (directory.join name) = true)
    (gone : disk.removeFile (directory.join name) = .ok after) :
    after = disk.erase (location ++ [name]) ∧ after.Opens directory location := by
  have within := Disk.removeFile_waysIn found gone
  obtain ⟨_, _, _, rfl⟩ := (opens.removeFile_join isName).mp gone
  exact ⟨rfl, opens.mono within⟩

/-- The names removed are those of the stale files that can be named, each once. -/
theorem sweep_removed (opens : disk.Opens directory location)
    (isNames : ∀ name ∈ names, IsName name) (direct : Direct files extension disk location)
    (completed : Completes (sweep directory files extension (names.map textItem)) disk removed after) :
    removed.Nodup ∧ ∀ name, name ∈ removed ↔ name ∈ names ∧
      Swept directory files extension name ∧ (disk.content? (location ++ [name])).isSome = true := by
  induction names generalizing disk removed with
  | nil =>
      obtain ⟨rfl, rfl⟩ := completes_pure_iff.mp completed
      simp
  | cons name rest ih =>
      obtain ⟨isName, later⟩ := List.forall_mem_cons.mp isNames
      rcases completes_sweep_cons_iff.mp completed with
        ⟨stale, found, middle, others, gone, swept, rfl⟩ | ⟨stays, swept⟩
      · obtain ⟨fits, held⟩ := (opens.hasFile_join isName (direct.stale name stale)).mp found
        obtain ⟨rfl, opensLater⟩ := remove_found opens isName found gone
        obtain ⟨once, members⟩ := ih opensLater later (direct.mono Disk.fewerLinks_erase) swept
        simp only [Disk.content?_erase _ _ _ (Disk.append_name_ne_nil location name),
          Disk.append_name_inj] at members
        -- the file is gone, so its name cannot come again
        have absent : name ∉ others := by
          rw [members]
          simp
        refine ⟨List.nodup_cons.mpr ⟨absent, once⟩, fun other => ?_⟩
        rw [List.mem_cons, List.mem_cons, members]
        by_cases same : other = name
        · subst same
          simp [Swept, stale, fits, held]
        · simp [same]
      · obtain ⟨once, members⟩ := ih opens later direct swept
        refine ⟨once, fun other => ?_⟩
        rw [List.mem_cons, members]
        by_cases same : other = name
        · subst same
          have skipped : ¬(Swept directory files extension other ∧
              (disk.content? (location ++ [other])).isSome = true) := by
            rintro ⟨⟨stale, fits⟩, held⟩
            have found := (opens.hasFile_join isName (direct.stale other stale)).mpr ⟨fits, held⟩
            exact stays ⟨stale, found⟩
          simp [skipped]
        · simp [same]

theorem sweep_stale (completed :
      Completes (sweep directory files extension (names.map textItem)) disk removed after)
    (member : name ∈ removed) : isStaleName files extension name = true := by
  induction names generalizing disk removed with
  | nil =>
      obtain ⟨rfl, rfl⟩ := completes_pure_iff.mp completed
      cases member
  | cons first rest ih =>
      rcases completes_sweep_cons_iff.mp completed with
        ⟨stale, _, _, others, _, swept, rfl⟩ | ⟨_, swept⟩
      · rcases List.mem_cons.mp member with rfl | later
        · exact stale
        · exact ih swept later
      · exact ih swept member

theorem sweep_entries (opens : disk.Opens directory location)
    (isNames : ∀ name ∈ names, IsName name)
    (completed : Completes (sweep directory files extension (names.map textItem)) disk removed after)
    (place : Location) :
    after.entry? place =
      if ∃ name ∈ removed, place = location ++ [name] then none else disk.entry? place := by
  induction names generalizing disk removed with
  | nil =>
      obtain ⟨rfl, rfl⟩ := completes_pure_iff.mp completed
      simp
  | cons name rest ih =>
      obtain ⟨isName, later⟩ := List.forall_mem_cons.mp isNames
      rcases completes_sweep_cons_iff.mp completed with
        ⟨_, found, middle, others, gone, swept, rfl⟩ | ⟨_, swept⟩
      · obtain ⟨rfl, opensLater⟩ := remove_found opens isName found gone
        rw [ih opensLater later swept, Disk.entry?_erase]
        by_cases here : place = location ++ [name]
        · simp [here]
        · simp [here]
      · exact ih opens later swept

theorem sweep_contents {items : List (Except FileError EntryName)}
    (completed : Completes (sweep directory files extension items) disk removed after) :
    after.contents = disk.contents := by
  refine sweep_maintains ?_ rfl completed
  intro name middle later unchanged _ gone
  obtain ⟨_, _, rfl⟩ := Disk.removeFile_erases gone
  exact unchanged

theorem sweep_content? (opens : disk.Opens directory location)
    (isNames : ∀ name ∈ names, IsName name)
    (completed : Completes (sweep directory files extension (names.map textItem)) disk removed after)
    (place : Location) :
    after.content? place =
      if ∃ name ∈ removed, place = location ++ [name] then none else disk.content? place := by
  rw [Disk.content?, sweep_entries opens isNames completed, sweep_contents completed]
  by_cases gone : ∃ name ∈ removed, place = location ++ [name]
  · rw [if_pos gone, if_pos gone]
  · rw [if_neg gone, if_neg gone]
    rfl

/-- No file is left that a sweep of the whole directory is to remove. -/
theorem content?_of_swept (opens : disk.Opens directory location)
    (isNames : ∀ name ∈ disk.children location, IsName name)
    (direct : Direct files extension disk location)
    (completed : Completes (sweep directory files extension ((disk.children location).map textItem))
      disk removed after)
    (isSwept : Swept directory files extension name) :
    after.content? (location ++ [name]) = none := by
  obtain ⟨_, members⟩ := sweep_removed opens isNames direct completed
  rw [sweep_content? opens isNames completed]
  simp only [Disk.append_name_inj, exists_eq_right', members]
  rw [ite_eq_left_iff]
  intro unlisted
  -- a file that is not listed is not there
  by_contra held
  have present := Option.isSome_iff_ne_none.mpr held
  have there := (Disk.content?_isSome_iff.mp present).1
  exact unlisted ⟨Disk.mem_children_of_entry? there, isSwept, present⟩

theorem sweep_children {items : List (Except FileError EntryName)}
    (completed : Completes (sweep directory files extension items) disk removed after)
    (place : Location) : after.children place ⊆ disk.children place := by
  refine sweep_maintains ?_ (List.Subset.refl _) completed
  intro name middle later within _ gone
  obtain ⟨_, _, rfl⟩ := Disk.removeFile_erases gone
  exact List.Subset.trans (Disk.children_erase_subset _ _ _) within

end Removing

/-! ### Writing -/

theorem equal_bytes_iff {left right : ByteArray} : (left == right) = true ↔ left = right := by
  rw [ByteArray.ext_iff]
  exact beq_iff_eq (a := left.data)

theorem holds_eq {path : Path} {content : ByteArray} {answer : Bool}
    (asked : holds (m := DiskM) path content disk = (answer, after)) :
    after = disk ∧ (answer = true ↔ disk.readFile path = .ok content) := by
  have read : FileSystem.read (m := DiskM) path disk = (disk.readFile path, disk) := rfl
  rw [holds, bind_apply, read] at asked
  cases read : disk.readFile path with
  | error error =>
      rw [read] at asked
      cases asked
      simp
  | ok existing =>
      rw [read] at asked
      cases asked
      simp [equal_bytes_iff]

/-- What becomes of the first file, and of the others after it. -/
theorem completes_writeFiles_cons_iff {file : GlueFile} {rest : List GlueFile}
    {names : List String × List String} :
    Completes (writeFiles directory (file :: rest)) disk names after ↔
      (disk.readFile (directory.join file.name) = .ok file.content.toUTF8 ∧
        ∃ others, Completes (writeFiles directory rest) disk others after ∧
          names = (others.1, file.name :: others.2)) ∨
      (disk.readFile (directory.join file.name) ≠ .ok file.content.toUTF8 ∧
        ∃ middle others,
          disk.writeFile (directory.join file.name) file.content.toUTF8 = .ok middle ∧
          Completes (writeFiles directory rest) middle others after ∧
          names = (file.name :: others.1, others.2)) := by
  rw [writeFiles, completes_bind_iff]
  constructor
  · rintro ⟨answer, _, asked, ran⟩
    obtain ⟨rfl, same⟩ := holds_eq (completes_lift_iff.mp asked)
    split at ran
    · next held =>
      obtain ⟨others, _, wrote, ran⟩ := completes_bind_iff.mp ran
      obtain ⟨rfl, rfl⟩ := completes_pure_iff.mp ran
      exact Or.inl ⟨same.mp held, others, wrote, rfl⟩
    · next differs =>
      obtain ⟨_, middle, put, ran⟩ := completes_bind_iff.mp ran
      obtain ⟨others, _, wrote, ran⟩ := completes_bind_iff.mp ran
      obtain ⟨rfl, rfl⟩ := completes_pure_iff.mp ran
      exact Or.inr ⟨same.not.mp differs, middle, others,
        DiskM.change_iff.mp (completes_onPath_iff.mp put), wrote, rfl⟩
  · intro either
    cases asked : holds (m := DiskM) (directory.join file.name) file.content.toUTF8 disk with
    | mk answer middle =>
        obtain ⟨rfl, same⟩ := holds_eq asked
        refine ⟨answer, middle, completes_lift_iff.mpr asked, ?_⟩
        rcases either with ⟨held, others, wrote, rfl⟩ | ⟨differs, written, others, put, wrote, rfl⟩
        · rw [if_pos (same.mpr held)]
          exact wrote.bind (completes_pure_iff.mpr ⟨rfl, rfl⟩)
        · rw [if_neg (same.not.mpr differs)]
          exact (completes_onPath_iff.mpr (DiskM.change_iff.mpr put)).bind
            (wrote.bind (completes_pure_iff.mpr ⟨rfl, rfl⟩))

section Writing

variable {names : List String × List String}

theorem writeFiles_sameDirectories
    (completed : Completes (writeFiles directory files) disk names after) :
    Disk.SameDirectories disk after := by
  refine writeFiles_maintains ?_ (.refl disk) completed
  intro file _ part middle later same put
  exact same.trans (Disk.writeFile_sameDirectories put)

theorem writeFiles_sameLinks
    (completed : Completes (writeFiles directory files) disk names after) :
    Disk.SameLinks disk after := by
  refine writeFiles_maintains ?_ (.refl disk) completed
  intro file _ part middle later same put
  exact same.trans (Disk.writeFile_sameLinks put)

theorem writeFiles_fewerLinks
    (completed : Completes (writeFiles directory files) disk names after) :
    Disk.FewerLinks disk after := by
  refine writeFiles_maintains ?_ (.refl disk) completed
  intro file _ part middle later fewer put
  exact fewer.trans (Disk.writeFile_fewerLinks put)

/-- A file that is written keeps the way to its directory. -/
theorem write_generated {name : String} {content : ByteArray}
    (opens : disk.Opens directory location) (isName : IsName name)
    (notLink : ¬disk.IsLink (location ++ [name]))
    (put : disk.writeFile (directory.join name) content = .ok after) :
    Disk.Fits directory name ∧ disk.isDirectoryAt (location ++ [name]) = false ∧
      after = disk.fill (location ++ [name]) content ∧ after.Opens directory location := by
  obtain ⟨place, resolved, takes, rfl⟩ := (opens.writeFile_join isName).mp put
  obtain ⟨fits, rfl⟩ := (opens.resolve_join_iff isName notLink).mp resolved
  exact ⟨fits, (Disk.takesFile_iff.mp takes).1, rfl,
    opens.mono (Disk.sameLinks_fill takes).waysIn⟩

/-- Only names of the files come into directories. -/
theorem writeFiles_children (opens : disk.Opens directory location)
    (isNames : ∀ file ∈ files, IsName file.name)
    (separate : disk.Separate location (files.map (·.name)))
    (completed : Completes (writeFiles directory files) disk names after)
    {place : Location} {name : String} (member : name ∈ after.children place) :
    name ∈ disk.children place ∨ IsName name := by
  let named (other : Disk) : Prop := other.Opens directory location ∧
    Disk.FewerLinks disk other ∧
    ∀ name ∈ other.children place, name ∈ disk.children place ∨ IsName name
  have kept : named after := by
    refine writeFiles_maintains ?_ ⟨opens, .refl disk, fun _ => Or.inl⟩ completed
    rintro file listed part middle later ⟨opensHere, fewer, among⟩ put
    have isName := isNames file listed
    have notLink := fewer.not_isLink (separate.notLink file.name (List.mem_map_of_mem listed))
    obtain ⟨_, _, rfl, opensLater⟩ := write_generated opensHere isName notLink put
    refine ⟨opensLater, fewer.trans Disk.fewerLinks_fill, fun other member => ?_⟩
    rcases Disk.mem_children_fill member with rfl | before
    · exact Or.inr isName
    · exact among other before
  exact kept.2.2 name member

/-- Every file has its content afterwards, and a place that is none of them keeps its own. -/
theorem writeFiles_leaves (opens : disk.Opens directory location)
    (isNames : ∀ file ∈ files, IsName file.name) (distinct : (files.map (·.name)).Nodup)
    (separate : disk.Separate location (files.map (·.name)))
    (completed : Completes (writeFiles directory files) disk names after) :
    (∀ file ∈ files, Disk.Fits directory file.name ∧
      after.content? (location ++ [file.name]) = some file.content.toUTF8) ∧
    ∀ place, (∀ file ∈ files, ¬disk.SameFile (location ++ [file.name]) place) →
      after.content? place = disk.content? place := by
  induction files generalizing disk names with
  | nil =>
      obtain ⟨rfl, rfl⟩ := completes_pure_iff.mp completed
      exact ⟨nofun, fun _ _ => rfl⟩
  | cons file rest ih =>
      obtain ⟨isName, later⟩ := List.forall_mem_cons.mp isNames
      obtain ⟨absent, distinct⟩ := List.nodup_cons.mp distinct
      have notLink := separate.notLink file.name List.mem_cons_self
      -- either way the file has its content before the rest is written, and no other has changed
      have whole : Disk.Fits directory file.name ∧ ∃ written others,
          written.Opens directory location ∧ Disk.FewerLinks disk written ∧
          written.content? (location ++ [file.name]) = some file.content.toUTF8 ∧
          (∀ place, ¬disk.SameFile (location ++ [file.name]) place →
            written.content? place = disk.content? place) ∧
          Completes (writeFiles directory rest) written others after := by
        rcases completes_writeFiles_cons_iff.mp completed with
          ⟨held, others, wrote, rfl⟩ | ⟨_, middle, others, put, wrote, rfl⟩
        · obtain ⟨fits, same⟩ := (opens.readFile_join isName notLink).mp held
          exact ⟨fits, disk, others, opens, .refl disk, same, fun _ _ => rfl, wrote⟩
        · obtain ⟨fits, _, rfl, opensLater⟩ := write_generated opens isName notLink put
          exact ⟨fits, _, others, opensLater, Disk.fewerLinks_fill,
            Disk.content?_fill_of_sameFile (Disk.append_name_ne_nil _ _) (Or.inl rfl),
            fun _ => Disk.content?_fill_of_not_sameFile, wrote⟩
      obtain ⟨fits, written, others, opensLater, fewer, held, unchanged, wrote⟩ := whole
      obtain ⟨allHeld, kept⟩ :=
        ih opensLater later distinct (fewer.separate separate.tail) wrote
      have keeps : ∀ place, (∀ other ∈ rest, ¬disk.SameFile (location ++ [other.name]) place) →
          after.content? place = written.content? place := fun place apart =>
        kept place fun other member same => apart other member (fewer.sameFile same)
      constructor
      · refine List.forall_mem_cons.mpr ⟨⟨fits, ?_⟩, allHeld⟩
        rw [keeps _ fun other member same => ?_, held]
        -- a later file of this name would be the same
        have named : other.name ∈ rest.map (·.name) := List.mem_map_of_mem member
        have equal := separate.apart _ (List.mem_cons_of_mem _ named) _ List.mem_cons_self same
        exact absent (equal ▸ named)
      · intro place apart
        obtain ⟨here, others⟩ := List.forall_mem_cons.mp apart
        rw [keeps place others, unchanged place here]

end Writing

/-! ### Both -/

theorem isPlain_of_firstInvalid? (valid : firstInvalid? files = none) :
    ∀ file ∈ files, FileName.isPlain file.name = true := by
  intro file member
  simpa using List.find?_eq_none.mp valid _ (List.mem_map_of_mem member)

theorem entries_iff {items : List (Except FileError EntryName)} :
    FileSystem.entries (m := DiskM) directory disk = (.ok items, after) ↔
      ∃ location, disk.Opens directory location ∧
        items = (disk.children location).map textItem ++
          (disk.rawChildren location).map (fun name => .ok (.raw name)) ∧ after = disk := by
  have shape (location : Location) :
      ((disk.children location).map EntryName.text ++
          (disk.rawChildren location).map EntryName.raw).map (Except.ok (ε := FileError)) =
        (disk.children location).map textItem ++
          (disk.rawChildren location).map fun name => .ok (.raw name) := by
    rw [List.map_append, List.map_map, List.map_map]
    rfl
  change ((disk.listDirectory directory).map _, disk) = _ ↔ _
  rw [Prod.mk.injEq]
  constructor
  · rintro ⟨listed, rfl⟩
    cases found : disk.listDirectory directory with
    | error error =>
        rw [found] at listed
        cases listed
    | ok names =>
        rw [found] at listed
        cases listed
        obtain ⟨location, opens, rfl⟩ := Disk.listDirectory_iff.mp found
        exact ⟨location, opens, shape location, rfl⟩
  · rintro ⟨location, opens, rfl, rfl⟩
    rw [Disk.listDirectory_iff.mpr ⟨location, opens, rfl⟩]
    exact ⟨congrArg Except.ok (shape location), rfl⟩

/-- The stages of a reconciliation that completes: the directory is found or made, what it lists
is swept, and the files are written. -/
structure Stages (directory : Path) (files : List GlueFile) (extension : String) (disk : Disk)
    (report : Reconciled) (after : Disk) where
  made : Disk
  location : Location
  removed : List String
  swept : Disk
  valid : firstInvalid? files = none
  created : FileSystem.createDirectories (m := DiskM) directory disk = (.ok (), made)
  opens : made.Opens directory location
  sweeps : Completes (sweep directory files extension ((made.children location).map textItem)) made
    removed swept
  writes : Completes (writeFiles directory files) swept (report.written, report.unchanged) after
  sorted : report.removed = removed.mergeSort

theorem completes_reconcile_iff {report : Reconciled} :
    Completes (reconcile directory files extension) disk report after ↔
      Nonempty (Stages directory files extension disk report after) := by
  unfold reconcile
  split
  · next found =>
    refine iff_of_false not_completes_throw ?_
    rintro ⟨stages⟩
    rw [stages.valid] at found
    cases found
  · next valid =>
    simp only [completes_bind_iff, completes_onPath_iff, completes_pure_iff, entries_iff]
    constructor
    · rintro ⟨_, _, created, _, made, ⟨location, opens, rfl, rfl⟩, removed, swept, sweeps,
        _, _, writes, rfl, rfl⟩
      rw [sweep_append_raw] at sweeps
      exact ⟨⟨made, location, removed, swept, valid, created, opens, sweeps, writes, rfl⟩⟩
    · rintro ⟨made, location, removed, swept, _, created, opens, sweeps, writes, sorted⟩
      rw [← sweep_append_raw _ (made.rawChildren location)] at sweeps
      refine ⟨(), made, created, _, made, ⟨location, opens, rfl, rfl⟩, removed, swept, sweeps,
        _, after, writes, ?_, rfl⟩
      rw [← sorted]

namespace Stages

variable {report : Reconciled} (stages : Stages directory files extension disk report after)

include stages

theorem plain : ∀ file ∈ files, FileName.isPlain file.name = true :=
  isPlain_of_firstInvalid? stages.valid

theorem isNames : ∀ file ∈ files, IsName file.name :=
  fun file member => .of_isPlain (stages.plain file member)

theorem mem_removed {name : String} : name ∈ report.removed ↔ name ∈ stages.removed := by
  rw [stages.sorted, List.mem_mergeSort]

theorem ungenerated {name : String} (gone : name ∈ stages.removed) : name ∉ files.map (·.name) :=
  (isStaleName_iff.mp (sweep_stale stages.sweeps gone)).2

theorem adds : disk.AddsDirectories stages.made := by
  have adds := Disk.adds_createDirectories directory disk
  rw [stages.created] at adds
  exact adds

/-- If the directory was open before, it is the one that was worked on. -/
theorem unique (other : Location) (before : disk.Opens directory other) :
    other = stages.location :=
  stages.opens.unique (before.mono stages.adds.sameLinks.waysIn)

theorem opensSwept : stages.swept.Opens directory stages.location :=
  stages.opens.mono (sweep_waysIn stages.sweeps)

theorem opensAfter : after.Opens directory stages.location :=
  stages.opensSwept.mono (writeFiles_sameLinks stages.writes).waysIn

theorem fewerSwept : Disk.FewerLinks disk stages.swept :=
  stages.adds.fewerLinks.trans (sweep_fewerLinks stages.sweeps)

theorem fewerAfter : Disk.FewerLinks disk after :=
  stages.fewerSwept.trans (writeFiles_fewerLinks stages.writes)

theorem separate (direct : Direct files extension disk stages.location) :
    stages.swept.Separate stages.location (files.map (·.name)) :=
  (direct.mono stages.fewerSwept).generated

theorem listed {place : Location} (isNames : ∀ name ∈ disk.children place, IsName name) :
    ∀ name ∈ stages.made.children place, IsName name :=
  fun name member => (stages.adds.names place name member).elim (isNames name) id

theorem named (direct : Direct files extension disk stages.location) {place : Location}
    (isNames : ∀ name ∈ disk.children place, IsName name) :
    ∀ name ∈ after.children place, IsName name := by
  intro name member
  rcases writeFiles_children stages.opensSwept stages.isNames (stages.separate direct)
      stages.writes member with before | isName
  · exact stages.listed isNames name (sweep_children stages.sweeps place before)
  · exact isName

/-- What is not removed is what it was when the files are written. -/
theorem content?_swept (isNames : ∀ name ∈ disk.children stages.location, IsName name)
    {place : Location} (stays : ∀ name ∈ stages.removed, place ≠ stages.location ++ [name]) :
    stages.swept.content? place = disk.content? place := by
  have kept : ¬∃ name ∈ stages.removed, place = stages.location ++ [name] := by
    rintro ⟨name, gone, here⟩
    exact stays name gone here
  rw [sweep_content? stages.opens (stages.listed isNames) stages.sweeps, if_neg kept,
    stages.adds.content?_eq]

end Stages

/-- What the names of the directory hold after a reconciliation. -/
structure Leaves (directory : Path) (location : Location) (files : List GlueFile)
    (extension : String) (disk after : Disk) : Prop where
  names : ∀ name ∈ after.children location, IsName name
  generated : ∀ file ∈ files, Disk.Fits directory file.name ∧
    after.content? (location ++ [file.name]) = some file.content.toUTF8
  swept : ∀ name, Swept directory files extension name →
    after.content? (location ++ [name]) = none
  kept : ∀ name, ¬Swept directory files extension name →
    (∀ file ∈ files, ¬disk.SameFile (location ++ [file.name]) (location ++ [name])) →
      after.content? (location ++ [name]) = disk.content? (location ++ [name])

/-- A reconciliation that completes has worked on the directory if it was open before. -/
theorem reconcile_leaves {report : Reconciled} (distinct : (files.map (·.name)).Nodup)
    (completed : Completes (reconcile directory files extension) disk report after) :
    (∀ file ∈ files, FileName.isPlain file.name = true) ∧
      ∃ location, (∀ other, disk.Opens directory other → other = location) ∧
        after.Opens directory location ∧ Disk.FewerLinks disk after ∧
        ((∀ name ∈ disk.children location, IsName name) →
          Direct files extension disk location →
            Leaves directory location files extension disk after) := by
  obtain ⟨stages⟩ := completes_reconcile_iff.mp completed
  refine ⟨stages.plain, stages.location, stages.unique, stages.opensAfter, stages.fewerAfter,
    fun isNames direct => ?_⟩
  have directMade := direct.mono stages.adds.fewerLinks
  have stillNames := stages.listed isNames
  obtain ⟨held, kept⟩ := writeFiles_leaves stages.opensSwept stages.isNames distinct
    (stages.separate direct) stages.writes
  obtain ⟨_, members⟩ := sweep_removed stages.opens stillNames directMade stages.sweeps
  constructor
  case names => exact stages.named direct isNames
  case generated => exact held
  case swept =>
    intro name isSwept
    have gone := content?_of_swept stages.opens stillNames directMade stages.sweeps isSwept
    rw [kept, gone]
    rintro file member (here | ⟨number, _, there⟩)
    · -- a name that is stale is not generated
      cases Disk.append_name_inj.mp here
      exact (isStaleName_iff.mp isSwept.1).2 (List.mem_map_of_mem member)
    · rw [Disk.content?, there] at gone
      cases gone
  case kept =>
    intro name unswept apart
    rw [kept _ fun file member same => apart file member (stages.fewerSwept.sameFile same),
      stages.content?_swept isNames]
    intro other gone here
    cases Disk.append_name_inj.mp here
    exact unswept ((members name).mp gone).2.1

def contentIn? (files : List GlueFile) (name : String) : Option ByteArray :=
  (files.find? (·.name = name)).map (·.content.toUTF8)

theorem contentIn?_eq_none_iff {name : String} :
    contentIn? files name = none ↔ name ∉ files.map (·.name) := by
  simp [contentIn?]

theorem contentIn?_of_mem (distinct : (files.map (·.name)).Nodup) {file : GlueFile}
    (member : file ∈ files) : contentIn? files file.name = some file.content.toUTF8 := by
  induction files with
  | nil => cases member
  | cons first rest ih =>
      obtain ⟨absent, distinct⟩ := List.nodup_cons.mp distinct
      rcases List.mem_cons.mp member with rfl | later
      · simp [contentIn?]
      · have apart : first.name ≠ file.name := by
          intro same
          exact absent (List.mem_map.mpr ⟨file, later, same.symm⟩)
        simpa [contentIn?, apart] using ih distinct later

theorem direct_of_unlinked (unlinked : ∀ name, disk.Unlinked (location ++ [name])) :
    Direct files extension disk location where
  generated := Disk.separate_of_unlinked fun name _ => unlinked name
  stale name _ := (unlinked name).notLink

/-- In a directory whose names all lead nowhere else, the regular files are told by those
before: the generated ones come, and the stale ones that can be named go. -/
theorem reconcile_files {report : Reconciled} (distinct : (files.map (·.name)).Nodup)
    (completed : Completes (reconcile directory files extension) disk report after) :
    (∀ file ∈ files, FileName.isPlain file.name = true) ∧
      ∃ location, (∀ other, disk.Opens directory other → other = location) ∧
        after.Opens directory location ∧
        ((∀ name ∈ disk.children location, IsName name) →
          (∀ name, disk.Unlinked (location ++ [name])) →
          (∀ name ∈ after.children location, IsName name) ∧
          (∀ name, after.Unlinked (location ++ [name])) ∧
          (∀ file ∈ files, Disk.Fits directory file.name) ∧
          ∀ name, after.file? location name = (contentIn? files name).or
            (if Swept directory files extension name then none else disk.file? location name)) := by
  obtain ⟨plain, location, unique, opens, fewer, leaves⟩ := reconcile_leaves distinct completed
  refine ⟨plain, location, unique, opens, fun isNames unlinked => ?_⟩
  have left := leaves isNames (direct_of_unlinked unlinked)
  have unlinkedAfter (name : String) := fewer.unlinked (unlinked name)
  refine ⟨left.names, unlinkedAfter, fun file member => (left.generated file member).1,
    fun name => ?_⟩
  rw [← Disk.content?_eq_file? (unlinkedAfter name), ← Disk.content?_eq_file? (unlinked name)]
  by_cases generated : name ∈ files.map (·.name)
  · obtain ⟨file, member, rfl⟩ := List.mem_map.mp generated
    rw [contentIn?_of_mem distinct member, (left.generated file member).2, Option.some_or]
  · rw [contentIn?_eq_none_iff.mpr generated, Option.none_or]
    split
    · next isSwept => exact left.swept name isSwept
    · next unswept =>
      refine left.kept name unswept fun file member same => ?_
      have here := Disk.append_name_inj.mp (Disk.sameFile_of_unlinked (unlinked file.name) same)
      exact generated (here ▸ List.mem_map_of_mem member)

/-! ### Completion -/

theorem sweep_completes (files : List GlueFile) (extension : String) {names : List String}
    (opens : disk.Opens directory location) (isNames : ∀ name ∈ names, IsName name) :
    ∃ removed after,
      Completes (sweep directory files extension (names.map textItem)) disk removed after := by
  induction names generalizing disk with
  | nil => exact ⟨[], disk, completes_pure_iff.mpr ⟨rfl, rfl⟩⟩
  | cons name rest ih =>
      obtain ⟨isName, later⟩ := List.forall_mem_cons.mp isNames
      simp only [List.map_cons, completes_sweep_cons_iff]
      by_cases goes : isStaleName files extension name = true ∧
          disk.hasFile (directory.join name) = true
      · have gone := opens.removeFile_of_hasFile isName goes.2
        have kept := opens.mono (Disk.removeFile_waysIn goes.2 gone)
        obtain ⟨others, after, swept⟩ := ih kept later
        exact ⟨_, after, Or.inl ⟨goes.1, goes.2, _, others, gone, swept, rfl⟩⟩
      · obtain ⟨removed, after, swept⟩ := ih opens later
        exact ⟨removed, after, Or.inr ⟨goes, swept⟩⟩

def Writable (directory : Path) (location : Location) (disk : Disk) (name : String) : Prop :=
  Disk.Fits directory name ∧ disk.takesFile (location ++ [name]) = true

instance (directory : Path) (location : Location) (disk : Disk) (name : String) :
    Decidable (Writable directory location disk name) :=
  inferInstanceAs (Decidable (_ ∧ _))

theorem Writable.mono {name : String} (writable : Writable directory location disk name)
    (same : Disk.SameDirectories disk after) (fewer : Disk.FewerLinks disk after) :
    Writable directory location after name := by
  obtain ⟨fits, takes⟩ := writable
  obtain ⟨notDirectory, notLink⟩ := Disk.takesFile_iff.mp takes
  refine ⟨fits, Disk.takesFile_iff.mpr ⟨?_, fewer.not_isLink notLink⟩⟩
  rwa [same.isDirectoryAt]

theorem writable_of_file? {name : String} (fits : Disk.Fits directory name)
    (present : (disk.file? location name).isSome = true) :
    Writable directory location disk name := by
  obtain ⟨content, held⟩ := Option.isSome_iff_exists.mp present
  refine ⟨fits, ?_⟩
  rw [Disk.takesFile, Disk.file?_eq_some_iff.mp held]
  rfl

theorem writeFiles_completes (opens : disk.Opens directory location)
    (isNames : ∀ file ∈ files, IsName file.name)
    (writable : ∀ file ∈ files, Writable directory location disk file.name) :
    ∃ names after, Completes (writeFiles directory files) disk names after := by
  induction files generalizing disk with
  | nil => exact ⟨([], []), disk, completes_pure_iff.mpr ⟨rfl, rfl⟩⟩
  | cons file rest ih =>
      obtain ⟨isName, later⟩ := List.forall_mem_cons.mp isNames
      obtain ⟨⟨fits, takes⟩, writableLater⟩ := List.forall_mem_cons.mp writable
      simp only [completes_writeFiles_cons_iff]
      by_cases held : disk.readFile (directory.join file.name) = .ok file.content.toUTF8
      · obtain ⟨others, after, wrote⟩ := ih opens later writableLater
        exact ⟨_, after, Or.inl ⟨held, others, wrote, rfl⟩⟩
      · have notLink := (Disk.takesFile_iff.mp takes).2
        have resolved := (opens.resolve_join_iff isName notLink).mpr ⟨fits, rfl⟩
        have put : disk.writeFile (directory.join file.name) file.content.toUTF8 = .ok _ :=
          (opens.writeFile_join isName).mpr ⟨_, resolved, takes, rfl⟩
        have same := Disk.writeFile_sameDirectories put
        obtain ⟨others, after, wrote⟩ := ih (opens.mono (Disk.writeFile_sameLinks put).waysIn) later
          fun other member => (writableLater other member).mono same Disk.fewerLinks_fill
        exact ⟨_, after, Or.inr ⟨held, _, others, put, wrote, rfl⟩⟩

theorem reconcile_completes (files : List GlueFile) (extension : String) {made : Disk}
    (valid : firstInvalid? files = none)
    (created : FileSystem.createDirectories (m := DiskM) directory disk = (.ok (), made))
    (opens : made.Opens directory location) (isNames : ∀ name ∈ made.children location, IsName name)
    (writable : ∀ name ∈ files.map (·.name), Writable directory location made name) :
    ∃ report after, Completes (reconcile directory files extension) disk report after := by
  have plain := isPlain_of_firstInvalid? valid
  obtain ⟨removed, middle, swept⟩ := sweep_completes files extension opens isNames
  obtain ⟨names, after, wrote⟩ := writeFiles_completes (opens.mono (sweep_waysIn swept))
    (fun file member => .of_isPlain (plain file member))
    fun file member => (writable file.name (List.mem_map_of_mem member)).mono
      (sweep_sameDirectories swept) (sweep_fewerLinks swept)
  exact ⟨⟨names.1, names.2, _⟩, after, completes_reconcile_iff.mpr
    ⟨⟨made, location, removed, middle, valid, created, opens, swept, wrote, rfl⟩⟩⟩

end Reconcile

end GuestGlue
