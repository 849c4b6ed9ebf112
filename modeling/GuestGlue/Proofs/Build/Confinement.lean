/-
Where a build changes the disk.  However it ends, and whatever fails on the way, it has made
directories on the way to the output directory, taken stale names out of it, and filled the
files that the paths of generated files lead to, if a write failed with the beginning of its
content.  A name that is a link is removed itself, but written to where it leads.  On a way
that goes back with two points a directory can be made that is itself inside the output
directory.
-/

import GuestGlue.Proofs.Build.HostNames
import GuestGlue.Proofs.Build.Outcome

namespace GuestGlue

namespace Reconcile

/-! ### Inside the directory -/

/-- What is reconciled with what. -/
structure Task where
  directory : Path
  files : List GlueFile
  extension : String

section Inside

variable {fills : ByteArray → ByteArray → Prop} {task : Task} {location place : Location}
variable {made current after : Disk} {name : String}

/-- The path of a generated file leads to the place, and `part` is as much of its content as
`fills` allows.  Unless its name is a link this is where the name stands in the directory. -/
inductive Lands (fills : ByteArray → ByteArray → Prop) (task : Task) (location : Location)
    (after : Disk) (place : Location) (part : ByteArray) : Prop
  | intro (file : GlueFile) : file ∈ task.files → FileName.isPlain file.name = true →
      fills part file.content.toUTF8 →
      after.resolve (task.directory.join file.name) = .ok place →
      (¬after.IsLink (location ++ [file.name]) → place = location ++ [file.name]) →
        Lands fills task location after place part

inductive Replaced (fills : ByteArray → ByteArray → Prop) (task : Task) (location : Location)
    (made after : Disk) : Location → Option Entry → Prop
  | removed {name : String} : isStaleName task.files task.extension name = true →
      made.hasFile (task.directory.join name) = true →
        Replaced fills task location made after (location ++ [name]) none
  | written {place : Location} {part : ByteArray} : Lands fills task location after place part →
      Replaced fills task location made after place (some (.file part))

/-- A file with several names has this content, by way of one of them. -/
inductive Refilled (fills : ByteArray → ByteArray → Prop) (task : Task) (location : Location)
    (after : Disk) (number : Nat) : Option ByteArray → Prop
  | written {place : Location} {part : ByteArray} : Lands fills task location after place part →
      after.entry? place = some (.shared number) →
        Refilled fills task location after number (some part)

structure Touches (fills : ByteArray → ByteArray → Prop) (task : Task) (location : Location)
    (made after : Disk) : Prop where
  directories : Disk.SameDirectories made after
  ways : Disk.WaysIn made after
  entries : ∀ place, after.entry? place = made.entry? place ∨
    Replaced fills task location made after place (after.entry? place)
  contents : ∀ number, after.contents.lookup number = made.contents.lookup number ∨
    Refilled fills task location after number (after.contents.lookup number)

/-- Some stale names are gone, and nothing else has changed. -/
structure Trimmed (task : Task) (location : Location) (made after : Disk) : Prop where
  directories : Disk.SameDirectories made after
  ways : Disk.WaysIn made after
  contents : after.contents = made.contents
  entries : ∀ place, after.entry? place = made.entry? place ∨ after.entry? place = none ∧
    ∃ name, place = location ++ [name] ∧ isStaleName task.files task.extension name = true ∧
      made.hasFile (task.directory.join name) = true

namespace Trimmed

theorem refl (task : Task) (location : Location) (made : Disk) : Trimmed task location made made :=
  ⟨.refl made, .refl made, rfl, fun _ => Or.inl rfl⟩

theorem remove (trimmed : Trimmed task location made current)
    (opens : made.Opens task.directory location) (isName : IsName name)
    (stale : isStaleName task.files task.extension name = true)
    (found : current.hasFile (task.directory.join name) = true)
    (gone : current.removeFile (task.directory.join name) = .ok after) :
    Trimmed task location made after := by
  have same := Disk.removeFile_sameDirectories gone
  have within := Disk.removeFile_waysIn found gone
  have before : made.hasFile (task.directory.join name) = true :=
    Disk.hasFile_of_removed trimmed.ways.workingDirectory
      (fun place => (trimmed.entries place).imp_right And.left) found
  obtain ⟨rfl, _⟩ := remove_found (opens.mono trimmed.ways) isName found gone
  refine ⟨trimmed.directories.trans same, trimmed.ways.trans within, trimmed.contents,
    fun other => ?_⟩
  rw [Disk.entry?_erase]
  split
  · next here => exact Or.inr ⟨rfl, name, here.2, stale, before⟩
  · exact trimmed.entries other

theorem touches (trimmed : Trimmed task location made after) :
    Touches fills task location made after := by
  refine ⟨trimmed.directories, trimmed.ways, fun other => ?_, fun number => ?_⟩
  · refine (trimmed.entries other).imp_right ?_
    rintro ⟨gone, name, rfl, stale, found⟩
    rw [gone]
    exact .removed stale found
  · exact Or.inl (congrArg _ trimmed.contents)

end Trimmed

theorem Lands.mono {part : ByteArray} (lands : Lands fills task location current place part)
    (same : Disk.SameLinks current after) : Lands fills task location after place part := by
  obtain ⟨file, member, plain, filled, resolved, child⟩ := lands
  refine ⟨file, member, plain, filled, same.resolve resolved, fun notLink => child ?_⟩
  rintro ⟨target, linked⟩
  exact notLink ⟨target, (same.link _ target).mpr linked⟩

theorem Replaced.mono {entry : Option Entry}
    (replaced : Replaced fills task location made current place entry)
    (same : Disk.SameLinks current after) :
    Replaced fills task location made after place entry := by
  cases replaced with
  | removed stale found => exact .removed stale found
  | written lands => exact .written (lands.mono same)

theorem Refilled.mono {number : Nat} {content : Option ByteArray}
    (refilled : Refilled fills task location current number content)
    (same : Disk.SameLinks current after)
    (shared : ∀ place, current.entry? place = some (.shared number) →
      after.entry? place = some (.shared number)) :
    Refilled fills task location after number content := by
  cases refilled with
  | written lands entry => exact .written (lands.mono same) (shared _ entry)

theorem Touches.write {file : GlueFile} {part : ByteArray}
    (touches : Touches fills task location made current)
    (opens : made.Opens task.directory location) (member : file ∈ task.files)
    (plain : FileName.isPlain file.name = true) (filled : fills part file.content.toUTF8)
    (written : current.writeFile (task.directory.join file.name) part = .ok after) :
    Touches fills task location made after := by
  have same := Disk.writeFile_sameDirectories written
  have links := Disk.writeFile_sameLinks written
  obtain ⟨place, resolved, _, rfl⟩ :=
    ((opens.mono touches.ways).writeFile_join (.of_isPlain plain)).mp written
  have child : ¬current.IsLink (location ++ [file.name]) → place = location ++ [file.name] := by
    intro notLink
    exact (((opens.mono touches.ways).resolve_join_iff (.of_isPlain plain) notLink).mp resolved).2
  have lands : Lands fills task location _ place part :=
    Lands.mono ⟨file, member, plain, filled, resolved, child⟩ links
  refine ⟨touches.directories.trans same, touches.ways.trans links.waysIn, fun other => ?_,
    fun number => ?_⟩
  · rcases Disk.entry?_fill current place other part with unchanged | ⟨rfl, _, here⟩
    · rw [unchanged]
      exact (touches.entries other).imp_right (·.mono links)
    · rw [here]
      exact Or.inr (.written lands)
  · rcases Disk.lookup_fill current place part number with unchanged | ⟨shared, here⟩
    · rw [unchanged]
      exact (touches.contents number).imp_right
        (·.mono links fun _ => Disk.entry?_fill_of_shared)
    · rw [here]
      exact Or.inr (.written lands (Disk.entry?_fill_of_shared shared))

end Inside

/-! ### Whole reconciliations -/

section Runs

variable {σ : Type} [FileSystem (StateM σ)] [DiskState σ] {task : Task} {location : Location}
variable {made : Disk}

theorem sweep_trimmed (opens : made.Opens task.directory location)
    {items : List (Except FileError EntryName)}
    (isNames : ∀ name, .ok (.text name) ∈ items → IsName name) :
    Keeps (fun state : σ => Trimmed task location made (DiskState.disk state))
      (sweep (m := StateM σ) task.directory task.files task.extension items) := by
  apply sweep_keeps
  intro name member stale current after trimmed found gone
  exact trimmed.remove opens (isNames name member) stale found gone

theorem writeFiles_touches (opens : made.Opens task.directory location)
    (plain : ∀ file ∈ task.files, FileName.isPlain file.name = true) :
    Keeps (fun state : σ => Touches Begins task location made (DiskState.disk state))
      (writeFiles (m := StateM σ) task.directory task.files) := by
  apply writeFiles_keeps
  intro file member part begins current after touches written
  exact touches.write opens member (plain file member) begins written

end Runs

/-- Without two points and links the way to the directory is the directory and what is around
it. -/
theorem around_of_passes {task : Task} {disk made : Disk} (adds : Disk.AddsDirectories disk made)
    (passes : ∀ place, made.entry? place = disk.entry? place ∨ made.Passes task.directory place)
    (noPoints : ".." ∉ Disk.components task.directory) (straight : made.Straight task.directory)
    (place : Location) :
    made.entry? place = disk.entry? place ∨ place <+: disk.destination task.directory := by
  rw [← Disk.destination_congr adds.workingDirectory]
  exact (passes place).imp_right fun passed => passed.prefix_destination straight noPoints

/-- Directories are made on the way to the directory, and then it is worked on. -/
structure Changes (fills : ByteArray → ByteArray → Prop) (task : Task) (disk made after : Disk) :
    Prop where
  adds : Disk.AddsDirectories disk made
  passes : ∀ place, made.entry? place = disk.entry? place ∨ made.Passes task.directory place
  around : ".." ∉ Disk.components task.directory → made.Straight task.directory →
    ∀ place, made.entry? place = disk.entry? place ∨ place <+: disk.destination task.directory
  inside : after = made ∨
    ∃ location, made.Opens task.directory location ∧ Touches fills task location made after

section Runs

variable {σ : Type} [FileSystem (StateM σ)] [DiskState σ] {task : Task} {state : σ}

/-- What is listed that is text are names of the directory. -/
theorem listed_names {directory : Path} {listed : σ} {items : List (Except FileError EntryName)}
    (wellNamed : (DiskState.disk state).WellNamed)
    (listing : (onPath directory (FileSystem.entries (m := StateM σ) directory)).run state =
      (.ok items, listed)) :
    DiskState.disk listed = DiskState.disk state ∧
      ∃ location, (DiskState.disk state).Opens directory location ∧
        ∀ name, .ok (.text name) ∈ items → IsName name := by
  have same := DiskState.entries directory state
  have found := DiskState.listed directory state items
  rw [run_onPath_ok_iff.mp listing] at same found
  obtain ⟨names, whole, among⟩ := found rfl
  obtain ⟨location, opens, rfl⟩ := Disk.listDirectory_iff.mp whole
  refine ⟨same, location, opens, fun name member => ?_⟩
  have child : name ∈ (DiskState.disk state).children location := by simpa using among _ member
  exact wellNamed location name child

theorem reconcile_changes (wellNamed : (DiskState.disk state).WellNamed) (task : Task) :
    ∃ made, Changes Begins task (DiskState.disk state) made (DiskState.disk
      ((reconcile (m := StateM σ) task.directory task.files task.extension).run state).2) := by
  unfold reconcile
  split
  · exact ⟨DiskState.disk state, .refl _, fun _ => Or.inl rfl, fun _ _ _ => Or.inl rfl, Or.inl rfl⟩
  · next valid =>
    let created := FileSystem.createDirectories (m := StateM σ) task.directory state
    let made := DiskState.disk created.2
    obtain ⟨adds, passes⟩ := Disk.makesWay_createDirectories task.directory state
    change Disk.AddsDirectories _ made at adds
    refine ⟨made, adds, passes, around_of_passes adds passes, ?_⟩
    let inside (state : σ) : Prop := DiskState.disk state = made ∨ ∃ location,
      made.Opens task.directory location ∧ Touches Begins task location made (DiskState.disk state)
    change inside _
    refine run_bind_snd ?_ fun _ middle making => ?_
    · rw [run_onPath_snd]
      exact Or.inl rfl
    · have madeNow : DiskState.disk middle = made := by
        have ran := run_onPath_ok_iff.mp making
        exact congrArg (DiskState.disk ∘ Prod.snd) ran.symm
      refine run_bind_snd ?_ fun items listed listing => ?_
      · rw [run_onPath_snd]
        exact Or.inl ((DiskState.entries task.directory middle).trans madeNow)
      · have madeNamed : (DiskState.disk middle).WellNamed := madeNow ▸ wellNamed.adds adds
        obtain ⟨unmoved, location, opens, isNames⟩ := listed_names madeNamed listing
        rw [madeNow] at unmoved opens
        have sweeps : Keeps (fun state : σ => Trimmed task location made (DiskState.disk state)) _ :=
          sweep_trimmed opens isNames
        have writes : Keeps (fun state : σ => Touches Begins task location made
            (DiskState.disk state)) _ := writeFiles_touches opens (isPlain_of_firstInvalid? valid)
        let touched (state : σ) : Prop := Touches Begins task location made (DiskState.disk state)
        have trimmed := sweeps listed (unmoved ▸ .refl task location made)
        refine Or.inr ⟨location, opens, ?_⟩
        change touched _
        refine run_bind_snd trimmed.touches fun removed swept sweeping => ?_
        rw [sweeping] at trimmed
        exact (writes.bind fun _ => .pure _) swept trimmed.touches

/-- A run that succeeds has written every file to its end. -/
theorem reconcile_whole (task : Task) {after : σ} {report : Reconciled}
    (wellNamed : (DiskState.disk state).WellNamed)
    (ran : (reconcile (m := StateM σ) task.directory task.files task.extension).run state =
      (.ok report, after)) :
    ∃ made, Changes Eq task (DiskState.disk state) made (DiskState.disk after) := by
  unfold reconcile at ran
  split at ran
  · cases ran
  · next valid =>
    obtain ⟨_, middle, making, ranMade⟩ := run_bind_ok_iff.mp ran
    obtain ⟨items, listed, listing, ranListed⟩ := run_bind_ok_iff.mp ranMade
    obtain ⟨removed, swept, sweeping, ranSwept⟩ := run_bind_ok_iff.mp ranListed
    obtain ⟨names, last, writing, ended⟩ := run_bind_ok_iff.mp ranSwept
    cases ended
    obtain ⟨adds, passes⟩ := Disk.makesWay_createDirectories task.directory state
    rw [run_onPath_ok_iff.mp making] at adds passes
    obtain ⟨unmoved, location, opens, isNames⟩ := listed_names (wellNamed.adds adds) listing
    have trimmed : Trimmed task location (DiskState.disk middle) (DiskState.disk swept) := by
      have sweeps := sweep_trimmed opens isNames listed (unmoved ▸ .refl task location _)
      rwa [sweeping] at sweeps
    refine ⟨DiskState.disk middle, adds, passes, around_of_passes adds passes,
      Or.inr ⟨location, opens, ?_⟩⟩
    refine writeFiles_whole ?_ writing trimmed.touches
    intro file member current after touches written
    exact touches.write opens member (isPlain_of_firstInvalid? valid file member) rfl written

end Runs

section Elsewhere

variable {fills : ByteArray → ByteArray → Prop} {task : Task} {disk made after : Disk}
variable {place : Location}

theorem Touches.isLink {location : Location} (touches : Touches fills task location made after)
    (linked : after.IsLink place) : made.IsLink place := by
  obtain ⟨target, entry⟩ := linked
  rcases touches.entries place with same | replaced
  · exact ⟨target, same ▸ entry⟩
  · rw [entry] at replaced
    cases replaced

/-- Where the path leads neither back nor through links, nothing changes but the directory,
those around it and what is directly inside, unless a generated name is a link. -/
theorem Changes.elsewhere (changes : Changes fills task disk made after)
    (noPoints : ".." ∉ Disk.components task.directory) (straight : made.Straight task.directory)
    (notLinks : ∀ file ∈ task.files,
      ¬made.IsLink (disk.destination task.directory ++ [file.name]))
    (apart : ¬place <+: disk.destination task.directory)
    (outside : ∀ name, place ≠ disk.destination task.directory ++ [name]) :
    after.entry? place = disk.entry? place := by
  have destination := Disk.destination_congr changes.adds.workingDirectory task.directory
  rw [← destination] at notLinks outside
  have unmade : made.entry? place = disk.entry? place :=
    (changes.around noPoints straight place).resolve_right apart
  rcases changes.inside with rfl | ⟨location, opens, touches⟩
  · exact unmade
  · cases opens.destination_eq straight noPoints
    have entries := touches.entries place
    generalize after.entry? place = entry at entries ⊢
    rcases entries with same | replaced
    · exact same.trans unmade
    · exfalso
      cases replaced with
      | removed _ _ => exact outside _ rfl
      | written lands =>
          obtain ⟨_, member, _, _, _, child⟩ := lands
          exact outside _ (child (mt touches.isLink (notLinks _ member)))

end Elsewhere

end Reconcile

/-! ### Builds -/

open Reconcile

section Builds

variable {request : BuildRequest} {machine : Machine}

abbrev BuildRequest.task (request : BuildRequest) (scanned : ScanResult) : Task :=
  ⟨request.outputDirectory, (request.glue scanned).files, request.config.options.extension⟩

/-- What a build changes, however it ends and whichever operations fail. -/
structure Confined (request : BuildRequest) (machine : Machine) : Prop where
  refused : ∀ error later,
    (scanModule (m := MachineM) request.modulePath request.config).run machine =
      (.error error, later) →
        ((build (m := MachineM) request).run machine).2.disk = machine.disk
  changes : ∀ scanned later,
    (scanModule (m := MachineM) request.modulePath request.config).run machine =
      (.ok scanned, later) →
        ∃ made, Changes Begins (request.task scanned) machine.disk made
          ((build (m := MachineM) request).run machine).2.disk
  whole : ∀ report after, (build (m := MachineM) request).run machine = (.ok report, after) →
    ∃ scanned later made,
      (scanModule (m := MachineM) request.modulePath request.config).run machine =
        (.ok scanned, later) ∧
      Changes Eq (request.task scanned) machine.disk made after.disk

/-- Neither the names of host modules nor the options take a build anywhere else. -/
theorem build_confined {machine : Machine} (wellNamed : machine.disk.WellNamed)
    (request : BuildRequest) : Confined request machine := by
  have reads := scanModule_readOnly request.modulePath request.config machine
  cases scans : (scanModule (m := MachineM) request.modulePath request.config).run machine with
  | mk outcome later =>
      rw [scans] at reads
      change DiskState.disk later = machine.disk at reads
      have wellNamedLater : (DiskState.disk later).WellNamed := by rwa [reads]
      cases outcome with
      | error error =>
          have ran := run_build_of_unscanned scans
          constructor
          case refused =>
            intro _ _ _
            rw [ran]
            exact reads
          case changes =>
            intro scanned other same
            cases scans.symm.trans same
          case whole =>
            intro report after completed
            cases ran.symm.trans completed
      | ok scanned =>
          have ran := run_build_of_scanned scans
          constructor
          case refused =>
            intro error other same
            cases scans.symm.trans same
          case changes =>
            intro other _ same
            cases scans.symm.trans same
            rw [ran, ← reads]
            exact reconcile_changes wellNamedLater (request.task scanned)
          case whole =>
            intro report after completed
            obtain ⟨reconciled, ranWhole⟩ := reconciled_of_run_build scans completed
            obtain ⟨made, changes⟩ := reconcile_whole (request.task scanned) wellNamedLater ranWhole
            exact ⟨scanned, later, made, scans, reads ▸ changes⟩

/-- On a disk without links, and if its path does not lead back, nothing is changed but the
output directory, those around it and what is directly inside. -/
theorem Confined.elsewhere (confined : Confined request machine)
    (noPoints : ".." ∉ Disk.components request.outputDirectory)
    (linkless : ∀ place, ¬machine.disk.IsLink place) {place : Location}
    (apart : ¬place <+: machine.disk.destination request.outputDirectory)
    (outside : ∀ name, place ≠ machine.disk.destination request.outputDirectory ++ [name]) :
    Disk.entry? ((build (m := MachineM) request).run machine).2.disk place =
      machine.disk.entry? place := by
  cases scans : (scanModule (m := MachineM) request.modulePath request.config).run machine with
  | mk outcome later =>
      cases outcome with
      | error error => rw [confined.refused error later scans]
      | ok scanned =>
          obtain ⟨made, changes⟩ := confined.changes scanned later scans
          have linklessMade (other : Location) : ¬made.IsLink other :=
            changes.adds.fewerLinks.not_isLink (linkless other)
          exact changes.elsewhere noPoints (Disk.straight_of_linkless linklessMade _)
            (fun _ _ => linklessMade _) apart outside

end Builds

/-- Host modules whose names are paths leave what is beside the output directory, also when
the disk is full after three bytes of the file that is generated. -/
theorem build_confined_paths :
    let full : Fault := ⟨.other "No space left on device (os error 28)", some 3⟩
    let machine : Machine :=
      ⟨Importing.disk ["../x", "a/b", ".."], [none, none, none, none, some full]⟩
    let request := Importing.request ⟨"out"⟩
    let after := ((build (m := MachineM) request).run machine).2.disk
    machine.disk.WellNamed ∧ Confined request machine ∧
      after.entry? ["work", "x.c"] = none ∧ after.entry? ["work", "out", "a", "b.c"] = none := by
  intro full machine request after
  have wellNamed : machine.disk.WellNamed := Importing.wellNamed _
  have confined := build_confined wellNamed request
  have noPoints : ".." ∉ Disk.components request.outputDirectory := by decide
  have plain : ∀ held ∈ machine.disk.entries, Disk.isPlainEntry held.2 = true :=
    List.forall_mem_cons.mpr ⟨rfl, by decide⟩
  have linkless (place : Location) : ¬machine.disk.IsLink place :=
    (Disk.unlinked_of_plain plain place).notLink
  have output : machine.disk.destination request.outputDirectory = ["work", "out"] := by
    decide +kernel
  refine ⟨wellNamed, confined, ?_, ?_⟩
  · exact confined.elsewhere noPoints linkless (output ▸ by decide) (output ▸ by simp)
  · exact confined.elsewhere noPoints linkless (output ▸ by decide) (output ▸ by simp)

/-! ### A way that goes back -/

/-- A file with all of its content, or one that was stale and is gone. -/
inductive ChildChanged (disk after : Disk) (location : Location) (files : List GlueFile)
    (extension : String) : Location → Prop
  | written {file : GlueFile} : file ∈ files →
      after.entry? (location ++ [file.name]) = some (.file file.content.toUTF8) →
        ChildChanged disk after location files extension (location ++ [file.name])
  | removed {name : String} : IsStaleFile disk location files extension name →
      after.entry? (location ++ [name]) = none →
        ChildChanged disk after location files extension (location ++ [name])

theorem ChildChanged.not_directory {disk after : Disk} {location place : Location}
    {files : List GlueFile} {extension : String}
    (changed : ChildChanged disk after location files extension place) :
    after.entry? place ≠ some .directory := by
  cases changed with
  | written _ entry => simp [entry]
  | removed _ entry => simp [entry]

namespace WayBack

def request : BuildRequest := Importing.request ⟨"out/x/.."⟩

def disk : Disk := Importing.disk []

def made : Disk := (disk.put ["work", "out"] .directory).put ["work", "out", "x"] .directory

theorem created :
    FileSystem.createDirectories (m := DiskM) request.outputDirectory disk = (.ok (), made) := by
  have first : FileSystem.createDirectories (m := DiskM) ⟨"out"⟩ disk = (.ok (), _) :=
    Disk.createDirectories_of_makeDirectory (by decide) rfl
  have second : FileSystem.createDirectories (m := DiskM) ⟨"out/x"⟩ disk = (.ok (), made) :=
    Disk.createDirectories_of_notFound (by decide) rfl rfl first
  exact Disk.createDirectories_of_notFound (by decide) rfl rfl second

theorem completes : ∃ report after, Completes (build request) disk report after ∧
    after.Opens request.outputDirectory ["work", "out"] ∧
    after.entry? ["work", "out", "x"] = some .directory := by
  let files := (request.glue (.ofModules [] (Importing.root []))).files
  have named : files.map (·.name) = ["env.c"] := by decide +kernel
  have valid : firstInvalid? files = none := by
    rw [firstInvalid?, named]
    decide
  have opens : made.Opens request.outputDirectory ["work", "out"] := ⟨rfl, rfl⟩
  have writable : ∀ name ∈ files.map (·.name),
      Writable request.outputDirectory ["work", "out"] made name := by
    rw [named]
    decide
  obtain ⟨report, after, completed⟩ := reconcile_completes files "c" valid created opens
    (by decide) writable
  obtain ⟨_, _, _, _, _, madeHere, _, swept, wrote, _⟩ := completes_reconcile_iff.mp completed
  cases created.symm.trans madeHere
  have within := (sweep_waysIn swept).trans (writeFiles_sameLinks wrote).waysIn
  have inside : after.isDirectoryAt ["work", "out", "x"] = true := within.directory _ rfl
  have built := completes_build_iff.mpr ⟨_, report, Importing.scans [] _, completed, rfl⟩
  exact ⟨_, after, built, opens.mono within, Disk.isDirectoryAt_iff.mp inside⟩

end WayBack

/-- A directory can be made inside the output directory, where no file is generated. -/
theorem build_makes_directory_inside :
    ¬∀ (request : BuildRequest) (disk after : Disk) (scanned : ScanResult)
        (location place : Location),
      disk.WellNamed → disk.scanned request.modulePath request.config = .ok scanned →
      ((build (m := DiskM) request).run disk).2 = after →
      after.Opens request.outputDirectory location →
      after.entry? place ≠ disk.entry? place →
        place <+: location ∨ ChildChanged disk after location (request.glue scanned).files
          request.config.options.extension place := by
  intro always
  obtain ⟨report, after, completed, opens, inside⟩ := WayBack.completes
  have absent : WayBack.disk.entry? ["work", "out", "x"] = none := rfl
  have changed : after.entry? ["work", "out", "x"] ≠ WayBack.disk.entry? ["work", "out", "x"] := by
    rw [inside, absent]
    exact Option.some_ne_none _
  have either := always _ _ after _ _ _ (Importing.wellNamed []) (Importing.scans [] _)
    (congrArg Prod.snd completed) opens changed
  rcases either with around | child
  · exact absurd around (by decide)
  · exact child.not_directory inside

end GuestGlue
