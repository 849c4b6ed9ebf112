/-
Builds that are refused.  What is read decides about a refusal before anything is
written: a module that the scan reaches cannot be read, or the reserved module's file or
the export file would have a name that is not plain.
-/

import GuestGlue.Proofs.Build.Scanning
import GuestGlue.Proofs.Glue.Layout
import GuestGlue.Proofs.Metadata.Scan

namespace GuestGlue

open Reconcile

/-! ### What can be wrong with a description -/

inductive FileFault (path : Path) : ReadError → Prop
  | unreadable (error : FileError) : FileFault path (.unreadable path error)
  | malformed (rejection : Json.Rejection) : FileFault path (.malformed path rejection)

inductive ReferenceFault (path : Path) (name : String) : ReadError → Prop
  | missing : ReferenceFault path name (.missing name path)
  | file {cause : ReadError} : FileFault path cause → ReferenceFault path name cause
  | misnamed {found : String} : found ≠ name → ReferenceFault path name (.misnamed path name found)

theorem readModuleFile_fault {disk : Disk} {path : Path} {cause : ReadError}
    (failed : onDisk disk (readModuleFile path) = .error cause) : FileFault path cause := by
  unfold readModuleFile at failed
  rw [onDisk_bind disk (ReadOnly.lift (readText_reads path)), onDisk_lift] at failed
  cases read : (FileSystem.readText (m := DiskM) path disk).1 with
  | error error =>
      rw [read] at failed
      cases failed
      exact .unreadable error
  | ok text =>
      rw [read] at failed
      simp only [Except.bind] at failed
      cases decoded : Module.ofJson text with
      | error rejection =>
          rw [decoded] at failed
          cases failed
          exact .malformed rejection
      | ok module =>
          rw [decoded] at failed
          cases failed

theorem readModule_fault {disk : Disk} {directory : Path} {name : String} {cause : ReadError}
    (failed : disk.readModule directory name = .error cause) :
    ReferenceFault (ModuleDirectory.modulePath ⟨directory⟩ name) name cause := by
  unfold Disk.readModule ModuleDirectory.read at failed
  rw [onDisk_bind disk (ReadOnly.lift fun _ => rfl), onDisk_lift] at failed
  dsimp only [Except.bind] at failed
  split at failed
  · cases failed
    exact .missing
  · rw [onDisk_bind disk (readModuleFile_readOnly _)] at failed
    cases described : onDisk disk (readModuleFile (ModuleDirectory.modulePath ⟨directory⟩ name)) with
    | error error =>
        rw [described] at failed
        cases failed
        exact .file (readModuleFile_fault described)
    | ok module =>
        rw [described] at failed
        dsimp only [Except.bind] at failed
        split at failed
        · cases failed
        · next apart =>
          cases failed
          exact .misnamed apart

theorem readModule_of_absent {disk : Disk} {directory : Path} {name : String}
    (absent : disk.hasFile (ModuleDirectory.modulePath ⟨directory⟩ name) = false) :
    disk.readModule directory name =
      .error (.missing name (ModuleDirectory.modulePath ⟨directory⟩ name)) := by
  have asked : (FileSystem.isFile (m := DiskM) (ModuleDirectory.modulePath ⟨directory⟩ name)
      disk).1 = false := absent
  unfold Disk.readModule ModuleDirectory.read
  rw [onDisk_bind disk (ReadOnly.lift fun _ => rfl), onDisk_lift, asked]
  rfl

/-! ### Errors of the file system -/

namespace Reconcile

variable {α β : Type}

/-- Whatever goes wrong in the program is an error of the file system. -/
def FileErrors (program : BuildM DiskM α) : Prop :=
  ∀ disk error, (program.run disk).1 = .error error → ∃ path cause, error = .file path cause

namespace FileErrors

theorem pure (value : α) : FileErrors (Pure.pure value) := by
  intro disk error failed
  cases failed

theorem throw (path : Path) (cause : FileError) :
    FileErrors (MonadExcept.throw (BuildError.file path cause) : BuildM DiskM α) := by
  intro disk error failed
  cases failed
  exact ⟨path, cause, rfl⟩

theorem lift (program : DiskM α) : FileErrors (liftM program) := by
  intro disk error failed
  cases failed

theorem onPath (path : Path) (operation : DiskM (Except FileError α)) :
    FileErrors (Reconcile.onPath path operation) := by
  intro disk error failed
  unfold Reconcile.onPath at failed
  change ((operation >>= _ : DiskM (Except BuildError α)) disk).1 = _ at failed
  rw [bind_apply] at failed
  cases ran : (operation disk).1 with
  | error cause =>
      rw [ran] at failed
      cases failed
      exact ⟨path, cause, rfl⟩
  | ok value =>
      rw [ran] at failed
      cases failed

theorem bind {program : BuildM DiskM α} {next : α → BuildM DiskM β} (first : FileErrors program)
    (second : ∀ value, FileErrors (next value)) : FileErrors (program >>= next) := by
  intro disk error failed
  cases ran : program.run disk with
  | mk outcome middle =>
      cases outcome with
      | error cause =>
          rw [run_bind_of_error ran] at failed
          cases failed
          exact first disk error (congrArg Prod.fst ran)
      | ok value =>
          rw [run_bind_of_ok ran] at failed
          exact second value middle error failed

end FileErrors

variable (directory : Path) (files : List GlueFile) (extension : String)

theorem sweep_fileErrors (items : List (Except FileError EntryName)) :
    FileErrors (sweep (m := DiskM) directory files extension items) := by
  induction items with
  | nil => exact .pure []
  | cons item rest ih =>
      match item with
      | .error error => exact .throw directory error
      | .ok (.raw name) => exact ih
      | .ok (.text name) =>
          rw [sweep]
          refine (FileErrors.lift _).bind fun present => ?_
          split
          · exact (FileErrors.onPath _ _).bind fun _ => ih.bind fun _ => .pure _
          · exact ih

theorem writeFiles_fileErrors : FileErrors (writeFiles (m := DiskM) directory files) := by
  induction files with
  | nil => exact .pure _
  | cons file rest ih =>
      rw [writeFiles]
      refine (FileErrors.lift _).bind fun held => ?_
      split
      · exact ih.bind fun _ => .pure _
      · exact (FileErrors.onPath _ _).bind fun _ => ih.bind fun _ => .pure _

variable {directory files extension}

/-- A name that is not plain is found before anything is done. -/
theorem run_reconcile_of_invalid {disk : Disk} {name : String}
    (invalid : firstInvalid? files = some name) :
    (reconcile (m := DiskM) directory files extension).run disk =
      (.error (.invalidFileName name), disk) := by
  unfold reconcile
  rw [invalid]
  rfl

theorem reconcile_fileErrors (valid : firstInvalid? files = none) :
    FileErrors (reconcile (m := DiskM) directory files extension) := by
  unfold reconcile
  rw [valid]
  refine (FileErrors.onPath _ _).bind fun _ => (FileErrors.onPath _ _).bind fun items => ?_
  refine (sweep_fileErrors directory files extension items).bind fun removed => ?_
  exact (writeFiles_fileErrors directory files).bind fun _ => .pure _

end Reconcile

/-! ### Generated names that are not plain -/

section Names

variable {options : Options} {boilerplate : String} {exports : List ExportBinding}
  {imports : List ImportBinding}

theorem isPlain_congr {name other : String} (same : FileName.Same name other) :
    FileName.isPlain name = FileName.isPlain other := by
  rw [← FileName.isPlain_folded name, ← FileName.isPlain_folded other, same]

/-- No host module but the reserved one gives a file a name that is not plain. -/
theorem unplain_generate_iff {name : String} :
    (name ∈ (Glue.generate options boilerplate exports imports).fileNames ∧
        FileName.isPlain name = false) ↔
      (name = options.reservedFileName ∨ exports ≠ [] ∧ name = options.exportsFileName ∧
        ¬FileName.Same options.exportsFileName options.reservedFileName) ∧
          FileName.isPlain name = false := by
  refine and_congr_left fun unplain => ?_
  rw [Glue.generate_fileNames, List.mem_append]
  constructor
  · rintro (imported | exported)
    · obtain ⟨hostModule, isFiled, rfl⟩ := List.mem_map.mp imported
      by_cases reserved : hostModule = options.reservedModule
      · exact Or.inl (congrArg options.fileName reserved)
      · have plain := (Glue.plain_of_mem_planImports_filed isFiled reserved).1
        rw [plain] at unplain
        cases unplain
    · split at exported
      · next free => exact Or.inr ⟨free.1, List.mem_singleton.mp exported, free.2⟩
      · cases exported
  · rintro (rfl | ⟨nonempty, rfl, free⟩)
    · exact Or.inl (List.mem_map_of_mem (Glue.planImports_reserved_mem options .runtime imports))
    · rw [if_pos ⟨nonempty, free⟩]
      exact Or.inr (List.mem_singleton_self _)

theorem named_of_firstInvalid? {name : String}
    (found : firstInvalid? (Glue.generate options boilerplate exports imports).files = some name) :
    name = options.reservedFileName ∨ name = options.exportsFileName := by
  have member : name ∈ (Glue.generate options boilerplate exports imports).fileNames :=
    List.mem_of_find?_eq_some found
  have unplain : FileName.isPlain name = false := by simpa using List.find?_some found
  rcases (unplain_generate_iff.mp ⟨member, unplain⟩).1 with reserved | ⟨_, exported, _⟩
  · exact Or.inl reserved
  · exact Or.inr exported

theorem firstInvalid?_isSome_iff :
    (firstInvalid? (Glue.generate options boilerplate exports imports).files).isSome = true ↔
      FileName.isPlain options.reservedFileName = false ∨
        exports ≠ [] ∧ FileName.isPlain options.exportsFileName = false := by
  have found : (firstInvalid? (Glue.generate options boilerplate exports imports).files).isSome = true ↔
      ∃ name, name ∈ (Glue.generate options boilerplate exports imports).fileNames ∧
        FileName.isPlain name = false := by
    rw [firstInvalid?, List.find?_isSome]
    simp [Glue.Output.fileNames]
  simp only [found, unplain_generate_iff]
  constructor
  · rintro ⟨name, rfl | ⟨nonempty, rfl, _⟩, unplain⟩
    · exact Or.inl unplain
    · exact Or.inr ⟨nonempty, unplain⟩
  · rintro (unplain | ⟨nonempty, unplain⟩)
    · exact ⟨_, Or.inl rfl, unplain⟩
    · -- an export file that has to give way to the reserved one is no more plain than that
      by_cases same : FileName.Same options.exportsFileName options.reservedFileName
      · exact ⟨_, Or.inl rfl, isPlain_congr same ▸ unplain⟩
      · exact ⟨_, Or.inr ⟨nonempty, rfl, same⟩, unplain⟩

end Names

/-! ### Refused builds -/

/-- A description that a build needs and cannot use, somewhere on the way of the scan. -/
inductive MetadataFault (disk : Disk) (modulePath : Path) (config : Config) : ReadError → Prop
  | root {cause : ReadError} :
      onDisk disk (readModuleFile modulePath) = .error cause → FileFault modulePath cause →
        MetadataFault disk modulePath config cause
  | reference {root : Module} {name : String} {cause : ReadError} :
      onDisk disk (readModuleFile modulePath) = .ok root →
      ReachableFrom config.references (disk.readModule (config.moduleDirectoryFor modulePath))
        root.name root.references name →
      disk.readModule (config.moduleDirectoryFor modulePath) name = .error cause →
      ReferenceFault (ModuleDirectory.modulePath ⟨config.moduleDirectoryFor modulePath⟩ name) name
        cause →
        MetadataFault disk modulePath config cause

section Scanned

variable {disk : Disk} {modulePath : Path} {config : Config}

theorem fault_of_scanned {cause : ReadError}
    (failed : disk.scanned modulePath config = .error cause) :
    MetadataFault disk modulePath config cause := by
  unfold Disk.scanned at failed
  cases read : onDisk disk (readModuleFile modulePath) with
  | error error =>
      rw [read] at failed
      cases failed
      exact .root read (readModuleFile_fault read)
  | ok root =>
      rw [read] at failed
      obtain ⟨name, reached, unread⟩ := scan_error failed
      exact .reference read reached unread (readModule_fault unread)

/-- The scan fails exactly if it needs a description that cannot be used. -/
theorem scanned_fails_iff :
    (∃ cause, disk.scanned modulePath config = .error cause) ↔
      ∃ cause, MetadataFault disk modulePath config cause := by
  constructor
  · intro ⟨cause, failed⟩
    exact ⟨cause, fault_of_scanned failed⟩
  · intro ⟨cause, fault⟩
    unfold Disk.scanned
    cases fault with
    | root read _ =>
        rw [read]
        exact ⟨cause, rfl⟩
    | reference read reached unread _ =>
        rw [read]
        exact scan_fails_iff.mpr ⟨_, cause, reached, unread⟩

end Scanned

section Runs

variable {disk : Disk} {request : BuildRequest}

theorem error_of_plain {scanned : ScanResult} {error : BuildError}
    (scans : disk.scanned request.modulePath request.config = .ok scanned)
    (valid : firstInvalid? (request.glue scanned).files = none)
    (failed : ((build (m := DiskM) request).run disk).1 = .error error) :
    ∃ path cause, error = .file path cause := by
  rw [run_build_of_ok scans] at failed
  cases ran : ((reconcile (m := DiskM) request.outputDirectory (request.glue scanned).files
      request.config.options.extension).run disk).1 with
  | error cause =>
      rw [ran] at failed
      cases failed
      exact reconcile_fileErrors valid disk _ ran
  | ok reconciled =>
      rw [ran] at failed
      cases failed

theorem run_build_of_invalid {scanned : ScanResult} {name : String}
    (scans : disk.scanned request.modulePath request.config = .ok scanned)
    (invalid : firstInvalid? (request.glue scanned).files = some name) :
    (build (m := DiskM) request).run disk = (.error (.invalidFileName name), disk) := by
  rw [run_build_of_ok scans, run_reconcile_of_invalid invalid]
  rfl

/-- A build fails on a scan, or on a name before it touches the disk, or it leaves the
errors of the file system. -/
theorem run_build_cases (request : BuildRequest) (disk : Disk) :
    (∃ cause, disk.scanned request.modulePath request.config = .error cause ∧
        (build (m := DiskM) request).run disk = (.error (.metadata cause), disk)) ∨
      ∃ scanned, disk.scanned request.modulePath request.config = .ok scanned ∧
        ((∃ name, firstInvalid? (request.glue scanned).files = some name ∧
            (build (m := DiskM) request).run disk = (.error (.invalidFileName name), disk)) ∨
          ∀ error, ((build (m := DiskM) request).run disk).1 = .error error →
            ∃ path cause, error = .file path cause) := by
  cases scans : disk.scanned request.modulePath request.config with
  | error cause => exact Or.inl ⟨cause, rfl, run_build_of_error scans⟩
  | ok scanned =>
      refine Or.inr ⟨scanned, rfl, ?_⟩
      cases found : firstInvalid? (request.glue scanned).files with
      | some name => exact Or.inl ⟨name, rfl, run_build_of_invalid scans found⟩
      | none => exact Or.inr fun error failed => error_of_plain scans found failed

theorem scanned_of_metadata {cause : ReadError}
    (failed : ((build (m := DiskM) request).run disk).1 = .error (.metadata cause)) :
    disk.scanned request.modulePath request.config = .error cause ∧
      ((build (m := DiskM) request).run disk).2 = disk := by
  rcases run_build_cases request disk with
    ⟨other, scans, ran⟩ | ⟨scanned, scans, ⟨name, invalid, ran⟩ | only⟩
  · rw [ran] at failed ⊢
    cases failed
    exact ⟨scans, rfl⟩
  · rw [ran] at failed
    cases failed
  · obtain ⟨path, error, impossible⟩ := only _ failed
    cases impossible

theorem invalid_of_invalidFileName {name : String}
    (failed : ((build (m := DiskM) request).run disk).1 = .error (.invalidFileName name)) :
    (∃ scanned, disk.scanned request.modulePath request.config = .ok scanned ∧
        firstInvalid? (request.glue scanned).files = some name) ∧
      ((build (m := DiskM) request).run disk).2 = disk := by
  rcases run_build_cases request disk with
    ⟨other, scans, ran⟩ | ⟨scanned, scans, ⟨other, invalid, ran⟩ | only⟩
  · rw [ran] at failed
    cases failed
  · rw [ran] at failed ⊢
    cases failed
    exact ⟨⟨scanned, scans, invalid⟩, rfl⟩
  · obtain ⟨path, error, impossible⟩ := only _ failed
    cases impossible

end Runs

/-- When a build is refused, and that it leaves the disk as it was. -/
structure Refusals (request : BuildRequest) (disk : Disk) (outcome : Except BuildError BuildReport)
    (after : Disk) : Prop where
  metadata_iff : (∃ cause, outcome = .error (.metadata cause)) ↔
    ∃ cause, MetadataFault disk request.modulePath request.config cause
  metadata : ∀ cause, outcome = .error (.metadata cause) →
    MetadataFault disk request.modulePath request.config cause ∧ after = disk
  invalidFileName_iff : (∃ name, outcome = .error (.invalidFileName name)) ↔
    ∃ scanned, disk.scanned request.modulePath request.config = .ok scanned ∧
      (FileName.isPlain request.config.options.reservedFileName = false ∨
        scanned.exports ≠ [] ∧ FileName.isPlain request.config.options.exportsFileName = false)
  invalidFileName : ∀ name, outcome = .error (.invalidFileName name) →
    (name = request.config.options.reservedFileName ∨
      name = request.config.options.exportsFileName) ∧ after = disk

/-- Every build is refused for these reasons, and before it touches the disk. -/
theorem build_refusals (request : BuildRequest) (disk : Disk) :
    Refusals request disk ((build (m := DiskM) request).run disk).1
      ((build (m := DiskM) request).run disk).2 := by
  constructor
  case metadata_iff =>
    rw [← scanned_fails_iff]
    constructor
    · intro ⟨cause, failed⟩
      exact ⟨cause, (scanned_of_metadata failed).1⟩
    · intro ⟨cause, scans⟩
      exact ⟨cause, congrArg Prod.fst (run_build_of_error scans)⟩
  case metadata =>
    intro cause failed
    obtain ⟨scans, unchanged⟩ := scanned_of_metadata failed
    exact ⟨fault_of_scanned scans, unchanged⟩
  case invalidFileName_iff =>
    constructor
    · intro ⟨name, failed⟩
      obtain ⟨⟨scanned, scans, invalid⟩, _⟩ := invalid_of_invalidFileName failed
      exact ⟨scanned, scans, firstInvalid?_isSome_iff.mp (Option.isSome_of_eq_some invalid)⟩
    · intro ⟨scanned, scans, unplain⟩
      have isSome : (firstInvalid? (request.glue scanned).files).isSome = true :=
        firstInvalid?_isSome_iff.mpr unplain
      obtain ⟨name, invalid⟩ := Option.isSome_iff_exists.mp isSome
      exact ⟨name, congrArg Prod.fst (run_build_of_invalid scans invalid)⟩
  case invalidFileName =>
    intro name failed
    obtain ⟨⟨scanned, _, invalid⟩, unchanged⟩ := invalid_of_invalidFileName failed
    exact ⟨named_of_firstInvalid? invalid, unchanged⟩

/-- A module that is missing, and an extension that takes the files elsewhere. -/
theorem build_refusals_companions :
    let root : Module := ⟨"A", none, ["B"], []⟩
    let diskWith (description : ByteArray) : Disk :=
      .plain [(["work", "A.json"], .file description), (["work"], .directory)] ["work"]
    let disk := diskWith root.toJson.toUTF8
    let missing : BuildRequest := ⟨⟨"A.json"⟩, ⟨"out"⟩, "", ⟨.standard, .ofList ["B"], none⟩⟩
    let elsewhere : BuildRequest :=
      ⟨⟨"A.json"⟩, ⟨"out"⟩, "", ⟨{ Options.standard with extension := "c/d" }, .empty, none⟩⟩
    (∃ cause, (build (m := DiskM) missing).run disk = (.error (.metadata cause), disk)) ∧
      ∃ name, (build (m := DiskM) elsewhere).run disk = (.error (.invalidFileName name), disk) := by
  intro root diskWith disk missing elsewhere
  have held (description : ByteArray) :
      (diskWith description).readFile ⟨"A.json"⟩ = .ok description := rfl
  have read : onDisk disk (readModuleFile ⟨"A.json"⟩) = .ok root :=
    onDisk_readModuleFile_toJson (held _)
  constructor
  · have refusals := build_refusals missing disk
    let directory := missing.config.moduleDirectoryFor missing.modulePath
    have absent (description : ByteArray) : (diskWith description).hasFile ⟨"B.json"⟩ = false := rfl
    have named : ModuleDirectory.modulePath ⟨directory⟩ "B" = ⟨"B.json"⟩ := by decide +kernel
    have reached : ReachableFrom missing.config.references (disk.readModule directory) root.name
        root.references "B" := ⟨"B", by decide, by decide, by decide, .refl⟩
    have absentHere : disk.hasFile (ModuleDirectory.modulePath ⟨directory⟩ "B") = false := by
      rw [named]
      exact absent _
    have unread := readModule_of_absent absentHere
    have fault := MetadataFault.reference read reached unread .missing
    obtain ⟨cause, failed⟩ := refusals.metadata_iff.mpr ⟨_, fault⟩
    exact ⟨cause, Prod.ext failed (refusals.metadata cause failed).2⟩
  · have refusals := build_refusals elsewhere disk
    have alone : ∀ read : String → Except ReadError Module,
        scan elsewhere.config.references read root = .ok (.ofModules [] root) := by
      intro read
      exact scan_eq_ok_iff.mpr ⟨[], _, .pass (Or.inl rfl) (.done _), rfl⟩
    have scans := scanned_eq_ok_iff.mpr ⟨root, read, alone _⟩
    obtain ⟨name, failed⟩ := refusals.invalidFileName_iff.mpr ⟨_, scans, Or.inl (by decide)⟩
    exact ⟨name, Prod.ext failed (refusals.invalidFileName name failed).2⟩

end GuestGlue
