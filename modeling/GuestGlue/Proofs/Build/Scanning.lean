/-
The scan inside a build.  It only reads, so its outcome is a function of the disk, and a
build is this outcome and then the reconciliation of what is generated from it.
-/

import GuestGlue.Build.Run
import GuestGlue.Proofs.Build.Completion
import GuestGlue.Proofs.Metadata.Reading

namespace GuestGlue

open Reconcile

/-- What the description of a module in a directory of the disk holds. -/
def Disk.readModule (disk : Disk) (directory : Path) (name : String) : Except ReadError Module :=
  onDisk disk (ModuleDirectory.read ⟨directory⟩ name)

theorem scan_onDisk (disk : Disk) (directory : Path) (references : NameSet) (root : Module) :
    onDisk disk (scan references (ModuleDirectory.read (m := DiskM) ⟨directory⟩) root) =
      scan references (disk.readModule directory) root := by
  have reads : ∀ name, ReadOnly (ModuleDirectory.read (m := DiskM) ⟨directory⟩ name) :=
    ModuleDirectory.read_readOnly _
  rw [scan, onDisk_bind disk (walk_readOnly references reads), walk_onDisk references reads]
  rfl

def Disk.scanned (disk : Disk) (modulePath : Path) (config : Config) : Except ReadError ScanResult :=
  (onDisk disk (readModuleFile modulePath)).bind fun root =>
    scan config.references (disk.readModule (config.moduleDirectoryFor modulePath)) root

section Scanned

variable {disk after : Disk} {modulePath : Path} {config : Config}

theorem scanned_eq_ok_iff {scanned : ScanResult} :
    disk.scanned modulePath config = .ok scanned ↔
      ∃ root, onDisk disk (readModuleFile modulePath) = .ok root ∧
        scan config.references (disk.readModule (config.moduleDirectoryFor modulePath)) root =
          .ok scanned := by
  unfold Disk.scanned
  cases onDisk disk (readModuleFile modulePath) with
  | error cause => simp [Except.bind]
  | ok root => simp only [Except.bind, Except.ok.injEq, exists_eq_left']

theorem scanModule_readOnly {σ : Type} [FileSystem (StateM σ)] [DiskState σ] (modulePath : Path)
    (config : Config) : ReadOnly (scanModule (m := StateM σ) modulePath config) := by
  refine .adapt ((readModuleFile_readOnly modulePath).bind fun root => ?_) _
  exact scan_readOnly _ (ModuleDirectory.read_readOnly _) root

theorem run_scanModule (disk : Disk) (modulePath : Path) (config : Config) :
    (scanModule (m := DiskM) modulePath config).run disk =
      ((disk.scanned modulePath config).mapError .metadata, disk) := by
  let scans (root : Module) := scan config.references
    (ModuleDirectory.read (m := DiskM) ⟨config.moduleDirectoryFor modulePath⟩) root
  have outcome : onDisk disk (readModuleFile modulePath >>= scans) =
      disk.scanned modulePath config := by
    rw [onDisk_bind disk (readModuleFile_readOnly modulePath)]
    exact congrArg _ (funext fun root => scan_onDisk disk _ _ root)
  rw [← outcome]
  exact Prod.ext rfl (scanModule_readOnly modulePath config disk)

end Scanned

/-! ### Builds -/

def BuildRequest.glue (request : BuildRequest) (scanned : ScanResult) : Glue.Output :=
  Glue.generate request.config.options request.boilerplate scanned.exports scanned.imports

section Runs

variable {σ : Type} [FileSystem (StateM σ)] {request : BuildRequest} {state later : σ}

theorem run_build_of_unscanned {error : BuildError}
    (failed : (scanModule (m := StateM σ) request.modulePath request.config).run state =
      (.error error, later)) :
    (build (m := StateM σ) request).run state = (.error error, later) :=
  run_bind_of_error failed _

theorem run_build_of_scanned {scanned : ScanResult}
    (succeeded : (scanModule (m := StateM σ) request.modulePath request.config).run state =
      (.ok scanned, later)) :
    let reconciled := (reconcile (m := StateM σ) request.outputDirectory
      (request.glue scanned).files request.config.options.extension).run later
    (build (m := StateM σ) request).run state =
      (reconciled.1.map
        (⟨·, .ofHistory (scanned.diagnostics.entries ++ (request.glue scanned).diagnostics)⟩),
        reconciled.2) := by
  intro reconciled
  rw [build, run_bind_of_ok succeeded]
  cases wrote : reconciled with
  | mk outcome middle =>
      cases outcome with
      | error error => exact run_bind_of_error wrote _
      | ok value => exact run_bind_of_ok wrote _

/-- A build that completes has completed its reconciliation, and that was the last of it. -/
theorem reconciled_of_run_build {scanned : ScanResult} {report : BuildReport} {after : σ}
    (succeeded : (scanModule (m := StateM σ) request.modulePath request.config).run state =
      (.ok scanned, later))
    (completed : (build (m := StateM σ) request).run state = (.ok report, after)) :
    ∃ reconciled, (reconcile (m := StateM σ) request.outputDirectory
      (request.glue scanned).files request.config.options.extension).run later =
        (.ok reconciled, after) := by
  rw [run_build_of_scanned succeeded] at completed
  obtain ⟨outcome, same⟩ := Prod.mk.inj completed
  cases ran : (reconcile (m := StateM σ) request.outputDirectory (request.glue scanned).files
      request.config.options.extension).run later with
  | mk result last =>
      rw [ran] at outcome same
      cases result with
      | error error => cases outcome
      | ok reconciled => exact ⟨reconciled, congrArg (Prod.mk _) same⟩

end Runs

section Builds

variable {disk after : Disk} {request : BuildRequest}

theorem run_build_of_error {cause : ReadError}
    (failed : disk.scanned request.modulePath request.config = .error cause) :
    (build (m := DiskM) request).run disk = (.error (.metadata cause), disk) := by
  have ran := run_scanModule disk request.modulePath request.config
  rw [failed] at ran
  exact run_build_of_unscanned ran

theorem run_build_of_ok {scanned : ScanResult}
    (succeeded : disk.scanned request.modulePath request.config = .ok scanned) :
    let reconciled := (reconcile (m := DiskM) request.outputDirectory (request.glue scanned).files
      request.config.options.extension).run disk
    (build (m := DiskM) request).run disk =
      (reconciled.1.map
        (⟨·, .ofHistory (scanned.diagnostics.entries ++ (request.glue scanned).diagnostics)⟩),
        reconciled.2) := by
  have ran := run_scanModule disk request.modulePath request.config
  rw [succeeded] at ran
  exact run_build_of_scanned ran

theorem completes_build_iff {report : BuildReport} :
    Completes (build request) disk report after ↔
      ∃ scanned reconciled, disk.scanned request.modulePath request.config = .ok scanned ∧
        Completes (reconcile request.outputDirectory (request.glue scanned).files
          request.config.options.extension) disk reconciled after ∧
        report = ⟨reconciled,
          .ofHistory (scanned.diagnostics.entries ++ (request.glue scanned).diagnostics)⟩ := by
  rw [Completes]
  cases scans : disk.scanned request.modulePath request.config with
  | error cause =>
      rw [run_build_of_error scans]
      constructor
      · intro completed
        cases completed
      · rintro ⟨_, _, same, _⟩
        cases same
  | ok scanned =>
      rw [run_build_of_ok scans]
      constructor
      · intro completed
        cases ran : (reconcile (m := DiskM) request.outputDirectory (request.glue scanned).files
            request.config.options.extension).run disk with
        | mk outcome middle =>
            rw [ran] at completed
            cases outcome with
            | error error => cases completed
            | ok reconciled =>
                cases completed
                exact ⟨scanned, reconciled, rfl, ran, rfl⟩
      · rintro ⟨_, reconciled, same, ran, rfl⟩
        cases same
        rw [Completes] at ran
        rw [ran]
        rfl

end Builds

end GuestGlue
