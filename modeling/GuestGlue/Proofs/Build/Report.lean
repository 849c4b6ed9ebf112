/-
What the report of a build counts.  The log of the scan is passed on by the entries
that it kept, so of the conflicts of a scan no more than a log keeps are counted.
-/

import GuestGlue.Proofs.DiagnosticLog
import GuestGlue.Proofs.Build.Reconcile
import GuestGlue.Proofs.Build.Scanning
import GuestGlue.Proofs.Glue.Objections
import GuestGlue.Proofs.Json.Lexemes
import GuestGlue.Proofs.Metadata.Scan

namespace GuestGlue

open Reconcile

section Completed

variable {disk after : Disk}

/-! ### Reports -/

/-- A build reports what its log of the scan kept, and then everything that the
generation reports. -/
theorem build_completes {request : BuildRequest} {report : BuildReport}
    (completed : Completes (build request) disk report after) :
    ∃ root scanned, onDisk disk (readModuleFile request.modulePath) = .ok root ∧
      scan request.config.references
        (disk.readModule (request.config.moduleDirectoryFor request.modulePath)) root =
          .ok scanned ∧
      report.diagnostics = .ofHistory (scanned.diagnostics.entries ++
        (Glue.generate request.config.options request.boilerplate scanned.exports
          scanned.imports).diagnostics) := by
  obtain ⟨scanned, _, scans, _, rfl⟩ := completes_build_iff.mp completed
  obtain ⟨root, read, scans⟩ := scanned_eq_ok_iff.mp scans
  exact ⟨root, scanned, read, scans, rfl⟩

/-- The report of a build is the log of all conflicts of the scanned modules and all
reports of the generation exactly if the log of the scan kept every conflict; of more
conflicts the report counts as many as that log keeps. -/
theorem build_diagnostics {request : BuildRequest} {report : BuildReport}
    (completed : Completes (build request) disk report after) :
    ∃ root modules, onDisk disk (readModuleFile request.modulePath) = .ok root ∧
      walk request.config.references
        (disk.readModule (request.config.moduleDirectoryFor request.modulePath))
        [root.name] (visits root) = .ok modules ∧
      let conflicts := (conflicting (modules ++ [root])).map Declaration.conflict
      let scanned := ScanResult.ofModules modules root
      let generated := (Glue.generate request.config.options request.boilerplate scanned.exports
        scanned.imports).diagnostics
      report.diagnostics = .ofHistory (conflicts.take DiagnosticLog.capacity ++ generated) ∧
      report.diagnostics.totalErrors =
        min DiagnosticLog.capacity conflicts.length + generated.length ∧
      (report.diagnostics = .ofHistory (conflicts ++ generated) ↔
        conflicts.length ≤ DiagnosticLog.capacity) := by
  obtain ⟨root, scanned, read, scans, reported⟩ := build_completes completed
  unfold scan at scans
  cases walked : walk request.config.references
      (disk.readModule (request.config.moduleDirectoryFor request.modulePath))
      [root.name] (visits root) with
  | error cause =>
      rw [walked] at scans
      cases scans
  | ok modules =>
      rw [walked] at scans
      cases scans
      refine ⟨root, modules, read, walked, ?_⟩
      intro conflicts scanned generated
      have kept : scanned.diagnostics.entries = conflicts.take DiagnosticLog.capacity := by
        simp only [scanned, conflicts, ScanResult.ofModules, conflicts_eq,
          DiagnosticLog.ofHistory_entries]
      have log : report.diagnostics =
          .ofHistory (conflicts.take DiagnosticLog.capacity ++ generated) := kept ▸ reported
      have errors := isError_conflicts (conflicting (modules ++ [root]))
      refine ⟨log, ?_, log ▸ DiagnosticLog.ofHistory_take_append_iff errors generated⟩
      have cut : ∀ diagnostic ∈ conflicts.take DiagnosticLog.capacity, diagnostic.isError = true :=
        fun diagnostic member => errors diagnostic (List.mem_of_mem_take member)
      rw [log, DiagnosticLog.ofHistory_totalErrors, List.countP_append,
        List.countP_eq_length.mpr cut, List.length_take,
        List.countP_eq_length.mpr (Glue.generate_isError _ _ _ _)]

end Completed

/-! ### A root with more conflicts than a log keeps -/

namespace Overfull

def root : Module :=
  ⟨"A", none, [], [⟨"", "T",
    .replicate 51 ⟨"M", true, [], .void, [.exported none, .imported "h" none]⟩⟩]⟩

/-- The description of the root, with 51 methods that are marked both ways. -/
def text : List Char :=
  let method := "[\"M\",true,[],\"System.Void\",[[\"export\",null],[\"import\",\"h\",null]]]".toList
  "[\"A\",null,[],[[\"\",\"T\",[".toList ++ (List.replicate 50 (method ++ [','])).flatten ++
    method ++ "]]]]".toList

def diskWith (description : ByteArray) : Disk :=
  .plain [(["work", "out"], .directory), (["work", "A.json"], .file description),
    (["work"], .directory)] ["work"]

def disk : Disk := diskWith (String.ofList text).toUTF8

def request : BuildRequest := ⟨⟨"A.json"⟩, ⟨"out"⟩, "", .standard⟩

def scanned : ScanResult := .ofModules [] root

def files : List GlueFile :=
  (Glue.generate request.config.options request.boilerplate scanned.exports scanned.imports).files

theorem read_root : onDisk disk (readModuleFile request.modulePath) = .ok root := by
  have held (description : ByteArray) :
      (diskWith description).readFile request.modulePath = .ok description := rfl
  have decoded : Module.ofJson (String.ofList text) = .ok root :=
    Json.decodeText_ofList 4000 (by decide +kernel) (by decide +kernel)
  rw [disk, onDisk_readModuleFile (held _), decoded]
  rfl

theorem walk_root (read : String → Except ReadError Module) :
    walk request.config.references read [root.name] (visits root) = .ok [] := by
  change walk _ _ _ [] = _
  rw [walk]
  rfl

theorem scan_root (read : String → Except ReadError Module) :
    scan request.config.references read root = .ok scanned := by
  rw [scan, walk_root]
  rfl

theorem completes : ∃ report after, Completes (build request) disk report after := by
  have opens : disk.Opens request.outputDirectory ["work", "out"] := ⟨rfl, rfl⟩
  have names : files.map (·.name) = ["env.c"] := by decide +kernel
  obtain ⟨reconciled, after, written⟩ := reconcile_completes files request.config.options.extension
    (by decide +kernel) opens.createDirectories opens nofun
    (by rw [names]; exact List.forall_mem_singleton.mpr ⟨by decide, rfl⟩)
  have scans := scanned_eq_ok_iff.mpr ⟨root, read_root, scan_root _⟩
  exact ⟨_, after, completes_build_iff.mpr ⟨scanned, reconciled, scans, written, rfl⟩⟩

end Overfull

/-- Of 51 conflicts the report counts 50. -/
theorem build_diagnostics_overfull :
    ∃ report after, Completes (build Overfull.request) Overfull.disk report after ∧
      (conflicting [Overfull.root]).length = 51 ∧ report.diagnostics.totalErrors = 50 := by
  obtain ⟨report, after, completed⟩ := Overfull.completes
  obtain ⟨_, _, read, walked, _, counted, _⟩ := build_diagnostics completed
  cases Except.ok.inj (Overfull.read_root.symm.trans read)
  cases Except.ok.inj ((Overfull.walk_root _).symm.trans walked)
  exact ⟨report, after, completed, by decide +kernel, counted.trans (by decide +kernel)⟩

/-- Not every report is the log of all conflicts and then everything that the
generation reports. -/
theorem build_drops_conflicts :
    ¬∀ (request : BuildRequest) (disk after : Disk) (report : BuildReport)
        (root : Module) (modules : List Module),
      Completes (build request) disk report after →
      onDisk disk (readModuleFile request.modulePath) = .ok root →
      walk request.config.references
        (disk.readModule (request.config.moduleDirectoryFor request.modulePath))
        [root.name] (visits root) = .ok modules →
      report.diagnostics = .ofHistory
        ((conflicting (modules ++ [root])).map Declaration.conflict ++
          (Glue.generate request.config.options request.boilerplate
            (ScanResult.ofModules modules root).exports
            (ScanResult.ofModules modules root).imports).diagnostics) := by
  intro always
  obtain ⟨report, after, completed⟩ := Overfull.completes
  have log := always _ _ _ report Overfull.root [] completed Overfull.read_root (Overfull.walk_root _)
  obtain ⟨_, _, read, scans, reported⟩ := build_completes completed
  cases Except.ok.inj (Overfull.read_root.symm.trans read)
  cases Except.ok.inj ((Overfull.scan_root _).symm.trans scans)
  have counted := congrArg DiagnosticLog.totalErrors (reported.symm.trans log)
  revert counted
  decide +kernel

end GuestGlue
