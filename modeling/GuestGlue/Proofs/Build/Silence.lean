/-
Runs that report nothing.  A scan and a generation without objection bridge every
binding that was scanned, and nothing is reported about a run that does so.
-/

import GuestGlue.CommandLine.Run
import GuestGlue.Proofs.Glue.Objections
import GuestGlue.Proofs.Glue.Rulings
import GuestGlue.Proofs.Metadata.Scan

namespace GuestGlue

/-! ### Logs of errors -/

namespace DiagnosticLog

theorem hasErrors_ofHistory_eq_false_iff {history : List Diagnostic}
    (errors : ∀ diagnostic ∈ history, diagnostic.isError = true) :
    (ofHistory history).hasErrors = false ↔ history = [] := by
  rw [hasErrors, ofHistory_totalErrors, List.countP_eq_length.mpr errors, decide_eq_false_iff_not,
    Nat.not_lt, Nat.le_zero, List.length_eq_zero_iff]

end DiagnosticLog

/-! ### Scans without conflict -/

section Scans

variable {ε : Type} {references : NameSet} {read : String → Except ε Module} {root : Module}

/-- The root, or a module that references in the set lead to from it. -/
def Scanned (references : NameSet) (read : String → Except ε Module) (root module : Module) : Prop :=
  module = root ∨
    ∃ name, ReachableFrom references read root.name root.references name ∧ read name = .ok module

theorem Descends.mem_modules_iff_scanned {after : List String} {reached : List Reached}
    (descends : Descends references read [root.name] root.references reached after)
    (module : Module) :
    module ∈ reached.map (·.module) ++ [root] ↔ Scanned references read root module := by
  rw [List.mem_append, List.mem_singleton, or_comm]
  refine or_congr_right ?_
  constructor
  · intro listed
    obtain ⟨entry, member, rfl⟩ := List.mem_map.mp listed
    exact ⟨entry.name, (descends.mem_iff_reachable _).mp (List.mem_map_of_mem member),
      descends.read_eq entry member⟩
  · rintro ⟨name, reachable, found⟩
    obtain ⟨entry, member, rfl⟩ := List.mem_map.mp ((descends.mem_iff_reachable name).mpr reachable)
    cases Except.ok.inj ((descends.read_eq entry member).symm.trans found)
    exact List.mem_map_of_mem member

end Scans

/-- No method is marked both ways exactly if no static method of a type is. -/
theorem conflicting_eq_nil_iff {modules : List Module} :
    conflicting modules = [] ↔
      ∀ module ∈ modules, ∀ type ∈ module.types, ∀ method ∈ type.methods,
        method.isStatic = true →
          ¬(method.markers.any (·.isExport) = true ∧ method.markers.any (·.isImport) = true) := by
  rw [conflicting, List.filter_eq_nil_iff]
  constructor
  · intro apart module inModules type inModule method inType isStatic marked
    refine apart ⟨module, type, method⟩ ?_ (by simpa [Declaration.isExported,
      Declaration.isImported, Declaration.markers] using marked)
    refine List.mem_flatMap.mpr ⟨module, inModules, List.mem_map_of_mem ?_⟩
    refine List.mem_flatMap.mpr ⟨type, inModule, List.mem_map_of_mem ?_⟩
    exact List.mem_filter.mpr ⟨inType, isStatic⟩
  · intro apart declaration declared marked
    obtain ⟨module, inModules, ofModule⟩ := List.mem_flatMap.mp declared
    obtain ⟨static, present, rfl⟩ := List.mem_map.mp ofModule
    obtain ⟨type, inModule, ofType⟩ := List.mem_flatMap.mp present
    obtain ⟨method, kept, rfl⟩ := List.mem_map.mp ofType
    obtain ⟨inType, isStatic⟩ := List.mem_filter.mp kept
    exact apart module inModules type inModule method inType isStatic
      (by simpa [Declaration.isExported, Declaration.isImported, Declaration.markers] using marked)

/-! ### Runs -/

/-- The log of a scan is free of errors exactly if no scanned method is marked both ways. -/
theorem ScanResult.hasErrors_ofModules_eq_false_iff (reached : List Module) (root : Module) :
    (ScanResult.ofModules reached root).diagnostics.hasErrors = false ↔
      conflicting (reached ++ [root]) = [] := by
  rw [ScanResult.ofModules, conflicts_eq,
    DiagnosticLog.hasErrors_ofHistory_eq_false_iff (isError_conflicts _), List.map_eq_nil_iff]

/-- The log of a build has no error exactly if the log of its scan has none and the
generation reports nothing. -/
theorem hasErrors_report_eq_false_iff (reached : List Module) (root : Module)
    {generated : List Diagnostic}
    (errors : ∀ diagnostic ∈ generated, diagnostic.isError = true) :
    (DiagnosticLog.ofHistory
        ((ScanResult.ofModules reached root).diagnostics.entries ++ generated)).hasErrors = false ↔
      (ScanResult.ofModules reached root).diagnostics.hasErrors = false ∧ generated = [] := by
  have kept : (ScanResult.ofModules reached root).diagnostics.entries =
      ((conflicting (reached ++ [root])).map Declaration.conflict).take DiagnosticLog.capacity := by
    rw [ScanResult.ofModules, conflicts_eq, DiagnosticLog.ofHistory_entries]
  have keptErrors : ∀ diagnostic ∈ (ScanResult.ofModules reached root).diagnostics.entries,
      diagnostic.isError = true := by
    intro diagnostic member
    rw [kept] at member
    exact isError_conflicts _ diagnostic (List.mem_of_mem_take member)
  have room : DiagnosticLog.capacity ≠ 0 := by decide
  rw [DiagnosticLog.hasErrors_ofHistory_eq_false_iff
      (List.forall_mem_append.mpr ⟨keptErrors, errors⟩),
    List.append_eq_nil_iff, ScanResult.hasErrors_ofModules_eq_false_iff, kept,
    List.take_eq_nil_iff, List.map_eq_nil_iff, or_iff_right room]

/-- A run reports no error exactly if every scanned export is wrapped, in order, every
scanned import is forwarded, and no static method of a scanned module is marked both
ways.  The command ends with code zero for just these runs. -/
theorem run_silent_iff_bridged {ε : Type} {references : NameSet}
    {read : String → Except ε Module} {root : Module} {scanned : ScanResult}
    (succeeds : scan references read root = .ok scanned) (options : Options)
    (boilerplate : String) :
    let output := Glue.generate options boilerplate scanned.exports scanned.imports
    let log := DiagnosticLog.ofHistory (scanned.diagnostics.entries ++ output.diagnostics)
    (scanned.diagnostics.hasErrors = false ∧ output.diagnostics = [] ↔
      output.exports = scanned.exports ∧ output.imports.Perm scanned.imports ∧
        ∀ module, Scanned references read root module →
          ∀ type ∈ module.types, ∀ method ∈ type.methods, method.isStatic = true →
            ¬(method.markers.any (·.isExport) = true ∧
              method.markers.any (·.isImport) = true)) ∧
    ∀ reconciled, (CommandLine.buildOutcome ⟨reconciled, log⟩).code = 0 ↔
      scanned.diagnostics.hasErrors = false ∧ output.diagnostics = [] := by
  obtain ⟨reached, after, descends, rfl⟩ := scan_eq_ok_iff.mp succeeds
  intro output log
  constructor
  · rw [ScanResult.hasErrors_ofModules_eq_false_iff, Glue.generate_silent_iff,
      conflicting_eq_nil_iff]
    simp only [descends.mem_modules_iff_scanned]
    rw [and_comm, and_assoc]
  · intro reconciled
    have errors := Glue.generate_isError options boilerplate
      (ScanResult.ofModules (reached.map (·.module)) root).exports
      (ScanResult.ofModules (reached.map (·.module)) root).imports
    have silent : log.hasErrors = false ↔ _ := hasErrors_report_eq_false_iff _ root errors
    rw [← silent, CommandLine.buildOutcome]
    cases log.hasErrors with
    | false => simp [CommandLine.Outcome.success]
    | true => simp

/-- The forwarders of one host module come together, so the imports change places. -/
theorem run_silent_iff_bridged_reordered :
    let imported (name hostModule : String) : MethodDef :=
      .withMarker (.named name .void) (.imported hostModule none)
    let ping : MethodDef := .withMarker (.named "Ping" .void) (.exported none)
    let library : Module := ⟨"Library", none, [], [⟨"", "Api", [ping]⟩]⟩
    let root : Module := ⟨"App", none, ["Library"],
      [⟨"", "Api", [imported "First" "b", imported "Second" "a", imported "Third" "b"]⟩]⟩
    let references := NameSet.ofList ["Library"]
    let read : String → Except String Module := fun name =>
      if name = "Library" then .ok library else .error name
    let scanned := ScanResult.ofModules [library] root
    let output := Glue.generate .standard "" scanned.exports scanned.imports
    scan references read root = .ok scanned ∧
      output.imports.map (·.functionName) = ["First", "Third", "Second"] ∧
      output.imports.Perm scanned.imports ∧ output.exports = scanned.exports ∧
      output.exports.map (·.exportName) = ["Ping"] := by
  intro imported ping library root references read scanned output
  have inLibrary : Descends references read ["Library", "App"] library.references [] _ := .done _
  have descends : Descends references read ["App"] root.references [⟨"Library", library⟩] _ :=
    .enter (by decide) (by decide) rfl inLibrary (.done _)
  have succeeds : scan references read root = .ok scanned :=
    scan_eq_ok_iff.mpr ⟨_, _, descends, rfl⟩
  have silent : scanned.diagnostics.hasErrors = false ∧ output.diagnostics = [] :=
    ⟨by decide +kernel, by decide +kernel⟩
  obtain ⟨wrapped, forwarded, _⟩ := (run_silent_iff_bridged succeeds .standard "").1.mp silent
  exact ⟨succeeds, by decide +kernel, forwarded, wrapped, by decide +kernel⟩

end GuestGlue
