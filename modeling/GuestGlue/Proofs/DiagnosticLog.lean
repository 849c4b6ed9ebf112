/-
Logs as histories.  Pushing diagnostics one by one keeps the first of them and
counts them all, so a log is its history as long as that fits.
-/

import GuestGlue.Diagnostic

namespace GuestGlue.DiagnosticLog

theorem pushAll_totalErrors (log : DiagnosticLog) (diagnostics : List Diagnostic) :
    (log.pushAll diagnostics).totalErrors = log.totalErrors + diagnostics.countP (·.isError) := by
  induction diagnostics generalizing log with
  | nil => rfl
  | cons diagnostic rest ih =>
      change ((log.push diagnostic).pushAll rest).totalErrors = _
      simp only [ih, push, List.countP_cons]
      omega

theorem pushAll_totalWarnings (log : DiagnosticLog) (diagnostics : List Diagnostic) :
    (log.pushAll diagnostics).totalWarnings =
      log.totalWarnings + diagnostics.countP (!·.isError) := by
  induction diagnostics generalizing log with
  | nil => rfl
  | cons diagnostic rest ih =>
      change ((log.push diagnostic).pushAll rest).totalWarnings = _
      simp only [ih, push, List.countP_cons]
      cases diagnostic.isError with
      | true => simp
      | false => simp; omega

theorem pushAll_entries {log : DiagnosticLog} (bounded : log.entries.length ≤ capacity)
    (diagnostics : List Diagnostic) :
    (log.pushAll diagnostics).entries = (log.entries ++ diagnostics).take capacity := by
  induction diagnostics generalizing log with
  | nil => rw [List.append_nil, List.take_of_length_le bounded]; rfl
  | cons diagnostic rest ih =>
      change ((log.push diagnostic).pushAll rest).entries = _
      by_cases room : log.entries.length < capacity
      · have entries : (log.push diagnostic).entries = log.entries ++ [diagnostic] := by
          rw [push, if_pos room]
        rw [ih (by rw [entries, List.length_append, List.length_singleton]; omega), entries,
          List.append_assoc, List.singleton_append]
      · have entries : (log.push diagnostic).entries = log.entries := by
          rw [push, if_neg room]
        rw [ih (by rw [entries]; exact bounded), entries,
          List.take_append_of_le_length (by omega), List.take_append_of_le_length (by omega)]

theorem ofHistory_entries (history : List Diagnostic) :
    (ofHistory history).entries = history.take capacity :=
  pushAll_entries (Nat.zero_le _) history

theorem ofHistory_totalErrors (history : List Diagnostic) :
    (ofHistory history).totalErrors = history.countP (·.isError) := by
  rw [ofHistory, pushAll_totalErrors, empty, Nat.zero_add]

/-- Where the first part of a history holds errors alone, cutting it to what a log keeps
goes unnoticed only if it fits. -/
theorem ofHistory_take_append_iff {first : List Diagnostic}
    (errors : ∀ diagnostic ∈ first, diagnostic.isError = true) (second : List Diagnostic) :
    ofHistory (first.take capacity ++ second) = ofHistory (first ++ second) ↔
      first.length ≤ capacity := by
  constructor
  · intro same
    have counted := congrArg totalErrors same
    have cut : ∀ diagnostic ∈ first.take capacity, diagnostic.isError = true :=
      fun diagnostic member => errors diagnostic (List.mem_of_mem_take member)
    rw [ofHistory_totalErrors, ofHistory_totalErrors, List.countP_append, List.countP_append,
      List.countP_eq_length.mpr errors, List.countP_eq_length.mpr cut, List.length_take] at counted
    omega
  · intro fits
    rw [List.take_of_length_le fits]

end GuestGlue.DiagnosticLog
