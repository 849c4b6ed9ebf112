/-
Logs put together from empty ones, by pushing diagnostics and by extending one log by
another.  Whatever the steps, the log records its history: it keeps the first diagnostics
and counts them all.  Where totals are bounded, as they are in a machine word, a total
beyond the bound is all that can go wrong; no difference ever falls below zero.
-/

import GuestGlue.Proofs.DiagnosticLog

namespace GuestGlue

namespace DiagnosticLog

structure Records (log : DiagnosticLog) (history : List Diagnostic) : Prop where
  entries : log.entries = history.take capacity
  totalErrors : log.totalErrors = history.countP (·.isError)
  totalWarnings : log.totalWarnings = history.countP (!·.isError)

variable {log other : DiagnosticLog} {first second : List Diagnostic}

theorem records_empty : empty.Records [] :=
  ⟨rfl, rfl, rfl⟩

theorem Records.unique (left : log.Records first) (right : other.Records first) : log = other := by
  cases log
  cases other
  rw [mk.injEq]
  exact ⟨left.entries.trans right.entries.symm, left.totalErrors.trans right.totalErrors.symm,
    left.totalWarnings.trans right.totalWarnings.symm⟩

theorem Records.kept_le (records : log.Records first) :
    log.entries.countP (·.isError) ≤ log.totalErrors ∧
      log.entries.countP (!·.isError) ≤ log.totalWarnings := by
  rw [records.entries, records.totalErrors, records.totalWarnings]
  exact ⟨(List.take_sublist _ _).countP_le, (List.take_sublist _ _).countP_le⟩

theorem Records.pushAll (records : log.Records first) (diagnostics : List Diagnostic) :
    (log.pushAll diagnostics).Records (first ++ diagnostics) := by
  have bounded : log.entries.length ≤ capacity := by
    rw [records.entries, List.length_take]
    exact Nat.min_le_left _ _
  constructor
  · rw [pushAll_entries bounded, records.entries]
    by_cases full : capacity ≤ first.length
    · rw [List.take_append_of_le_length (by simp [full]), List.take_take, Nat.min_self,
        List.take_append_of_le_length full]
    · rw [List.take_of_length_le (l := first) (by omega)]
  · rw [pushAll_totalErrors, records.totalErrors, List.countP_append]
  · rw [pushAll_totalWarnings, records.totalWarnings, List.countP_append]

theorem Records.push (records : log.Records first) (diagnostic : Diagnostic) :
    (log.push diagnostic).Records (first ++ [diagnostic]) :=
  records.pushAll [diagnostic]

/-- The entries of the other log are counted as they are pushed, and what that log has
dropped is the rest of its history. -/
theorem Records.extend (records : log.Records first) (others : other.Records second) :
    (log.extend other).Records (first ++ second) := by
  have pushed := records.pushAll other.entries
  have kept := others.kept_le
  constructor
  · change (log.pushAll other.entries).entries = _
    rw [pushed.entries, others.entries, List.take_append, List.take_append, List.take_take]
    congr 2
    omega
  · change (log.pushAll other.entries).totalErrors + other.droppedErrors = _
    have counted := others.totalErrors
    rw [pushed.totalErrors, List.countP_append, List.countP_append, droppedErrors]
    omega
  · change (log.pushAll other.entries).totalWarnings + other.droppedWarnings = _
    have counted := others.totalWarnings
    rw [pushed.totalWarnings, List.countP_append, List.countP_append, droppedWarnings]
    omega

/-! ### Bounded totals -/

def sum? (bound left right : Nat) : Option Nat :=
  if left + right ≤ bound then some (left + right) else none

def difference? (left right : Nat) : Option Nat :=
  if right ≤ left then some (left - right) else none

def pushWithin (bound : Nat) (log : DiagnosticLog) (diagnostic : Diagnostic) :
    Option DiagnosticLog := do
  let totalErrors ← sum? bound log.totalErrors (if diagnostic.isError then 1 else 0)
  let totalWarnings ← sum? bound log.totalWarnings (if diagnostic.isError then 0 else 1)
  return { log.push diagnostic with totalErrors, totalWarnings }

def extendWithin (bound : Nat) (log other : DiagnosticLog) : Option DiagnosticLog := do
  let droppedErrors ← difference? other.totalErrors (other.entries.countP (·.isError))
  let droppedWarnings ← difference? other.totalWarnings (other.entries.countP (!·.isError))
  let pushed ← other.entries.foldlM (pushWithin bound) log
  let totalErrors ← sum? bound pushed.totalErrors droppedErrors
  let totalWarnings ← sum? bound pushed.totalWarnings droppedWarnings
  return { pushed with totalErrors, totalWarnings }

def Within (bound : Nat) (log : DiagnosticLog) : Prop :=
  log.totalErrors ≤ bound ∧ log.totalWarnings ≤ bound

theorem sum?_eq_some_iff {bound left right sum : Nat} :
    sum? bound left right = some sum ↔ sum = left + right ∧ sum ≤ bound := by
  unfold sum?
  by_cases fits : left + right ≤ bound
  · rw [if_pos fits, Option.some.injEq]
    constructor
    · rintro rfl
      exact ⟨rfl, fits⟩
    · exact fun both => both.1.symm
  · rw [if_neg fits]
    constructor
    · intro impossible
      cases impossible
    · rintro ⟨rfl, fitting⟩
      exact absurd fitting fits

variable {bound : Nat} {next : DiagnosticLog}

theorem pushWithin_eq_some_iff {diagnostic : Diagnostic} :
    log.pushWithin bound diagnostic = some next ↔
      next = log.push diagnostic ∧ next.Within bound := by
  unfold pushWithin
  simp only [bind, Option.bind_eq_some_iff, sum?_eq_some_iff, pure, Option.some.injEq]
  constructor
  · rintro ⟨_, ⟨rfl, errors⟩, _, ⟨rfl, warnings⟩, rfl⟩
    exact ⟨rfl, errors, warnings⟩
  · rintro ⟨rfl, errors, warnings⟩
    exact ⟨_, ⟨rfl, errors⟩, _, ⟨rfl, warnings⟩, rfl⟩

/-- Totals never shrink, so the last ones tell whether all of them fit. -/
theorem pushAllWithin_eq_some_iff (fits : log.Within bound) {diagnostics : List Diagnostic} :
    diagnostics.foldlM (pushWithin bound) log = some next ↔
      next = log.pushAll diagnostics ∧ next.Within bound := by
  induction diagnostics generalizing log with
  | nil =>
      constructor
      · rintro ⟨⟩
        exact ⟨rfl, fits⟩
      · rintro ⟨rfl, _⟩
        rfl
  | cons diagnostic rest ih =>
      simp only [List.foldlM_cons, bind, Option.bind_eq_some_iff, pushWithin_eq_some_iff]
      constructor
      · rintro ⟨_, ⟨rfl, pushed⟩, others⟩
        exact (ih pushed).mp others
      · rintro ⟨same, within⟩
        have pushed : (log.push diagnostic).Within bound := by
          have later : ((log.push diagnostic).pushAll rest).Within bound := same ▸ within
          rw [Within, pushAll_totalErrors, pushAll_totalWarnings] at later
          constructor <;> omega
        exact ⟨_, ⟨rfl, pushed⟩, (ih pushed).mpr ⟨same, within⟩⟩

theorem extendWithin_eq_some_iff (fits : log.Within bound) (others : other.Records second) :
    log.extendWithin bound other = some next ↔ next = log.extend other ∧ next.Within bound := by
  obtain ⟨errors, warnings⟩ := others.kept_le
  unfold extendWithin difference?
  rw [if_pos errors, if_pos warnings]
  simp only [bind, Option.bind_some, Option.bind_eq_some_iff, pushAllWithin_eq_some_iff fits,
    sum?_eq_some_iff, pure, Option.some.injEq]
  constructor
  · rintro ⟨_, ⟨rfl, _⟩, _, ⟨rfl, errors⟩, _, ⟨rfl, warnings⟩, rfl⟩
    exact ⟨rfl, errors, warnings⟩
  · rintro ⟨rfl, errors, warnings⟩
    refine ⟨_, ⟨rfl, ?_, ?_⟩, _, ⟨rfl, errors⟩, _, ⟨rfl, warnings⟩, rfl⟩
    · exact Nat.le_trans (Nat.le_add_right _ _) errors
    · exact Nat.le_trans (Nat.le_add_right _ _) warnings

end DiagnosticLog

/-! ### Logs by the steps that make them -/

inductive LogAssembly where
  | empty
  | push (assembly : LogAssembly) (diagnostic : Diagnostic)
  | extend (assembly other : LogAssembly)

namespace LogAssembly

open DiagnosticLog

def log : LogAssembly → DiagnosticLog
  | empty => .empty
  | push assembly diagnostic => assembly.log.push diagnostic
  | extend assembly other => assembly.log.extend other.log

/-- Everything that was pushed, in order; an extension brings the history of the other. -/
def history : LogAssembly → List Diagnostic
  | empty => []
  | push assembly diagnostic => assembly.history ++ [diagnostic]
  | extend assembly other => assembly.history ++ other.history

def oneByOne (diagnostics : List Diagnostic) : LogAssembly :=
  diagnostics.foldl push empty

def logWithin (bound : Nat) : LogAssembly → Option DiagnosticLog
  | empty => some .empty
  | push assembly diagnostic => do
      let log ← assembly.logWithin bound
      log.pushWithin bound diagnostic
  | extend assembly other => do
      let log ← assembly.logWithin bound
      let others ← other.logWithin bound
      log.extendWithin bound others

theorem records (assembly : LogAssembly) : assembly.log.Records assembly.history := by
  induction assembly with
  | empty => exact records_empty
  | push _ diagnostic ih => exact ih.push diagnostic
  | extend _ _ ih ihOther => exact ih.extend ihOther

theorem history_oneByOne (diagnostics : List Diagnostic) :
    (oneByOne diagnostics).history = diagnostics := by
  have collected : ∀ start : LogAssembly,
      (diagnostics.foldl push start).history = start.history ++ diagnostics := by
    induction diagnostics with
    | nil =>
        intro start
        exact (List.append_nil _).symm
    | cons diagnostic rest ih =>
        intro start
        rw [List.foldl_cons, ih, history, List.append_assoc, List.singleton_append]
  exact collected empty

theorem logWithin_eq_some_iff {bound : Nat} {assembly : LogAssembly} {log : DiagnosticLog} :
    assembly.logWithin bound = some log ↔ log = assembly.log ∧ log.Within bound := by
  induction assembly generalizing log with
  | empty =>
      constructor
      · rintro ⟨⟩
        exact ⟨rfl, Nat.zero_le _, Nat.zero_le _⟩
      · rintro ⟨rfl, _⟩
        rfl
  | push assembly diagnostic ih =>
      simp only [logWithin, bind, Option.bind_eq_some_iff, ih, pushWithin_eq_some_iff]
      constructor
      · rintro ⟨_, ⟨rfl, _⟩, pushed⟩
        exact pushed
      · rintro ⟨rfl, errors, warnings⟩
        refine ⟨_, ⟨rfl, ?_, ?_⟩, rfl, errors, warnings⟩
        · exact Nat.le_trans (Nat.le_add_right _ _) errors
        · exact Nat.le_trans (Nat.le_add_right _ _) warnings
  | extend assembly other ih ihOther =>
      simp only [logWithin, bind, Option.bind_eq_some_iff, ih, ihOther]
      have whole := (assembly.records.extend other.records)
      have left := assembly.records
      have right := other.records
      constructor
      · rintro ⟨_, ⟨rfl, fits⟩, _, ⟨rfl, _⟩, extended⟩
        exact (extendWithin_eq_some_iff fits right).mp extended
      · rintro ⟨rfl, within⟩
        have fits : assembly.log.Within bound ∧ other.log.Within bound := by
          change (assembly.log.extend other.log).Within bound at within
          rw [Within, whole.totalErrors, whole.totalWarnings, List.countP_append,
            List.countP_append] at within
          rw [Within, Within, left.totalErrors, left.totalWarnings, right.totalErrors,
            right.totalWarnings]
          omega
        exact ⟨_, ⟨rfl, fits.1⟩, _, ⟨rfl, fits.2⟩,
          (extendWithin_eq_some_iff fits.1 right).mpr ⟨rfl, within⟩⟩

/-- Steps that lead to one history lead to one log, and fail for the same bounds. -/
theorem logWithin_congr {left right : LogAssembly} (same : left.history = right.history)
    (bound : Nat) : left.logWithin bound = right.logWithin bound := by
  have log : left.log = right.log := by
    have records := left.records
    rw [same] at records
    exact records.unique right.records
  apply Option.ext
  intro found
  rw [logWithin_eq_some_iff, logWithin_eq_some_iff, log]

theorem logWithin_eq_none_iff {bound : Nat} {assembly : LogAssembly} :
    assembly.logWithin bound = none ↔
      bound < assembly.history.countP (·.isError) ∨
        bound < assembly.history.countP (!·.isError) := by
  have records := assembly.records
  rw [← records.totalErrors, ← records.totalWarnings]
  by_cases within : assembly.log.Within bound
  · have made := logWithin_eq_some_iff.mpr ⟨rfl, within⟩
    obtain ⟨errors, warnings⟩ := within
    rw [made]
    constructor
    · intro impossible
      cases impossible
    · omega
  · constructor
    · rw [Within] at within
      omega
    · intro _
      cases made : assembly.logWithin bound with
      | none => rfl
      | some log =>
          obtain ⟨rfl, fits⟩ := logWithin_eq_some_iff.mp made
          exact absurd fits within

/-- Extending a log by another is pushing the other's history, one diagnostic after another:
the differences are never below zero, the entries are the first of the history, the totals
count all of it, and with bounded totals both ways stop at the same bounds. -/
theorem extend_pushes_history (assembly other : LogAssembly) :
    other.log.entries.countP (·.isError) ≤ other.log.totalErrors ∧
    other.log.entries.countP (!·.isError) ≤ other.log.totalWarnings ∧
    assembly.log.extend other.log = assembly.log.pushAll other.history ∧
    assembly.log.extend other.log = (oneByOne (assembly.history ++ other.history)).log ∧
    assembly.log.Records assembly.history ∧
    (assembly.log.extend other.log).Records (assembly.history ++ other.history) ∧
    (∀ third : LogAssembly, (assembly.log.extend other.log).extend third.log =
      assembly.log.extend (other.log.extend third.log)) ∧
    assembly.log.extend .empty = assembly.log ∧
    DiagnosticLog.empty.extend assembly.log = assembly.log ∧
    ∀ bound,
      (extend assembly other).logWithin bound =
        (oneByOne (assembly.history ++ other.history)).logWithin bound ∧
      ((extend assembly other).logWithin bound = none ↔
        bound < (assembly.history ++ other.history).countP (·.isError) ∨
          bound < (assembly.history ++ other.history).countP (!·.isError)) := by
  have records := assembly.records
  have others := other.records
  have extended := records.extend others
  have pushed := (oneByOne (assembly.history ++ other.history)).records
  rw [history_oneByOne] at pushed
  obtain ⟨errors, warnings⟩ := others.kept_le
  refine ⟨errors, warnings, extended.unique (records.pushAll other.history),
    extended.unique pushed, records, extended, ?_, ?_, ?_, ?_⟩
  · intro third
    have left := extended.extend third.records
    rw [List.append_assoc] at left
    exact left.unique (records.extend (others.extend third.records))
  · have alone := records.extend records_empty
    rw [List.append_nil] at alone
    exact alone.unique records
  · exact (records_empty.extend records).unique records
  · intro bound
    exact ⟨logWithin_congr (history_oneByOne _).symm bound, logWithin_eq_none_iff⟩

end LogAssembly

end GuestGlue
