/-
Builds that complete on a disk.  A completed program is taken apart step by step;
a step that fails ends the program, so every step on the way has completed too.
-/

import GuestGlue.Build.Reconcile
import GuestGlue.Proofs.Files.States

namespace GuestGlue

namespace Reconcile

variable {α β : Type} {disk after : Disk}

/-- The program gives the answer on the one disk and leaves the other. -/
def Completes (program : BuildM DiskM α) (disk : Disk) (answer : α) (after : Disk) : Prop :=
  program.run disk = (.ok answer, after)

theorem completes_pure_iff {value answer : α} :
    Completes (pure value) disk answer after ↔ answer = value ∧ after = disk := by
  change ((Except.ok value : Except BuildError α), disk) = (.ok answer, after) ↔ _
  simp only [Prod.mk.injEq, Except.ok.injEq, eq_comm]

theorem not_completes_throw {error : BuildError} {answer : α} :
    ¬Completes (throw error) disk answer after := by
  intro completed
  change ((Except.error error : Except BuildError α), disk) = (.ok answer, after) at completed
  cases completed

section Runs

variable {σ ε : Type} {program : ExceptT ε (StateM σ) α} {state middle after : σ}

theorem run_bind_of_ok {value : α} (ran : program.run state = (.ok value, middle))
    (next : α → ExceptT ε (StateM σ) β) :
    (program >>= next).run state = (next value).run middle := by
  change ExceptT.bindCont next (program.run state).1 (program.run state).2 = _
  rw [ran]
  rfl

theorem run_bind_of_error {error : ε} (ran : program.run state = (.error error, middle))
    (next : α → ExceptT ε (StateM σ) β) :
    (program >>= next).run state = (.error error, middle) := by
  change ExceptT.bindCont next (program.run state).1 (program.run state).2 = _
  rw [ran]
  rfl

theorem run_bind_ok_iff {next : α → ExceptT ε (StateM σ) β} {answer : β} :
    (program >>= next).run state = (.ok answer, after) ↔
      ∃ value middle, program.run state = (.ok value, middle) ∧
        (next value).run middle = (.ok answer, after) := by
  constructor
  · intro completed
    cases ran : program.run state with
    | mk outcome middle =>
        cases outcome with
        | error error =>
            rw [run_bind_of_error ran] at completed
            cases completed
        | ok value =>
            rw [run_bind_of_ok ran] at completed
            exact ⟨value, middle, rfl, completed⟩
  · rintro ⟨value, middle, ran, completed⟩
    rw [run_bind_of_ok ran]
    exact completed

theorem run_lift_ok_iff {program : StateM σ α} {answer : α} :
    (liftM program : ExceptT ε (StateM σ) α).run state = (.ok answer, after) ↔
      program state = (answer, after) := by
  change ((Except.ok (program state).1 : Except ε α), (program state).2) = (.ok answer, after) ↔ _
  rw [Prod.mk.injEq, Except.ok.injEq, Prod.ext_iff]

theorem run_onPath_ok_iff [FileSystem (StateM σ)] {path : Path}
    {operation : StateM σ (Except FileError α)} {answer : α} :
    (onPath path operation).run state = (.ok answer, after) ↔
      operation state = (.ok answer, after) := by
  unfold onPath
  change ((operation >>= _ : StateM σ (Except BuildError α)) state) = _ ↔ _
  rw [bind_apply]
  rcases operation state with ⟨error | value, middle⟩
  · constructor
    · intro completed
      cases completed
    · intro same
      cases same
  · constructor
    · intro completed
      cases completed
      rfl
    · intro same
      cases same
      rfl

end Runs

theorem completes_bind_iff {program : BuildM DiskM α} {next : α → BuildM DiskM β} {answer : β} :
    Completes (program >>= next) disk answer after ↔
      ∃ value middle, Completes program disk value middle ∧ Completes (next value) middle answer after :=
  run_bind_ok_iff

theorem Completes.bind {program : BuildM DiskM α} {next : α → BuildM DiskM β} {value : α}
    {answer : β} {middle : Disk} (first : Completes program disk value middle)
    (second : Completes (next value) middle answer after) :
    Completes (program >>= next) disk answer after :=
  completes_bind_iff.mpr ⟨value, middle, first, second⟩

theorem completes_lift_iff {program : DiskM α} {answer : α} :
    Completes (liftM program) disk answer after ↔ program disk = (answer, after) :=
  run_lift_ok_iff

theorem completes_onPath_iff {path : Path} {operation : DiskM (Except FileError α)} {answer : α} :
    Completes (onPath path operation) disk answer after ↔ operation disk = (.ok answer, after) :=
  run_onPath_ok_iff

/-! ### What a program keeps -/

section States

variable {σ ε : Type} {state : σ}

theorem run_onPath_snd [FileSystem (StateM σ)] (path : Path)
    (operation : StateM σ (Except FileError α)) :
    ((onPath path operation).run state).2 = (operation state).2 := by
  unfold onPath
  change ((operation >>= _ : StateM σ (Except BuildError α)) state).2 = _
  rw [bind_apply]
  cases (operation state).1 <;> rfl

/-- A program ends with its first step or with what follows on it. -/
theorem run_bind_snd {property : σ → Prop} {program : ExceptT ε (StateM σ) α}
    {next : α → ExceptT ε (StateM σ) β} (first : property (program.run state).2)
    (second : ∀ value middle, program.run state = (.ok value, middle) →
      property ((next value).run middle).2) :
    property ((program >>= next).run state).2 := by
  cases ran : program.run state with
  | mk outcome middle =>
      cases outcome with
      | error error =>
          rw [run_bind_of_error ran]
          rwa [ran] at first
      | ok value =>
          rw [run_bind_of_ok ran]
          exact second value middle ran

/-- However the program ends, it does so in a state with the property if it starts in one. -/
def Keeps (property : σ → Prop) (program : ExceptT ε (StateM σ) α) : Prop :=
  ∀ state, property state → property (program.run state).2

theorem run_bind_keeps {property : σ → Prop} {program : ExceptT ε (StateM σ) α}
    {next : α → ExceptT ε (StateM σ) β} (first : property (program.run state).2)
    (second : ∀ value, Keeps property (next value)) :
    property ((program >>= next).run state).2 := by
  apply run_bind_snd first
  intro value middle ran
  rw [ran] at first
  exact second value middle first

namespace Keeps

variable {property : σ → Prop} {program : ExceptT ε (StateM σ) α}

theorem completes {program : BuildM DiskM α} {property : Disk → Prop} {answer : α}
    (keeps : Keeps property program) (before : property disk)
    (completed : Completes program disk answer after) : property after := by
  have kept := keeps disk before
  rwa [completed] at kept

theorem pure (value : α) : Keeps property (Pure.pure value : ExceptT ε (StateM σ) α) :=
  fun _ before => before

theorem throw (error : ε) : Keeps property (MonadExcept.throw error : ExceptT ε (StateM σ) α) :=
  fun _ before => before

theorem lift {program : StateM σ α} (step : ∀ state, property state → property (program state).2) :
    Keeps property (liftM program : ExceptT ε (StateM σ) α) :=
  step

theorem onPath [FileSystem (StateM σ)] (path : Path) {operation : StateM σ (Except FileError α)}
    (step : ∀ state, property state → property (operation state).2) :
    Keeps property (onPath path operation) := by
  intro state before
  rw [run_onPath_snd]
  exact step state before

theorem bind {next : α → ExceptT ε (StateM σ) β} (first : Keeps property program)
    (second : ∀ value, Keeps property (next value)) : Keeps property (program >>= next) :=
  fun state before => run_bind_keeps (first state before) second

end Keeps

end States

end Reconcile

end GuestGlue
