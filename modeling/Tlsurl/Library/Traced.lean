import Mathlib.Tactic.TypeStar

/-! Computations that perform steps, any of which may fail, and what holds of their histories.
A history lists the steps from the newest one on; a step that failed is in it as well.
-/

namespace Tlsurl.Library

/-- A computation over a history that returns a value or stops with an error -/
def Traced (Step ε α : Type) : Type := List Step → Except ε α × List Step

namespace Traced

variable {Step ε ε' α β : Type}

/-- The rest of a computation, if it has not stopped -/
def andThen (first : Traced Step ε α) (second : α → Traced Step ε β) : Traced Step ε β :=
  fun history =>
    match first history with
    | (.ok value, later) => second value later
    | (.error error, later) => (.error error, later)

instance : Monad (Traced Step ε) where
  pure value := fun history => (.ok value, history)
  bind := andThen

/-- Stops with an error. -/
def stop (error : ε) : Traced Step ε α := fun history => (.error error, history)

/-- Performs a step, which the world may let fail after what was performed before. -/
def perform (world : List Step → Step → Option ε) (step : Step) : Traced Step ε Unit :=
  fun history =>
    match world history step with
    | none => (.ok (), step :: history)
    | some error => (.error error, step :: history)

/-- `Result::map_err` -/
def mapErr (change : ε → ε') (run : Traced Step ε α) : Traced Step ε' α :=
  fun history =>
    match run history with
    | (.ok value, later) => (.ok value, later)
    | (.error error, later) => (.error (change error), later)

/-- From a history as required, the computation returns a value as ensured, or stops; the history
is then as it always is.
-/
def Ensures (required : List Step → Prop) (run : Traced Step ε α)
    (ensured : α → List Step → Prop) (always : List Step → Prop)
    : Prop :=
  ∀ history, required history →
    match run history with
    | (.ok value, later) => ensured value later
    | (.error _, later) => always later

variable {required always : List Step → Prop}

theorem Ensures.pure {ensured : α → List Step → Prop} {value : α}
    (holds : ∀ history, required history → ensured value history)
    : Ensures required (Pure.pure value : Traced Step ε α) ensured always :=
  holds

theorem Ensures.stop {ensured : α → List Step → Prop} {error : ε}
    (holds : ∀ history, required history → always history)
    : Ensures required (Traced.stop error : Traced Step ε α) ensured always :=
  holds

/-- What a step needs ensures what holds after it, whether it fails or not. -/
theorem Ensures.perform {ensured : Unit → List Step → Prop}
    {world : List Step → Step → Option ε} {step : Step}
    (holds : ∀ history, required history
      → always (step :: history) ∧ ensured () (step :: history))
    : Ensures required (Traced.perform world step) ensured always := by
  intro history start
  rw [Traced.perform]
  cases world history step with
  | none => exact (holds history start).2
  | some error => exact (holds history start).1

/-- The same where what holds after the step rests on the world having let it succeed -/
theorem Ensures.performed {ensured : Unit → List Step → Prop}
    {world : List Step → Step → Option ε} {step : Step}
    (holds : ∀ history, required history
      → always (step :: history)
        ∧ (world history step = none → ensured () (step :: history)))
    : Ensures required (Traced.perform world step) ensured always := by
  intro history start
  rw [Traced.perform]
  cases outcome : world history step with
  | none => exact (holds history start).2 outcome
  | some error => exact (holds history start).1

/-- What the first part ensures is what the second one requires. -/
theorem Ensures.bind {first : Traced Step ε α} {second : α → Traced Step ε β}
    {ensured : β → List Step → Prop} (between : α → List Step → Prop)
    (one : Ensures required first between always)
    (two : ∀ value, Ensures (between value) (second value) ensured always)
    : Ensures required (first >>= second) ensured always := by
  intro history start
  have middle := one history start
  rw [show (first >>= second) history = andThen first second history from rfl, andThen]
  cases result : first history with
  | mk outcome later =>
      rw [result] at middle
      cases outcome with
      | error error => exact middle
      | ok value => exact two value later middle

theorem Ensures.mapErr {run : Traced Step ε α} {ensured : α → List Step → Prop}
    {change : ε → ε'} (holds : Ensures required run ensured always)
    : Ensures required (run.mapErr change) ensured always := by
  intro history start
  have same := holds history start
  rw [Traced.mapErr]
  cases result : run history with
  | mk outcome later =>
      rw [result] at same
      cases outcome <;> exact same

/-- A computation may be started from less and leave less. -/
theorem Ensures.weaken {run : Traced Step ε α} {needed : List Step → Prop}
    {ensured wanted : α → List Step → Prop}
    (holds : Ensures needed run ensured always)
    (start : ∀ history, required history → needed history)
    (finish : ∀ value history, ensured value history → wanted value history)
    : Ensures required run wanted always := by
  intro history given
  have same := holds history (start history given)
  cases result : run history with
  | mk outcome later =>
      rw [result] at same
      cases outcome with
      | error error => exact same
      | ok value => exact finish value later same

/-- What does not depend on the history may be assumed of the computation. -/
theorem Ensures.assume {run : Traced Step ε α} {ensured : α → List Step → Prop} {fact : Prop}
    (holds : fact → Ensures required run ensured always)
    : Ensures (fun history => required history ∧ fact) run ensured always :=
  fun history start => holds start.2 history start.1

/-- What holds always and of every value returned holds of the history in the end. -/
theorem Ensures.history {run : Traced Step ε α}
    (holds : Ensures required run (fun _ => always) always) {history : List Step}
    (start : required history)
    : always (run history).2 := by
  have finish := holds history start
  cases result : run history with
  | mk outcome later =>
      rw [result] at finish
      cases outcome <;> exact finish

-----------------------------------------------------------------------------------------
-- What a computation stops with
-----------------------------------------------------------------------------------------

/-- From a history as required, the computation returns a value as ensured, or stops with an error
and a history as raised.
-/
def Settles (required : List Step → Prop) (run : Traced Step ε α)
    (ensured : α → List Step → Prop) (raised : ε → List Step → Prop)
    : Prop :=
  ∀ history, required history →
    match run history with
    | (.ok value, later) => ensured value later
    | (.error error, later) => raised error later

variable {raised : ε → List Step → Prop}

theorem Settles.pure {ensured : α → List Step → Prop} {value : α}
    (holds : ∀ history, required history → ensured value history)
    : Settles required (Pure.pure value : Traced Step ε α) ensured raised :=
  holds

theorem Settles.stop {ensured : α → List Step → Prop} {error : ε}
    (holds : ∀ history, required history → raised error history)
    : Settles required (Traced.stop error : Traced Step ε α) ensured raised :=
  holds

/-- A step succeeds, or stops the computation with the error that the world has for it. -/
theorem Settles.perform {ensured : Unit → List Step → Prop}
    {world : List Step → Step → Option ε} {step : Step}
    (succeeds : ∀ history, required history → ensured () (step :: history))
    (fails : ∀ history error, required history → world history step = some error →
      raised error (step :: history))
    : Settles required (Traced.perform world step) ensured raised := by
  intro history start
  rw [Traced.perform]
  cases outcome : world history step with
  | none => exact succeeds history start
  | some error => exact fails history error start outcome

theorem Settles.bind {first : Traced Step ε α} {second : α → Traced Step ε β}
    {ensured : β → List Step → Prop} (between : α → List Step → Prop)
    (one : Settles required first between raised)
    (two : ∀ value, Settles (between value) (second value) ensured raised)
    : Settles required (first >>= second) ensured raised := by
  intro history start
  have middle := one history start
  rw [show (first >>= second) history = andThen first second history from rfl, andThen]
  cases result : first history with
  | mk outcome later =>
      rw [result] at middle
      cases outcome with
      | error error => exact middle
      | ok value => exact two value later middle

/-- An error is raised as it was before the change. -/
theorem Settles.mapErr {run : Traced Step ε α} {ensured : α → List Step → Prop}
    {change : ε → ε'} {changed : ε' → List Step → Prop}
    (holds : Settles required run ensured (fun error => changed (change error)))
    : Settles required (run.mapErr change) ensured changed := by
  intro history start
  have same := holds history start
  rw [Traced.mapErr]
  cases result : run history with
  | mk outcome later =>
      rw [result] at same
      cases outcome <;> exact same

theorem Settles.weaken {run : Traced Step ε α} {needed : List Step → Prop}
    {ensured wanted : α → List Step → Prop} {shown : ε → List Step → Prop}
    (holds : Settles needed run ensured raised)
    (start : ∀ history, required history → needed history)
    (finish : ∀ value history, ensured value history → wanted value history)
    (failed : ∀ error history, raised error history → shown error history)
    : Settles required run wanted shown := by
  intro history given
  have same := holds history (start history given)
  cases result : run history with
  | mk outcome later =>
      rw [result] at same
      cases outcome with
      | error error => exact failed error later same
      | ok value => exact finish value later same

/-- What is raised of every error holds of the error a computation stopped with. -/
theorem Settles.error {run : Traced Step ε α} {ensured : α → List Step → Prop}
    (holds : Settles required run ensured raised) {history later : List Step} {error : ε}
    (start : required history) (stopped : run history = (.error error, later))
    : raised error later := by
  have finish := holds history start
  rw [stopped] at finish
  exact finish

-----------------------------------------------------------------------------------------
-- Computations that differ in their errors
-----------------------------------------------------------------------------------------

/-- Two computations perform the same steps and return the same values. -/
def Mirrors (first : Traced Step ε α) (second : Traced Step ε' α) : Prop :=
  ∀ history, (first history).2 = (second history).2
    ∧ (first history).1.toOption = (second history).1.toOption

theorem Mirrors.refl (run : Traced Step ε α) : Mirrors run run := fun _ => ⟨rfl, rfl⟩

theorem Mirrors.symm {first : Traced Step ε α} {second : Traced Step ε' α}
    (mirrors : Mirrors first second)
    : Mirrors second first :=
  fun history => ⟨(mirrors history).1.symm, (mirrors history).2.symm⟩

theorem Mirrors.stop (first : ε) (second : ε')
    : Mirrors (Traced.stop first : Traced Step ε α) (Traced.stop second) :=
  fun _ => ⟨rfl, rfl⟩

theorem Mirrors.mapErr {first : Traced Step ε α} {second : Traced Step ε' α} {δ : Type}
    (mirrors : Mirrors first second) (change : ε → δ)
    : Mirrors (first.mapErr change) second := by
  intro history
  have same := mirrors history
  rw [Traced.mapErr]
  cases result : first history with
  | mk outcome later =>
      rw [result] at same
      cases outcome <;> exact same

theorem Mirrors.bind {first : Traced Step ε α} {second : Traced Step ε' α}
    {one : α → Traced Step ε β} {two : α → Traced Step ε' β} (mirrors : Mirrors first second)
    (rest : ∀ value, Mirrors (one value) (two value))
    : Mirrors (first >>= one) (second >>= two) := by
  intro history
  have same := mirrors history
  rw [show (first >>= one) history = andThen first one history from rfl,
    show (second >>= two) history = andThen second two history from rfl, andThen, andThen]
  cases left : first history with
  | mk outcome later =>
      cases right : second history with
      | mk other after =>
          rw [left, right] at same
          obtain rfl : later = after := same.1
          cases outcome with
          | error error =>
              cases other with
              | error _ => exact ⟨rfl, rfl⟩
              | ok value => cases same.2
          | ok value =>
              cases other with
              | error _ => cases same.2
              | ok _ =>
                  obtain rfl := Option.some.inj same.2
                  exact rest value later

end Traced

end Tlsurl.Library
