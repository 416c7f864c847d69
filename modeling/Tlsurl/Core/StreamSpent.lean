import Tlsurl.Core.Collect
import Tlsurl.Core.StreamOwner

/-! What a streamed response still has to give.
Once its token is cancelled, or its body is gone for good, no read that begins gets a chunk.
-/

namespace Tlsurl.Core.Stream

open Library

variable {Body : Type}

/-- The close that an event advances. -/
def Event.closer : Event → Option Nat
  | .cancel id => some id
  | .tryLock id => some id
  | .clear id => some id
  | .unlock id => some id
  | _ => none

/-- The body is gone: it is not in the slot, and no read has it. -/
def State.Spent (state : State Body) : Prop :=
  state.body = none ∧ ∀ id, (state.reads id).owns = false

/-- There is nothing for a read that begins. -/
def State.Barren (state : State Body) : Prop := state.cancellation = true ∨ state.Spent

/-- A read past this point of its way returns no chunk. Where it is about to look into the slot,
nobody has put the body there.
-/
def ReadPhase.fruitless (spent : Prop) : ReadPhase Body → Prop
  | .selecting _ => False
  | .polling _ => False
  | .suspended _ => False
  | .checking _ _ => False
  | .storing _ _ => False
  | .returning (.ok (some _)) => False
  | .taking => spent
  | _ => True

theorem ReadPhase.fruitless.mono {before after : Prop} {phase : ReadPhase Body}
    (fruitless : phase.fruitless before) (still : before → after)
    : phase.fruitless after := by
  cases phase with
  | taking => exact still fruitless
  | returning result => rcases result with error | (_ | chunk) <;> exact fruitless
  | _ => exact fruitless

-----------------------------------------------------------------------------------------
-- What a step does
-----------------------------------------------------------------------------------------

/-- How a read goes on to a phase, leaving this in the slot: it puts back what it owns, owns what
it has taken out, reports the end only of a body that it has seen go, and finds nothing in a
response that is barren.
-/
structure Advance (state : State Body) (id : Nat) (phase : ReadPhase Body) (body : Option Body)
    : Prop where
  slot : (state.reads id).owns = false → state.body = none → body = none
  owner : (state.reads id).owns = false → state.body = none → phase.owns = false
  ending
    : phase = .returning (.ok none)
      → (state.reads id).station = .inside ∧ state.body = none ∧ body = none
  yields
    : state.Barren → (state.reads id).fruitless state.Spent → phase.fruitless state.Spent

section Steps

variable {poll : Body → Polled → Body → Prop} {state next : State Body} {event : Event}

/-- What a read does in a step -/
theorem Step.advance {id : Nat} (step : Step poll state event next) (owned : state.Owned)
    (advances : event.reader = some id)
    : ∃ phase body lock,
      next = { state with body, lock }.setRead id phase ∧ Advance state id phase body := by
  cases event with
  | beginLock _ =>
      cases advances
      obtain ⟨here, rfl⟩ := step
      unfold State.beginLock
      split
      · refine ⟨_, _, _, rfl, ?_⟩
        constructor <;> simp [ReadPhase.owns, ReadPhase.fruitless]
      · refine ⟨_, _, _, rfl, ?_⟩
        constructor <;> simp [ReadPhase.owns, ReadPhase.fruitless]
  | locked _ =>
      cases advances
      obtain ⟨here, _, rfl⟩ := step
      refine ⟨_, _, state.lock, rfl, ?_⟩
      constructor <;> simp [ReadPhase.owns, ReadPhase.fruitless]
  | checkToken _ =>
      cases advances
      obtain ⟨here, rfl⟩ := step
      refine ⟨_, _, state.lock, rfl, ?_⟩
      cases token : state.cancellation
      · constructor <;> simp [ReadPhase.owns, ReadPhase.fruitless, State.Barren, token]
        exact fun spent _ => spent
      · constructor <;> simp [ReadPhase.owns, ReadPhase.fruitless]
  | clearRead _ =>
      cases advances
      obtain ⟨here, rfl⟩ := step
      refine ⟨_, none, state.lock, rfl, ?_⟩
      constructor <;> simp [ReadPhase.owns, ReadPhase.fruitless]
  | take _ =>
      cases advances
      obtain ⟨here, rfl⟩ := step
      unfold State.take
      cases slot : state.body with
      | none =>
          refine ⟨.returning (.ok none), state.body, state.lock, rfl, ?_⟩
          constructor <;> simp [ReadPhase.owns, ReadPhase.fruitless, ReadPhase.station, here, slot]
      | some stream =>
          refine ⟨.selecting stream, none, state.lock, rfl, ?_⟩
          constructor <;> simp [ReadPhase.fruitless, State.Spent, here, slot]
  | wake _ =>
      cases advances
      obtain ⟨_, here, rfl⟩ := step
      refine ⟨_, state.body, state.lock, rfl, ?_⟩
      constructor <;> simp [ReadPhase.owns, ReadPhase.fruitless, here]
  | select _ =>
      cases advances
      obtain ⟨_, here, rfl⟩ := step
      refine ⟨_, state.body, state.lock, rfl, ?_⟩
      constructor <;> simp [ReadPhase.owns, ReadPhase.fruitless, here]
      split <;> simp
  | poll _ answer =>
      cases advances
      obtain ⟨_, _, here, _, rfl⟩ := step
      refine ⟨_, state.body, state.lock, rfl, ?_⟩
      constructor <;> simp [ReadPhase.owns, ReadPhase.fruitless, here]
      split <;> simp
  | recheck _ =>
      cases advances
      obtain ⟨_, _, here, rfl⟩ := step
      have empty : state.body = none := owned.owner id (by simp [here, ReadPhase.owns])
      refine ⟨_, state.body, state.lock, rfl, ?_⟩
      constructor <;>
        simp [ReadPhase.owns, ReadPhase.fruitless, ReadPhase.station, here, empty]
  | store _ =>
      cases advances
      obtain ⟨stream, _, here, rfl⟩ := step
      refine ⟨_, some stream, state.lock, rfl, ?_⟩
      constructor <;> simp [ReadPhase.owns, ReadPhase.fruitless, here]
  | ret _ result =>
      cases advances
      obtain ⟨_, rfl⟩ := step
      refine ⟨.gone, state.body, _, rfl, ?_⟩
      constructor <;> simp [ReadPhase.owns, ReadPhase.fruitless]
  | dropLocking _ =>
      cases advances
      obtain ⟨_, rfl⟩ := step
      refine ⟨.gone, state.body, _, rfl, ?_⟩
      constructor <;> simp [ReadPhase.owns, ReadPhase.fruitless]
  | dropSuspended _ =>
      cases advances
      obtain ⟨_, _, rfl⟩ := step
      refine ⟨.gone, state.body, _, rfl, ?_⟩
      constructor <;> simp [ReadPhase.owns, ReadPhase.fruitless]
  | cancel _ => cases advances
  | tryLock _ => cases advances
  | clear _ => cases advances
  | unlock _ => cases advances

/-- What a step of a close leaves as it is -/
theorem Step.unread (step : Step poll state event next) (closes : event.reader = none)
    : next.reads = state.reads ∧ (next.body = state.body ∨ next.body = none)
      ∧ (state.cancellation = true → next.cancellation = true) := by
  cases event with
  | cancel id =>
      obtain ⟨_, rfl⟩ := step
      exact ⟨rfl, .inl rfl, fun _ => rfl⟩
  | tryLock id =>
      obtain ⟨_, rfl⟩ := step
      unfold State.tryLock
      split <;> exact ⟨rfl, .inl rfl, fun token => token⟩
  | clear id =>
      obtain ⟨_, rfl⟩ := step
      exact ⟨rfl, .inr rfl, fun token => token⟩
  | unlock id =>
      obtain ⟨_, rfl⟩ := step
      exact ⟨rfl, .inl rfl, fun token => token⟩
  | _ => cases closes

/-- An event leaves the reads that it is not of. -/
theorem Step.reads_eq (step : Step poll state event next) (owned : state.Owned) {other : Nat}
    (others : event.reader ≠ some other)
    : next.reads other = state.reads other := by
  cases advances : event.reader with
  | none => rw [(step.unread advances).1]
  | some id =>
      obtain ⟨phase, body, lock, rfl, _⟩ := step.advance owned advances
      have different : other ≠ id := fun same => others (by rw [advances, same])
      simp [State.setRead, different]

/-- The token stays cancelled. -/
theorem Step.cancelled (step : Step poll state event next) (owned : state.Owned)
    (token : state.cancellation = true)
    : next.cancellation = true := by
  cases advances : event.reader with
  | none => exact (step.unread advances).2.2 token
  | some id =>
      obtain ⟨phase, body, lock, rfl, _⟩ := step.advance owned advances
      exact token

-----------------------------------------------------------------------------------------
-- A body that is gone
-----------------------------------------------------------------------------------------

/-- Where the slot is empty and no other read owns the body, it is gone after a step of a read
that leaves it so.
-/
theorem spent_setRead {id : Nat} {phase : ReadPhase Body} (lock : FairLock Task)
    (without : phase.owns = false)
    (others : ∀ other, other ≠ id → (state.reads other).owns = false)
    : ({ state with body := none, lock }.setRead id phase).Spent := by
  refine ⟨rfl, fun other => ?_⟩
  by_cases same : other = id
  · simpa [State.setRead, same] using without
  · simpa [State.setRead, same] using others other same

/-- What is spent stays so. -/
theorem Step.spent (step : Step poll state event next) (owned : state.Owned)
    (spent : state.Spent)
    : next.Spent := by
  cases advances : event.reader with
  | none =>
      obtain ⟨reads, slot, _⟩ := step.unread advances
      refine ⟨?_, fun id => by rw [reads]; exact spent.2 id⟩
      rcases slot with kept | cleared
      · exact kept.trans spent.1
      · exact cleared
  | some id =>
      obtain ⟨phase, body, lock, rfl, advance⟩ := step.advance owned advances
      obtain rfl := advance.slot (spent.2 id) spent.1
      exact spent_setRead lock (advance.owner (spent.2 id) spent.1) (fun other _ => spent.2 other)

/-- What is barren stays so. -/
theorem Step.barren (step : Step poll state event next) (owned : state.Owned)
    (barren : state.Barren)
    : next.Barren :=
  barren.imp (step.cancelled owned) (step.spent owned)

/-- A read that is to report the end has seen the body go. -/
def State.EndsSpent (state : State Body) : Prop :=
  ∀ id, state.reads id = .returning (.ok none) → state.Spent

/-- Each step keeps it so. -/
theorem Step.endsSpent (step : Step poll state event next) (owned : state.Owned)
    (ends : state.EndsSpent)
    : next.EndsSpent := by
  intro id reports
  by_cases here : event.reader = some id
  · obtain ⟨phase, body, lock, rfl, advance⟩ := step.advance owned here
    have ending : phase = .returning (.ok none) := by simpa [State.setRead] using reports
    obtain ⟨inside, empty, rfl⟩ := advance.ending ending
    refine spent_setRead lock (by rw [ending]; rfl) (fun other different => ?_)
    cases owns : (state.reads other).owns with
    | false => rfl
    | true =>
        have mine : state.station (.read id) = .inside := inside
        have also : state.station (.read other) = .inside := inside_of_owns owns
        cases owned.tracks.exclusive mine also
        exact absurd rfl different
  · exact step.spent owned (ends id ((step.reads_eq owned here).symm.trans reports))

/-- A read that began on a barren response goes on without a chunk. -/
theorem Step.fruitless (step : Step poll state event next) (owned : state.Owned)
    (barren : state.Barren) {id : Nat} (fruitless : (state.reads id).fruitless state.Spent)
    : (next.reads id).fruitless next.Spent := by
  by_cases here : event.reader = some id
  · obtain ⟨phase, body, lock, same, advance⟩ := step.advance owned here
    have place : next.reads id = phase := by simp [same, State.setRead]
    rw [place]
    exact (advance.yields barren fruitless).mono (step.spent owned)
  · rw [step.reads_eq owned here]
    exact fruitless.mono (step.spent owned)

end Steps

end Tlsurl.Core.Stream
