import Tlsurl.Bindings.Cancellation

/-! Who listens to an abort signal.
An operation listens while it may still have something to cancel: until its promise is rejected or
answered, or until the response it handed over has ended, failed or been closed.
-/

namespace Tlsurl.Bindings

open Tlsurl.Library Tlsurl.Core

variable {Body : Type}

-----------------------------------------------------------------------------------------
-- What the invariant says
-----------------------------------------------------------------------------------------

/-- The operation that a program is done with, by this event: its response was read to the end, a
read of it failed, or it was closed.
-/
def Event.ends : Event Body → Option Nat
  | .deliver _ _ (.ok (some _)) _ => none
  | .deliver op _ _ _ => some op
  | .close op _ => some op
  | _ => none

/-- A program is done with an operation. -/
def Over (past : List (Event Body)) (op : Nat) : Prop := ∃ event ∈ past, event.ends = some op

/-- The `abort` of an operation listens. -/
def Page.Listening (page : Page Body) (op : Nat) : Prop :=
  ∃ signal, (page.operations op).signal = some signal ∧ op ∈ (page.signals signal).listeners

/-- Whether an operation waits for its native future -/
def Phase.waits : Phase → Bool
  | .awaiting _ => true
  | _ => false

/-- The response of an operation has nothing for a read that begins. -/
def Operation.Barren (operation : Operation Body) : Prop :=
  ∃ response, operation.response = some response ∧ response.Barren

/-- What holds of one operation: its response is in order, a call for a chunk that was not made
has no read, one that found the end has seen the body go, and there are calls only of a response
that was handed over.
-/
structure Operation.Sound (operation : Operation Body) : Prop where
  owned
    : ∀ response, operation.response = some response → response.Owned ∧ response.EndsSpent
  unread
    : ∀ response, operation.response = some response
      → ∀ id, operation.chunks id = .uncalled → response.reads id = .unpolled
  ended
    : ∀ id, operation.chunks id = .resolved (.ok none)
      → ∃ response, operation.response = some response ∧ response.Spent
  handed : operation.streamRef = true ↔ operation.phase = .streaming
  silent
    : operation.phase ≠ .streaming → ∀ id, operation.chunks id = .uncalled
  uncalled : operation.phase = .uncalled → operation = {}

/-- Where an operation stands with its signal, while the event loop does nothing for it. -/
def Operation.Stands (operation : Operation Body) (listening aborted firing isOver : Prop) : Prop :=
  match operation.phase with
  | .awaiting _ =>
      operation.signal ≠ none
        → (listening ∧ (aborted → firing ∨ operation.cancellation = true))
          ∨ (¬listening ∧ aborted ∧ operation.cancellation = true)
  | .streaming =>
      operation.signal ≠ none
        → (listening ∧ ¬isOver ∧ (aborted → firing))
          ∨ (¬listening ∧ (operation.lost = true ∨ operation.Barren) ∧ (isOver ∨ aborted))
  | _ => ¬listening

/-- This is the last job of an operation that hands nothing over; it answers only where its signal
is not aborted.
-/
def Job.Ends (job : Job) (page : Page Body) (op : Nat) : Prop :=
  (job = .answer op ∧ page.aborted op = false) ∨ ∃ error, job = .reject op error

/-- What the event loop may be doing, and what it has made sure of. -/
inductive Doing (past : List (Event Body)) (page : Page Body) : List Job → Prop
  | idle : Doing past page []
  | abort {op} (gone : ¬page.Listening op) (aborted : page.aborted op = true)
    (phase
      : (page.operations op).phase.waits = true ∨ (page.operations op).phase = .streaming)
    : Doing past page [.cancel op, .deref op]
  | deref {op} (gone : ¬page.Listening op) (aborted : page.aborted op = true)
    (phase
      : (page.operations op).phase.waits = true ∨ (page.operations op).phase = .streaming)
    (cancelled : (page.operations op).cancellation = true)
    : Doing past page [.deref op]
  | closeFound {op id} (gone : ¬page.Listening op) (aborted : page.aborted op = true)
    (streams : (page.operations op).phase = .streaming)
    : Doing past page [.close op id]
  | refuse {op id job} (waits : (page.operations op).phase.waits = true) (ends : job.Ends page op)
    : Doing past page [.close op id, .cleanup op, job]
  | leave {op job} (waits : (page.operations op).phase.waits = true) (ends : job.Ends page op)
    : Doing past page [.cleanup op, job]
  | finish {op job} (gone : ¬page.Listening op) (waits : (page.operations op).phase.waits = true)
    (ends : job.Ends page op)
    : Doing past page [job]
  | hand {op} (waits : (page.operations op).phase.waits = true) (aborted : page.aborted op = false)
    (listening : (page.operations op).signal ≠ none → page.Listening op) (going : ¬Over past op)
    : Doing past page [.hand op]
  | close {op id} (streams : (page.operations op).phase = .streaming) (isOver : Over past op)
    : Doing past page [.close op id, .cleanup op]
  | ended {op} (streams : (page.operations op).phase = .streaming) (isOver : Over past op)
    (barren : (page.operations op).Barren)
    : Doing past page [.cleanup op]

/-- What holds in every page that is reached. -/
structure Page.Sound (past : List (Event Body)) (page : Page Body) : Prop where
  distinct : ∀ signal, (page.signals signal).listeners.Nodup
  listed
    : ∀ signal op, op ∈ (page.signals signal).listeners
      → (page.operations op).signal = some signal
  operations : ∀ op, (page.operations op).Sound
  fired : ∀ op ∈ page.firing, page.aborted op = true
  streamed : ∀ op, Over past op → (page.operations op).phase = .streaming
  stands
    : ∀ op, (∀ job ∈ page.jobs, job.op ≠ op)
      → (page.operations op).Stands (page.Listening op) (page.aborted op = true)
        (op ∈ page.firing) (Over past op)
  doing : Doing past page page.jobs

-----------------------------------------------------------------------------------------
-- What an operation knows of its signal
-----------------------------------------------------------------------------------------

theorem over_append {past : List (Event Body)} {event : Event Body} {op : Nat}
    : Over (past ++ [event]) op ↔ Over past op ∨ event.ends = some op := by
  simp [Over, or_and_right, exists_or]

theorem Job.Ends.op_eq {page : Page Body} {op : Nat} {job : Job} (ends : job.Ends page op)
    : job.op = op := by
  obtain ⟨rfl, _⟩ | ⟨error, rfl⟩ := ends <;> rfl

theorem Job.Ends.mono {page next : Page Body} {op : Nat} {job : Job} (ends : job.Ends page op)
    (aborts : next.aborted op = page.aborted op)
    : job.Ends next op :=
  ends.imp_left (And.imp_right aborts.trans)

/-- An operation goes on without hearing of its signal. -/
structure Operation.Onward (before after : Operation Body) : Prop where
  signal : after.signal = before.signal
  cancellation : after.cancellation = before.cancellation
  lost : before.lost = true → after.lost = true
  phase : after.phase = before.phase ∨ (before.phase.waits = true ∧ after.phase.waits = true)
  barren : before.phase = .streaming → before.Barren → after.Barren

theorem Operation.Onward.refl (operation : Operation Body) : operation.Onward operation :=
  ⟨rfl, rfl, id, .inl rfl, fun _ => id⟩

/-- A phase of waiting is one of `awaiting`. -/
theorem Phase.waits_iff {phase : Phase}
    : phase.waits = true ↔ ∃ future, phase = .awaiting future := by
  cases phase <;> simp [Phase.waits]

namespace Operation.Onward

variable {before after : Operation Body}

theorem waits (onward : before.Onward after) (waits : before.phase.waits = true)
    : after.phase.waits = true := by
  rcases onward.phase with same | both
  · rwa [same]
  · exact both.2

theorem streaming (onward : before.Onward after) (streams : before.phase = .streaming)
    : after.phase = .streaming := by
  rcases onward.phase with same | both
  · rwa [same]
  · simp [streams, Phase.waits] at both

/-- Where it stands with its signal does not change, unless the signal does. -/
theorem stands (onward : before.Onward after) {listening listening' aborted aborted' : Prop}
    {firing firing' isOver isOver' : Prop} (stands : before.Stands listening aborted firing isOver)
    (listens : listening' ↔ listening) (aborts : aborted' ↔ aborted) (fires : firing → firing')
    (ends : isOver' ↔ isOver)
    : after.Stands listening' aborted' firing' isOver' := by
  unfold Operation.Stands at stands ⊢
  rw [listens, aborts, ends]
  rcases onward.phase with same | ⟨waited, waits⟩
  · rw [same]
    cases phase : before.phase with
    | awaiting future =>
        rw [phase] at stands
        simp only [onward.signal, onward.cancellation] at stands ⊢
        exact fun watched => (stands watched).imp_left
          (fun ⟨listens, fired⟩ => ⟨listens, fun aborted => (fired aborted).imp_left fires⟩)
    | streaming =>
        rw [phase] at stands
        simp only [onward.signal] at stands ⊢
        intro watched
        rcases stands watched with ⟨listens, going, fired⟩ | ⟨gone, closed, reason⟩
        · exact .inl ⟨listens, going, fun aborted => fires (fired aborted)⟩
        · exact .inr ⟨gone, closed.imp onward.lost (onward.barren phase), reason⟩
    | _ => simpa [phase] using stands
  · obtain ⟨future, phase⟩ := Phase.waits_iff.mp waited
    obtain ⟨future', phase'⟩ := Phase.waits_iff.mp waits
    rw [phase] at stands
    rw [phase']
    simp only [onward.signal, onward.cancellation] at stands ⊢
    exact fun watched => (stands watched).imp_left
      (fun ⟨listens, fired⟩ => ⟨listens, fun aborted => (fired aborted).imp_left fires⟩)

end Operation.Onward

/-- It does not matter to an operation that does not listen whether it is to be called. -/
theorem Operation.Stands.deaf {operation : Operation Body} {listening aborted firing isOver : Prop}
    (stands : operation.Stands listening aborted firing isOver) (deaf : ¬listening) {firing' : Prop}
    : operation.Stands listening aborted firing' isOver := by
  unfold Operation.Stands at stands ⊢
  cases phase : operation.phase with
  | awaiting future =>
      simp only [phase] at stands ⊢
      exact fun watched => .inr ((stands watched).resolve_left (fun both => deaf both.1))
  | streaming =>
      simp only [phase] at stands ⊢
      exact fun watched => .inr ((stands watched).resolve_left (fun both => deaf both.1))
  | _ => exact deaf

/-- Between an operation and its signal nothing changes if neither does. -/
theorem listening_iff {page next : Page Body} {op : Nat}
    (signal : (next.operations op).signal = (page.operations op).signal)
    (members
      : ∀ signal, op ∈ (next.signals signal).listeners ↔ op ∈ (page.signals signal).listeners)
    : next.Listening op ↔ page.Listening op := by
  simp only [Page.Listening, signal, members]

theorem aborted_eq {page next : Page Body} {op : Nat}
    (signal : (next.operations op).signal = (page.operations op).signal)
    (flags : ∀ signal, (next.signals signal).aborted = (page.signals signal).aborted)
    : next.aborted op = page.aborted op := by
  simp only [Page.aborted, signal, flags]

/-- What the event loop has made sure of stays, as long as operations only go on. -/
theorem Doing.onward {past : List (Event Body)} {event : Event Body} {page next : Page Body}
    {jobs : List Job} (doing : Doing past page jobs)
    (onward : ∀ op, (page.operations op).Onward (next.operations op))
    (listens : ∀ op, next.Listening op ↔ page.Listening op)
    (aborts : ∀ op, next.aborted op = page.aborted op) (goes : event.ends = none)
    : Doing (past ++ [event]) next jobs := by
  have isOver {op : Nat} : Over (past ++ [event]) op ↔ Over past op := by
    rw [over_append, goes]
    simp
  cases doing with
  | idle => exact .idle
  | @abort op gone aborted phase =>
      exact .abort (gone ∘ (listens op).mp) ((aborts op).trans aborted)
        (phase.imp (onward op).waits (onward op).streaming)
  | @deref op gone aborted phase cancelled =>
      exact .deref (gone ∘ (listens op).mp) ((aborts op).trans aborted)
        (phase.imp (onward op).waits (onward op).streaming)
        ((onward op).cancellation.trans cancelled)
  | @closeFound op id gone aborted streams =>
      exact .closeFound (gone ∘ (listens op).mp) ((aborts op).trans aborted)
        ((onward op).streaming streams)
  | @refuse op id job waits ends =>
      exact .refuse ((onward op).waits waits) (ends.mono (aborts op))
  | @leave op job waits ends =>
      exact .leave ((onward op).waits waits) (ends.mono (aborts op))
  | @finish op job gone waits ends =>
      exact .finish (gone ∘ (listens op).mp) ((onward op).waits waits) (ends.mono (aborts op))
  | @hand op waits aborted listening going =>
      refine .hand ((onward op).waits waits) ((aborts op).trans aborted) ?_ (going ∘ isOver.mp)
      rw [(onward op).signal, listens op]
      exact listening
  | @close op id streams ended => exact .close ((onward op).streaming streams) (isOver.mpr ended)
  | @ended op streams ended barren =>
      exact .ended ((onward op).streaming streams) (isOver.mpr ended)
        ((onward op).barren streams barren)

/-- All jobs are for one operation. -/
theorem Doing.op_eq {past : List (Event Body)} {page : Page Body} {job : Job} {jobs : List Job}
    (doing : Doing past page (job :: jobs))
    : ∀ other ∈ jobs, other.op = job.op := by
  cases doing with
  | refuse _ ends =>
      intro other member
      rcases List.mem_cons.mp member with rfl | last
      · rfl
      · rw [List.mem_singleton.mp last]
        exact ends.op_eq
  | leave _ ends =>
      intro other member
      rw [List.mem_singleton.mp member]
      exact ends.op_eq
  | _ => simp [Job.op]

-----------------------------------------------------------------------------------------
-- The operations that an event is not of
-----------------------------------------------------------------------------------------

section Events

variable {past : List (Event Body)} {event : Event Body} {page next : Page Body}

/-- What an event of one operation leaves to the others: they are where they were, in the lists of
their signals too, and still to be called if they were.
-/
structure Apart (op : Nat) (page next : Page Body) : Prop where
  operations : ∀ other, other ≠ op → next.operations other = page.operations other
  members
    : ∀ other, other ≠ op → ∀ signal,
      other ∈ (next.signals signal).listeners ↔ other ∈ (page.signals signal).listeners
  flags : ∀ signal, (next.signals signal).aborted = (page.signals signal).aborted
  firing : ∀ other, other ≠ op → other ∈ page.firing → other ∈ next.firing

/-- The others stand where they stood. -/
theorem Page.Sound.others (sound : page.Sound past) {op : Nat} (apart : Apart op page next)
    (ends : ∀ other, event.ends = some other → other = op) (jobs : ∀ job ∈ page.jobs, job.op = op)
    {other : Nat} (different : other ≠ op)
    : (next.operations other).Stands (next.Listening other) (next.aborted other = true)
      (other ∈ next.firing) (Over (past ++ [event]) other) := by
  have same := apart.operations other different
  have idle : ∀ job ∈ page.jobs, job.op ≠ other :=
    fun job member busy => different (busy.symm.trans (jobs job member))
  have elsewhere : event.ends ≠ some other := fun here => different (ends other here)
  rw [same]
  refine (Operation.Onward.refl _).stands (sound.stands other idle) ?_ ?_
    (apart.firing other different) (by simp [over_append, elsewhere])
  · exact listening_iff (by rw [same]) (apart.members other different)
  · rw [aborted_eq (by rw [same]) apart.flags]

/-- An event that is not of the event loop, or that changes nothing for it, keeps the page in
order: an operation goes on, and neither a signal nor a list changes.
-/
theorem Page.Sound.onward (sound : page.Sound past) (op : Nat)
    (signals : next.signals = page.signals) (firing : next.firing = page.firing)
    (jobs : next.jobs = page.jobs)
    (apart : ∀ other, other ≠ op → next.operations other = page.operations other)
    (onward : (page.operations op).Onward (next.operations op))
    (operation : (next.operations op).Sound) (goes : event.ends = none)
    : next.Sound (past ++ [event]) := by
  have all (other : Nat) : (page.operations other).Onward (next.operations other) := by
    by_cases here : other = op
    · rw [here]
      exact onward
    · rw [apart other here]
      exact .refl _
  have listens (other : Nat) : next.Listening other ↔ page.Listening other :=
    listening_iff (all other).signal (by simp [signals])
  have aborts (other : Nat) : next.aborted other = page.aborted other :=
    aborted_eq (all other).signal (by simp [signals])
  have isOver (other : Nat) : Over (past ++ [event]) other ↔ Over past other := by
    rw [over_append, goes]
    simp
  constructor
  · rw [signals]
    exact sound.distinct
  · intro signal other member
    rw [(all other).signal]
    exact sound.listed signal other (by rwa [signals] at member)
  · intro other
    by_cases here : other = op
    · rw [here]
      exact operation
    · rw [apart other here]
      exact sound.operations other
  · intro other member
    rw [aborts]
    exact sound.fired other (by rwa [firing] at member)
  · intro other ended
    exact (all other).streaming (sound.streamed other ((isOver other).mp ended))
  · intro other idle
    rw [firing]
    rw [jobs] at idle
    exact (all other).stands (sound.stands other idle) (listens other) (by rw [aborts]) id
      (isOver other)
  · rw [jobs]
    exact sound.doing.onward all listens aborts goes

-----------------------------------------------------------------------------------------
-- Listeners that come and go
-----------------------------------------------------------------------------------------

namespace Page

@[simp] theorem operations_setOperation (page : Page Body) (op : Nat) (operation : Operation Body)
    : (page.setOperation op operation).operations op = operation := by
  simp [setOperation]

theorem operations_setOperation_of_ne (page : Page Body) {op other : Nat}
    (operation : Operation Body) (different : other ≠ op)
    : (page.setOperation op operation).operations other = page.operations other := by
  simp [setOperation, different]

@[simp] theorem operations_addEventListener (page : Page Body) (op : Nat)
    : (page.addEventListener op).operations = page.operations := by
  unfold addEventListener
  split <;> rfl

@[simp] theorem firing_addEventListener (page : Page Body) (op : Nat)
    : (page.addEventListener op).firing = page.firing := by
  unfold addEventListener
  split <;> rfl

@[simp] theorem jobs_addEventListener (page : Page Body) (op : Nat)
    : (page.addEventListener op).jobs = page.jobs := by
  unfold addEventListener
  split <;> rfl

@[simp] theorem operations_removeEventListener (page : Page Body) (op : Nat)
    : (page.removeEventListener op).operations = page.operations := by
  unfold removeEventListener
  split <;> rfl

@[simp] theorem firing_removeEventListener (page : Page Body) (op : Nat)
    : (page.removeEventListener op).firing = page.firing := by
  unfold removeEventListener
  split <;> rfl

/-- Only the listeners of the operation's own signal change, by what happens to them. -/
theorem listeners_setListeners (page : Page Body) (signal other : Nat) (listeners : List Nat)
    : ((page.setListeners signal listeners).signals other).listeners
      = if other = signal then listeners else (page.signals other).listeners := by
  by_cases same : other = signal
  · simp [setListeners, same]
  · simp [setListeners, same]

@[simp] theorem aborted_setListeners (page : Page Body) (signal other : Nat) (listeners : List Nat)
    : ((page.setListeners signal listeners).signals other).aborted
      = (page.signals other).aborted := by
  by_cases same : other = signal
  · simp [setListeners, same]
  · simp [setListeners, same]

@[simp] theorem flags_addEventListener (page : Page Body) (op signal : Nat)
    : ((page.addEventListener op).signals signal).aborted = (page.signals signal).aborted := by
  unfold addEventListener
  split
  · rfl
  · simp

@[simp] theorem flags_removeEventListener (page : Page Body) (op signal : Nat)
    : ((page.removeEventListener op).signals signal).aborted = (page.signals signal).aborted := by
  unfold removeEventListener
  split
  · rfl
  · simp

/-- Who listens once an operation has begun to -/
theorem mem_addEventListener {page : Page Body} {op other signal : Nat}
    : other ∈ ((page.addEventListener op).signals signal).listeners
      ↔ other ∈ (page.signals signal).listeners
        ∨ (other = op ∧ (page.operations op).signal = some signal) := by
  unfold addEventListener
  cases watched : (page.operations op).signal with
  | none => simp
  | some own =>
      simp only [listeners_setListeners, Option.some.injEq]
      by_cases same : signal = own
      · simp [same]
      · simp [same, Ne.symm same]

/-- Who listens once an operation has stopped -/
theorem mem_removeEventListener {page : Page Body} {op other signal : Nat}
    (distinct : ∀ signal, (page.signals signal).listeners.Nodup)
    : other ∈ ((page.removeEventListener op).signals signal).listeners
      ↔ other ∈ (page.signals signal).listeners
        ∧ ¬(other = op ∧ (page.operations op).signal = some signal) := by
  unfold removeEventListener
  cases watched : (page.operations op).signal with
  | none => simp
  | some own =>
      simp only [listeners_setListeners, Option.some.injEq]
      by_cases same : signal = own
      · subst same
        simp only [if_true, and_true]
        rw [(distinct signal).mem_erase_iff]
        exact and_comm
      · simp [same, Ne.symm same]

theorem nodup_addEventListener (page : Page Body) {op : Nat}
    (distinct : ∀ signal, (page.signals signal).listeners.Nodup)
    (fresh : ∀ signal, op ∉ (page.signals signal).listeners) (signal : Nat)
    : ((page.addEventListener op).signals signal).listeners.Nodup := by
  unfold addEventListener
  split
  · exact distinct signal
  · next own watched =>
      rw [listeners_setListeners]
      split
      · exact List.nodup_append.mpr
          ⟨distinct own, List.nodup_singleton op, fun other old _ new same =>
            fresh own (by rwa [← List.mem_singleton.mp new, ← same])⟩
      · exact distinct signal

theorem nodup_removeEventListener {page : Page Body} {op : Nat}
    (distinct : ∀ signal, (page.signals signal).listeners.Nodup) (signal : Nat)
    : ((page.removeEventListener op).signals signal).listeners.Nodup := by
  unfold removeEventListener
  split
  · exact distinct signal
  · next own watched =>
      rw [listeners_setListeners]
      split
      · exact (distinct own).erase op
      · exact distinct signal

/-- What stopped to listen does not. -/
theorem not_listening_removeEventListener (page : Page Body) (op : Nat)
    (distinct : ∀ signal, (page.signals signal).listeners.Nodup)
    : ¬(page.removeEventListener op).Listening op := by
  rintro ⟨signal, watched, member⟩
  rw [operations_removeEventListener] at watched
  exact ((mem_removeEventListener distinct).mp member).2 ⟨rfl, watched⟩

theorem listens_iff {page : Page Body} {op : Nat} : page.listens op = true ↔ page.Listening op := by
  unfold listens Listening
  cases watched : (page.operations op).signal <;> simp

/-- An operation whose signal is aborted has one. -/
theorem aborted_iff {page : Page Body} {op : Nat}
    : page.aborted op = true
      ↔ ∃ signal, (page.operations op).signal = some signal
        ∧ (page.signals signal).aborted = true := by
  unfold aborted
  cases watched : (page.operations op).signal <;> simp

end Page

-----------------------------------------------------------------------------------------
-- What each event keeps
-----------------------------------------------------------------------------------------

/-- An event of one operation keeps the page in order, if it leaves the others apart and this one
in order.
-/
theorem Page.Sound.act (sound : page.Sound past) (op : Nat) (apart : Apart op page next)
    (ends : ∀ other, event.ends = some other → other = op)
    (jobs : ∀ job ∈ page.jobs, job.op = op)
    (distinct : ∀ signal, (next.signals signal).listeners.Nodup)
    (listed
      : ∀ signal, op ∈ (next.signals signal).listeners
        → (next.operations op).signal = some signal)
    (operation : (next.operations op).Sound)
    (fired : ∀ other ∈ next.firing, other ∈ page.firing)
    (signal : op ∈ page.firing → (next.operations op).signal = (page.operations op).signal)
    (streamed : Over (past ++ [event]) op → (next.operations op).phase = .streaming)
    (stands
      : next.jobs = []
        → (next.operations op).Stands (next.Listening op) (next.aborted op = true)
          (op ∈ next.firing) (Over (past ++ [event]) op))
    (busy : next.jobs ≠ [] → ∃ job ∈ next.jobs, job.op = op)
    (doing : Doing (past ++ [event]) next next.jobs)
    : next.Sound (past ++ [event]) := by
  constructor
  · exact distinct
  · intro own other member
    by_cases here : other = op
    · subst here
      exact listed own member
    · rw [apart.operations other here]
      exact sound.listed own other ((apart.members other here own).mp member)
  · intro other
    by_cases here : other = op
    · rw [here]
      exact operation
    · rw [apart.operations other here]
      exact sound.operations other
  · intro other member
    have before := sound.fired other (fired other member)
    rw [← before]
    refine aborted_eq ?_ apart.flags
    by_cases here : other = op
    · subst here
      exact signal (fired other member)
    · rw [apart.operations other here]
  · intro other isOver
    by_cases here : other = op
    · subst here
      exact streamed isOver
    · rw [apart.operations other here]
      exact sound.streamed other
        ((over_append.mp isOver).resolve_right (fun ended => here (ends other ended)))
  · intro other idle
    by_cases here : other = op
    · subst here
      refine stands ?_
      by_contra some
      obtain ⟨job, member, own⟩ := busy some
      exact idle job member own
    · exact sound.others apart ends jobs here
  · exact doing

/-- An operation that a program is not done with stays so, by another event. -/
theorem not_over {op : Nat} (going : ¬Over past op) (goes : event.ends ≠ some op)
    : ¬Over (past ++ [event]) op := by
  simp [over_append, going, goes]

/-- An operation that waits is not one that a program is done with. -/
theorem Page.Sound.going (sound : page.Sound past) {op : Nat}
    (waits : (page.operations op).phase.waits = true)
    : ¬Over past op := by
  intro isOver
  simp [sound.streamed op isOver, Phase.waits] at waits

/-- An operation that was not called is as it was. -/
theorem Page.Sound.unlisted (sound : page.Sound past) {op : Nat}
    (uncalled : (page.operations op).phase = .uncalled)
    : (∀ signal, op ∉ (page.signals signal).listeners) ∧ op ∉ page.firing ∧ ¬Over past op := by
  have fresh := (sound.operations op).uncalled uncalled
  refine ⟨fun signal member => ?_, fun member => ?_, fun isOver => ?_⟩
  · have watched := sound.listed signal op member
    rw [fresh] at watched
    cases watched
  · obtain ⟨signal, watched, _⟩ := Page.aborted_iff.mp (sound.fired op member)
    rw [fresh] at watched
    cases watched
  · have streams := sound.streamed op isOver
    rw [uncalled] at streams
    cases streams

/-- What a call leaves: an operation that waits, cancelled if its signal is aborted, and listens -/
theorem Page.send_spec (page : Page Body) (op : Nat) (streaming : Bool) (signal : Option Nat)
    (refusal : Option Error)
    : (∃ future,
        (page.send op streaming signal refusal).operations
          = Function.update page.operations op
            { streaming, signal
              cancellation := (signal.map (fun own => (page.signals own).aborted)).getD false
              phase := .awaiting future })
      ∧ (page.send op streaming signal refusal).signals
        = ((page.setOperation op { streaming, signal }).addEventListener op).signals
      ∧ (page.send op streaming signal refusal).firing = page.firing
      ∧ ((page.send op streaming signal refusal).jobs = page.jobs
        ∨ ∃ error,
          (page.send op streaming signal refusal).jobs = [.cleanup op, .reject op error]) := by
  have called : ((page.setOperation op { streaming, signal }).addEventListener op).aborted op
      = (signal.map (fun own => (page.signals own).aborted)).getD false := by
    simp [aborted, setOperation]
  unfold send
  cases refusal with
  | none =>
      refine ⟨⟨.selecting, ?_⟩, rfl, ?_, .inl ?_⟩
      · simp only [called]
        simp [setOperation]
      · simp [setOperation]
      · simp [setOperation]
  | some error =>
      refine ⟨⟨.ready (.error error), ?_⟩, rfl, ?_, .inr ⟨error, rfl⟩⟩
      · simp only [called]
        simp [setOperation]
      · simp [setOperation]

/-- An operation that is called listens, and is cancelled if its signal is aborted. -/
theorem Page.Sound.send (sound : page.Sound past) {op : Nat} {streaming : Bool}
    {signal : Option Nat} {refusal : Option Error} (idle : page.jobs = [])
    (uncalled : (page.operations op).phase = .uncalled)
    : (page.send op streaming signal refusal).Sound
      (past ++ [.send op streaming signal refusal]) := by
  obtain ⟨fresh, unfired, going⟩ := sound.unlisted uncalled
  obtain ⟨⟨future, operations⟩, signals, firing, jobs⟩ :=
    page.send_spec op streaming signal refusal
  let base : Page Body := page.setOperation op { streaming, signal }
  have watched : (base.operations op).signal = signal := by simp [base]
  have mine : ((page.send op streaming signal refusal).operations op)
      = { streaming, signal
          cancellation := (signal.map (fun own => (page.signals own).aborted)).getD false
          phase := .awaiting future } := by
    simp [operations]
  have flags (own : Nat) : ((page.send op streaming signal refusal).signals own).aborted
      = (page.signals own).aborted := by
    rw [signals]
    exact Page.flags_addEventListener base op own
  have members {other own : Nat}
      : other ∈ ((page.send op streaming signal refusal).signals own).listeners
        ↔ other ∈ (page.signals own).listeners ∨ (other = op ∧ signal = some own) := by
    rw [signals, Page.mem_addEventListener, watched]
    rfl
  have still : ¬Over (past ++ [.send op streaming signal refusal]) op :=
    not_over going (by simp [Event.ends])
  apply sound.act op
  · constructor
    · intro other different
      simp [operations, different]
    · intro other different own
      simp [members, different]
    · exact flags
    · intro other _ member
      rwa [firing]
  · intro other ended
    cases ended
  · intro job member
    rw [idle] at member
    cases member
  · rw [signals]
    exact base.nodup_addEventListener sound.distinct fresh
  · intro own member
    rw [mine]
    exact (members.mp member).elim (fun old => absurd old (fresh own)) (·.2)
  · rw [mine]
    constructor <;> simp
  · rw [firing]
    exact fun _ member => member
  · intro member
    exact absurd member unfired
  · intro isOver
    exact absurd isOver still
  · intro _
    rw [mine]
    intro some
    obtain ⟨own, rfl⟩ := Option.ne_none_iff_exists'.mp some
    refine .inl ⟨⟨own, by rw [mine], members.mpr (.inr ⟨rfl, rfl⟩)⟩, fun aborted => .inr ?_⟩
    obtain ⟨_, same, flag⟩ := Page.aborted_iff.mp aborted
    rw [mine] at same
    cases same
    rw [flags] at flag
    simp [flag]
  · intro some
    rcases jobs with none | ⟨error, given⟩
    · exact absurd (none.trans idle) some
    · exact ⟨_, by rw [given]; exact List.mem_cons_self, rfl⟩
  · rcases jobs with none | ⟨error, given⟩
    · rw [none, idle]
      exact .idle
    · rw [given]
      exact .leave (by rw [mine]; rfl) (.inr ⟨error, rfl⟩)

/-- What only changes what the event loop is doing keeps the page in order. -/
theorem Page.Sound.schedule (sound : page.Sound past) (op : Nat) {jobs : List Job}
    (ends : ∀ other, event.ends = some other → other = op)
    (before : ∀ job ∈ page.jobs, job.op = op)
    (streamed : event.ends = some op → (page.operations op).phase = .streaming)
    (stands
      : jobs = []
        → (page.operations op).Stands (page.Listening op) (page.aborted op = true)
          (op ∈ page.firing) (Over (past ++ [event]) op))
    (busy : ∀ job ∈ jobs, job.op = op)
    (doing : Doing (past ++ [event]) { page with jobs } jobs)
    : ({ page with jobs } : Page Body).Sound (past ++ [event]) := by
  apply sound.act op
  · exact ⟨fun _ _ => rfl, fun _ _ _ => .rfl, fun _ => rfl, fun _ _ member => member⟩
  · exact ends
  · exact before
  · exact sound.distinct
  · exact fun signal => sound.listed signal op
  · exact sound.operations op
  · exact fun _ member => member
  · exact fun _ => rfl
  · exact fun isOver => (over_append.mp isOver).elim (sound.streamed op) streamed
  · exact stands
  · intro (some : jobs ≠ [])
    obtain ⟨job, rest, rfl⟩ := List.exists_cons_of_ne_nil some
    exact ⟨job, List.mem_cons_self, busy job List.mem_cons_self⟩
  · exact doing

/-- Past its `await`, an operation hands its response over only where its signal is not aborted. -/
theorem Page.Sound.resume (sound : page.Sound past) {op id : Nat} {result : Except Error Unit}
    (idle : page.jobs = []) (phase : (page.operations op).phase = .awaiting (.ready result))
    : (page.resume op id result).Sound (past ++ [.resume op id]) := by
  have waits : (page.operations op).phase.waits = true := by simp [phase, Phase.waits]
  have unbusy : ∀ job ∈ page.jobs, job.op = op := by simp [idle]
  have going : ¬Over (past ++ [.resume op id]) op :=
    not_over (sound.going waits) (by simp [Event.ends])
  have plain {jobs : List Job} (some : jobs ≠ []) (busy : ∀ job ∈ jobs, job.op = op)
      (doing : Doing (past ++ [.resume op id]) { page with jobs } jobs)
      : ({ page with jobs } : Page Body).Sound (past ++ [.resume op id]) :=
    sound.schedule op (fun _ ended => by cases ended) unbusy (fun ended => by cases ended)
      (fun empty => absurd empty some) busy doing
  unfold Page.resume
  cases result with
  | error error =>
      exact plain (by simp) (by simp [Job.op]) (.leave waits (.inr ⟨error, rfl⟩))
  | ok value =>
      simp only
      split
      · cases streams : (page.operations op).streaming with
        | true =>
            exact plain (by simp) (by simp [Job.op]) (.refuse waits (.inr ⟨cancelled, rfl⟩))
        | false =>
            exact plain (by simp) (by simp [Job.op]) (.leave waits (.inr ⟨cancelled, rfl⟩))
      · next clear =>
          have unaborted : page.aborted op = false := by simpa using clear
          split
          · refine plain (by simp) (by simp [Job.op]) (.hand waits unaborted ?_ going)
            intro some
            have stands := sound.stands op (by simp [idle])
            rw [Operation.Stands, phase] at stands
            rcases stands some with ⟨listening, _⟩ | ⟨_, aborted, _⟩
            · exact listening
            · simp [unaborted] at aborted
          · exact plain (by simp) (by simp [Job.op]) (.leave waits (.inl ⟨rfl, unaborted⟩))

/-- A listener is called once, and an operation whose listener is gone was told before. -/
theorem Page.Sound.fire (sound : page.Sound past) {op : Nat} {firing : List Nat}
    (idle : page.jobs = []) (next : page.firing = op :: firing)
    : (page.fire op firing).Sound (past ++ [.fire op]) := by
  have stood := sound.stands op (by simp [idle])
  have aborted := sound.fired op (by simp [next])
  have unbusy : ∀ job ∈ page.jobs, job.op = op := by simp [idle]
  have noends : ∀ other, (Event.fire op : Event Body).ends = some other → other = op := by
    intro other ended
    cases ended
  have isOver : Over (past ++ [.fire op]) op ↔ Over past op := by
    simp [over_append, Event.ends]
  have others : ∀ other, other ≠ op → other ∈ page.firing → other ∈ firing := by
    intro other different member
    rw [next] at member
    exact (List.mem_cons.mp member).resolve_left different
  unfold Page.fire
  split
  · next listens =>
      have listening := Page.listens_iff.mp listens
      have phase : (page.operations op).phase.waits = true
          ∨ (page.operations op).phase = .streaming := by
        cases phase : (page.operations op).phase with
        | awaiting future => exact .inl rfl
        | streaming => exact .inr rfl
        | _ =>
            rw [Operation.Stands, phase] at stood
            exact absurd listening stood
      have gone := page.not_listening_removeEventListener op sound.distinct
      apply sound.act op
      · constructor
        · simp
        · intro other different signal
          simp [Page.mem_removeEventListener sound.distinct, different]
        · simp
        · exact others
      · exact noends
      · exact unbusy
      · exact Page.nodup_removeEventListener sound.distinct
      · intro signal member
        have before := ((Page.mem_removeEventListener sound.distinct).mp member).1
        simpa using sound.listed signal op before
      · simpa using sound.operations op
      · intro other member
        simp [next, List.mem_cons_of_mem op member]
      · simp
      · intro ended
        simpa using sound.streamed op (isOver.mp ended)
      · exact fun empty => by cases empty
      · exact fun _ => ⟨.cancel op, List.mem_cons_self, rfl⟩
      · refine .abort gone ?_ (by simpa using phase)
        exact (aborted_eq (by simp) (by simp)).trans aborted
  · next listens =>
      have deaf : ¬page.Listening op := fun listening => listens (Page.listens_iff.mpr listening)
      apply sound.act op
      · exact ⟨fun _ _ => rfl, fun _ _ _ => .rfl, fun _ => rfl, others⟩
      · exact noends
      · exact unbusy
      · exact sound.distinct
      · exact fun signal => sound.listed signal op
      · exact sound.operations op
      · intro other member
        simp [next, List.mem_cons_of_mem op member]
      · exact fun _ => rfl
      · exact fun ended => sound.streamed op (isOver.mp ended)
      · intro _
        refine ((Operation.Onward.refl _).stands stood .rfl .rfl id isOver).deaf deaf
      · exact fun some => absurd idle some
      · rw [idle]
        exact .idle

/-- A dispatch begins: all that listen are to be called. -/
theorem Page.Sound.abort (sound : page.Sound past) {signal : Nat} (idle : page.jobs = [])
    : (page.abort signal).Sound (past ++ [.abort signal]) := by
  have isOver (op : Nat) : Over (past ++ [.abort signal]) op ↔ Over past op := by
    simp [over_append, Event.ends]
  unfold Page.abort
  split
  · exact sound.onward 0 rfl rfl rfl (fun _ _ => rfl) (.refl _) (sound.operations 0) rfl
  · next quiet =>
      let signals := Function.update page.signals signal
        { page.signals signal with aborted := true }
      let next : Page Body :=
        { page with signals, firing := (page.signals signal).listeners ++ page.firing }
      have lists (own : Nat) : (next.signals own).listeners = (page.signals own).listeners := by
        by_cases same : own = signal
        · simp [next, signals, same]
        · simp [next, signals, same]
      have rises {op : Nat} (before : page.aborted op = true) : next.aborted op = true := by
        obtain ⟨own, watched, flag⟩ := Page.aborted_iff.mp before
        refine Page.aborted_iff.mpr ⟨own, watched, ?_⟩
        have different : own ≠ signal := fun same => quiet (same ▸ flag)
        simpa [next, signals, different] using flag
      have listens (op : Nat) : next.Listening op ↔ page.Listening op := by
        simp only [Page.Listening, lists]
        rfl
      have called {op : Nat} (listening : page.Listening op) (after : next.aborted op = true)
          (before : ¬page.aborted op = true)
          : op ∈ next.firing := by
        obtain ⟨own, watched, member⟩ := listening
        obtain ⟨_, same, flag⟩ := Page.aborted_iff.mp after
        cases watched.symm.trans same
        by_cases here : own = signal
        · subst here
          exact List.mem_append_left _ member
        · refine absurd (Page.aborted_iff.mpr ⟨own, watched, ?_⟩) before
          simpa [next, signals, here] using flag
      show next.Sound _
      constructor
      · intro own
        rw [lists]
        exact sound.distinct own
      · intro own op member
        exact sound.listed own op (by rwa [lists] at member)
      · exact sound.operations
      · intro op member
        rcases List.mem_append.mp member with new | old
        · refine Page.aborted_iff.mpr ⟨signal, sound.listed signal op new, ?_⟩
          simp [next, signals]
        · exact rises (sound.fired op old)
      · exact fun op ended => sound.streamed op ((isOver op).mp ended)
      · intro op _
        have stands := sound.stands op (by simp [idle])
        unfold Operation.Stands at stands ⊢
        rw [listens, isOver]
        cases phase : (page.operations op).phase with
        | awaiting future =>
            simp only [phase] at stands
            have same : next.operations op = page.operations op := rfl
            simp only [same]
            intro watched
            rcases stands watched with ⟨listening, fired⟩ | ⟨gone, aborted, cancelled⟩
            · refine .inl ⟨listening, fun after => ?_⟩
              by_cases before : page.aborted op = true
              · exact (fired before).imp_left (List.mem_append_right _)
              · exact .inl (called listening after before)
            · exact .inr ⟨gone, rises aborted, cancelled⟩
        | streaming =>
            simp only [phase] at stands
            have same : next.operations op = page.operations op := rfl
            simp only [same]
            intro watched
            rcases stands watched with ⟨listening, going, fired⟩ | ⟨gone, closed, reason⟩
            · refine .inl ⟨listening, going, fun after => ?_⟩
              by_cases before : page.aborted op = true
              · exact List.mem_append_right _ (fired before)
              · exact called listening after before
            · exact .inr ⟨gone, closed, reason.imp_right rises⟩
        | _ =>
            have same : next.operations op = page.operations op := rfl
            simpa only [same, phase] using stands
      · show Doing _ next page.jobs
        rw [idle]
        exact .idle

/-- An operation that keeps its signal keeps its place there. -/
theorem Page.listening_setOperation {op : Nat} {operation : Operation Body}
    (signal : operation.signal = (page.operations op).signal)
    : (page.setOperation op operation).Listening op ↔ page.Listening op :=
  listening_iff (by simpa using signal) (fun _ => .rfl)

theorem Page.aborted_setOperation {op : Nat} {operation : Operation Body}
    (signal : operation.signal = (page.operations op).signal)
    : (page.setOperation op operation).aborted op = page.aborted op :=
  aborted_eq (by simpa using signal) (fun _ => rfl)

/-- What is left of an operation of which only `phase`, `cancellation` and `streamRef` change -/
theorem Page.Sound.set (sound : page.Sound past) (op : Nat) {operation : Operation Body}
    {jobs : List Job} (before : ∀ job ∈ page.jobs, job.op = op)
    (ends : event.ends = none)
    (signal : operation.signal = (page.operations op).signal)
    (good : operation.Sound)
    (streams : (page.operations op).phase = .streaming → operation.phase = .streaming)
    (stands
      : jobs = []
        → operation.Stands (page.Listening op) (page.aborted op = true) (op ∈ page.firing)
          (Over past op))
    (busy : ∀ job ∈ jobs, job.op = op)
    (doing
      : Doing (past ++ [event]) { page.setOperation op operation with jobs } jobs)
    : ({ page.setOperation op operation with jobs } : Page Body).Sound (past ++ [event]) := by
  have isOver : Over (past ++ [event]) op ↔ Over past op := by simp [over_append, ends]
  have mine : (page.setOperation op operation).operations op = operation := by simp
  apply sound.act op
  · refine ⟨fun other different => ?_, fun _ _ _ => .rfl, fun _ => rfl, fun _ _ member => member⟩
    exact page.operations_setOperation_of_ne operation different
  · intro other ended
    rw [ends] at ended
    cases ended
  · exact before
  · exact sound.distinct
  · intro own member
    exact (congrArg Operation.signal mine).trans (signal.trans (sound.listed own op member))
  · show ((page.setOperation op operation).operations op).Sound
    rw [mine]
    exact good
  · exact fun _ member => member
  · exact fun _ => (congrArg Operation.signal mine).trans signal
  · intro ended
    exact (congrArg Operation.phase mine).trans (streams (sound.streamed op (isOver.mp ended)))
  · intro empty
    show ((page.setOperation op operation).operations op).Stands
      ((page.setOperation op operation).Listening op)
      ((page.setOperation op operation).aborted op = true) (op ∈ page.firing) _
    rw [mine, listening_setOperation signal, aborted_setOperation signal, isOver]
    exact stands empty
  · intro (some : jobs ≠ [])
    obtain ⟨job, rest, rfl⟩ := List.exists_cons_of_ne_nil some
    exact ⟨job, List.mem_cons_self, busy job List.mem_cons_self⟩
  · exact doing

/-- What is left once an operation has stopped to listen -/
theorem Page.Sound.cleanup (sound : page.Sound past) (op : Nat) {jobs : List Job}
    (before : ∀ job ∈ page.jobs, job.op = op) (ends : event.ends = none)
    (stands
      : jobs = []
        → (page.operations op).Stands False (page.aborted op = true) (op ∈ page.firing)
          (Over past op))
    (busy : ∀ job ∈ jobs, job.op = op)
    (doing : Doing (past ++ [event]) { page.removeEventListener op with jobs } jobs)
    : ({ page.removeEventListener op with jobs } : Page Body).Sound (past ++ [event]) := by
  have isOver : Over (past ++ [event]) op ↔ Over past op := by simp [over_append, ends]
  have gone := page.not_listening_removeEventListener op sound.distinct
  have flag : (page.removeEventListener op).aborted op = page.aborted op :=
    aborted_eq (by simp) (by simp)
  apply sound.act op
  · constructor
    · simp
    · intro other different signal
      simp [Page.mem_removeEventListener sound.distinct, different]
    · simp
    · simp
  · intro other ended
    rw [ends] at ended
    cases ended
  · exact before
  · exact Page.nodup_removeEventListener sound.distinct
  · intro signal member
    have listed := ((Page.mem_removeEventListener sound.distinct).mp member).1
    simpa using sound.listed signal op listed
  · simpa using sound.operations op
  · simp
  · simp
  · intro ended
    simpa using sound.streamed op (isOver.mp ended)
  · intro empty
    show ((page.removeEventListener op).operations op).Stands
      ((page.removeEventListener op).Listening op)
      ((page.removeEventListener op).aborted op = true)
      (op ∈ (page.removeEventListener op).firing) _
    rw [flag, isOver, iff_false_intro gone, Page.operations_removeEventListener,
      Page.firing_removeEventListener]
    exact stands empty
  · intro (some : jobs ≠ [])
    obtain ⟨job, rest, rfl⟩ := List.exists_cons_of_ne_nil some
    exact ⟨job, List.mem_cons_self, busy job List.mem_cons_self⟩
  · exact doing

/-- A change of `phase`, `cancellation` or `streamRef` keeps an operation in order. -/
theorem Operation.Sound.set {operation : Operation Body} (sound : operation.Sound) {phase : Phase}
    (cancellation : Bool) {streamRef : Bool} (called : phase ≠ .uncalled)
    (handed : streamRef = true ↔ phase = .streaming)
    (streams : operation.phase = .streaming → phase = .streaming)
    : ({ operation with phase, cancellation, streamRef } : Operation Body).Sound where
  owned := sound.owned
  unread := sound.unread
  ended := sound.ended
  handed := handed
  silent := fun different => sound.silent (fun before => different (streams before))
  uncalled := fun uncalled => absurd uncalled called

/-- A job keeps the page in order, by cases on what the event loop is doing. -/
theorem Page.Sound.work (sound : page.Sound past) {job : Job} {id : Nat} {jobs : List Job}
    (busy : page.jobs = job :: jobs) (opens : ∀ op id, job ≠ .close op id)
    : (page.work job id jobs).Sound (past ++ [.work job id]) := by
  have goes : (Event.work job id : Event Body).ends = none := rfl
  have isOver (op : Nat) : Over (past ++ [.work job id]) op ↔ Over past op := by
    simp [over_append, goes]
  have doing := sound.doing
  rw [busy] at doing
  have mine : ∀ other ∈ page.jobs, other.op = job.op := by
    rw [busy]
    exact List.forall_mem_cons.mpr ⟨rfl, doing.op_eq⟩
  cases doing with
  | @abort op gone aborted phase =>
      have called : (page.operations op).phase ≠ .uncalled := by
        rcases phase with waits | streams
        · rintro uncalled
          simp [uncalled, Phase.waits] at waits
        · simp [streams]
      let operation : Operation Body := { page.operations op with cancellation := true }
      have listens : (page.setOperation op operation).Listening op ↔ page.Listening op :=
        Page.listening_setOperation rfl
      have flag : (page.setOperation op operation).aborted op = page.aborted op :=
        Page.aborted_setOperation rfl
      refine sound.set op mine goes rfl
        ((sound.operations op).set true called (sound.operations op).handed (fun same => same))
        (fun same => same)
        (fun empty => by cases empty) (by simp [Job.op]) ?_
      exact .deref (gone ∘ listens.mp) (flag.trans aborted) (by simpa using phase) (by simp)
  | @deref op gone aborted phase cancelled =>
      cases found : page.found op with
      | true =>
          have closes
              : page.work (.deref op) id [] = { page with jobs := [.close op id] } := by
            simp [Page.work, found]
          rw [closes]
          have streams : (page.operations op).phase = .streaming := by
            rw [Page.found, Bool.and_eq_true] at found
            exact (sound.operations op).handed.mp found.1
          exact sound.schedule op (fun _ ended => by cases ended) mine
            (fun ended => by cases ended) (fun empty => by cases empty) (by simp [Job.op])
            (.closeFound gone aborted streams)
      | false =>
          have done : page.work (.deref op) id [] = { page with jobs := [] } := by
            simp [Page.work, found]
          rw [done]
          refine sound.schedule op (fun _ ended => by cases ended) mine
            (fun ended => by cases ended) (fun _ => ?_) (by simp) .idle
          unfold Operation.Stands
          rcases phase with waits | streams
          · obtain ⟨future, phase⟩ := Phase.waits_iff.mp waits
            rw [phase]
            exact fun _ => .inr ⟨gone, aborted, cancelled⟩
          · rw [streams]
            have referred := (sound.operations op).handed.mpr streams
            have lost : (page.operations op).lost = true := by
              simpa [Page.found, referred] using found
            exact fun _ => .inr ⟨gone, .inl lost, .inr aborted⟩
  | closeFound _ _ _ => exact absurd rfl (opens _ _)
  | refuse _ _ => exact absurd rfl (opens _ _)
  | close _ _ => exact absurd rfl (opens _ _)
  | @leave op last waits ends =>
      refine sound.cleanup op mine goes (fun empty => by cases empty)
        (by simp [ends.op_eq]) ?_
      exact .finish (page.not_listening_removeEventListener _ sound.distinct) (by simpa using waits)
        (ends.mono (aborted_eq (by simp) (by simp)))
  | @finish op _ gone waits ends =>
      have settled {phase : Phase} (called : phase ≠ .uncalled) (streams : phase ≠ .streaming)
          (stands
            : ({ page.operations op with phase } : Operation Body).Stands (page.Listening op)
              (page.aborted op = true) (op ∈ page.firing) (Over past op))
          : ({ page.setPhase op phase with jobs := [] } : Page Body).Sound
            (past ++ [.work job id]) := by
        obtain ⟨future, before⟩ := Phase.waits_iff.mp waits
        have unhanded : ¬(page.operations op).streamRef = true := by
          rw [(sound.operations op).handed, before]
          simp
        refine sound.set op (by rw [← ends.op_eq]; exact mine) goes rfl
          ((sound.operations op).set _ called (iff_of_false unhanded streams) ?_) ?_
          (fun _ => stands) (by simp) .idle
        · simp [before]
        · simp [before]
      rcases ends with ⟨rfl, _⟩ | ⟨error, rfl⟩
      · exact settled (by simp) (by simp) gone
      · exact settled (by simp) (by simp) gone
  | @hand op waits aborted listening going =>
      obtain ⟨future, before⟩ := Phase.waits_iff.mp waits
      refine sound.set op mine goes rfl
        ((sound.operations op).set _ (by simp) (by simp) (by simp)) (fun _ => rfl) (fun _ => ?_)
        (by simp) .idle
      exact fun some => .inl ⟨listening some, going, fun raised => by simp [aborted] at raised⟩
  | @ended op streams ended barren =>
      refine sound.cleanup op mine goes (fun _ => ?_) (by simp) .idle
      unfold Operation.Stands
      rw [streams]
      exact fun _ => .inr ⟨fun listening => listening, .inr barren, .inl ended⟩

/-- A response whose `close` has returned is barren. -/
theorem Operation.Sound.barren_of_closed {operation : Operation Body} (sound : operation.Sound)
    {response : Stream.State Body} (has : operation.response = some response) {id : Nat}
    (closed : response.closes id = .returned)
    : operation.Barren :=
  ⟨response, has, .inl ((sound.owned response has).1.asked id (by simp [closed]))⟩

/-- The end of a call of `close` keeps the page in order. -/
theorem Page.Sound.closed (sound : page.Sound past) {op id : Nat} {jobs : List Job}
    (busy : page.jobs = .close op id :: jobs) {response : Stream.State Body}
    (has : (page.operations op).response = some response)
    (returned : response.closes id = .returned)
    : ({ page with jobs } : Page Body).Sound (past ++ [.closed op id]) := by
  have barren := (sound.operations op).barren_of_closed has returned
  have noends : ∀ other, (Event.closed op id : Event Body).ends = some other → other = op := by
    intro other ended
    cases ended
  have doing := sound.doing
  rw [busy] at doing
  have mine : ∀ other ∈ page.jobs, other.op = op := by
    rw [busy]
    exact List.forall_mem_cons.mpr ⟨rfl, doing.op_eq⟩
  have streamed : (Event.closed op id : Event Body).ends = some op
      → (page.operations op).phase = .streaming := by
    intro ended
    cases ended
  cases doing with
  | closeFound gone aborted streams =>
      refine sound.schedule op noends mine streamed (fun _ => ?_) (by simp) .idle
      unfold Operation.Stands
      rw [streams]
      exact fun _ => .inr ⟨gone, .inr barren, .inr aborted⟩
  | refuse waits ends =>
      exact sound.schedule op noends mine streamed (fun empty => by cases empty)
        (List.forall_mem_cons.mpr ⟨rfl, List.forall_mem_singleton.mpr ends.op_eq⟩)
        (.leave waits ends)
  | finish _ _ ends => rcases ends with ⟨other, _⟩ | ⟨_, other⟩ <;> cases other
  | close streams isOver =>
      exact sound.schedule op noends mine streamed (fun empty => by cases empty) (by simp [Job.op])
        (.ended streams (over_append.mpr (.inl isOver)) barren)

-----------------------------------------------------------------------------------------
-- Other threads, and reads
-----------------------------------------------------------------------------------------

/-- A change of one operation alone, as it goes on -/
theorem Page.Sound.alone (sound : page.Sound past) {op : Nat} {operation : Operation Body}
    (onward : (page.operations op).Onward operation) (good : operation.Sound)
    (goes : event.ends = none)
    : (page.setOperation op operation).Sound (past ++ [event]) :=
  sound.onward op rfl rfl rfl
    (fun _ different => page.operations_setOperation_of_ne operation different)
    (by simpa using onward) (by simpa using good) goes

/-- A native future goes on. -/
theorem Page.Sound.waiting (sound : page.Sound past) {op : Nat} {future next : Future}
    (phase : (page.operations op).phase = .awaiting future) (goes : event.ends = none)
    : (page.setPhase op (.awaiting next)).Sound (past ++ [event]) := by
  have unhanded : ¬(page.operations op).streamRef = true := by
    rw [(sound.operations op).handed, phase]
    simp
  refine sound.alone ⟨rfl, rfl, id, .inr ⟨by simp [phase, Phase.waits], rfl⟩, ?_⟩
    ((sound.operations op).set _ (by simp) (iff_of_false unhanded (by simp)) (by simp [phase]))
    goes
  simp [phase]

/-- The body of a new response is what nobody has read. -/
theorem Page.Sound.poll (sound : page.Sound past) {op : Nat}
    {answer : Option (Except Error Body)}
    (phase : (page.operations op).phase = .awaiting .polling)
    : (page.poll op answer).Sound (past ++ [.poll op answer]) := by
  unfold Page.poll
  rcases answer with _ | error | body
  · exact sound.waiting phase rfl
  · exact sound.waiting phase rfl
  · have unhanded : ¬(page.operations op).streamRef = true := by
      rw [(sound.operations op).handed, phase]
      simp
    have silent := (sound.operations op).silent (by simp [phase])
    refine sound.alone ⟨rfl, rfl, id, .inr ⟨by simp [phase, Phase.waits], rfl⟩, ?_⟩ ?_ rfl
    · simp [phase]
    · constructor
      · intro response made
        simp only [Option.ite_none_right_eq_some] at made
        obtain ⟨_, same⟩ := made
        cases same
        refine ⟨Stream.State.owned_new body, fun id reports => ?_⟩
        cases reports
      · intro response made id _
        simp only [Option.ite_none_right_eq_some] at made
        obtain ⟨_, same⟩ := made
        cases same
        rfl
      · intro id resolved
        rw [silent id] at resolved
        cases resolved
      · simpa using unhanded
      · exact fun _ => silent
      · simp

/-- Only calls for chunks change. -/
theorem Operation.onward_chunks (operation : Operation Body) (chunks : Nat → ChunkCall)
    : operation.Onward { operation with chunks } :=
  ⟨rfl, rfl, id, .inl rfl, fun _ => id⟩

/-- A call for a chunk goes on, and finds the end only of a body that is gone. -/
theorem Operation.Sound.setChunk {operation : Operation Body} (sound : operation.Sound)
    (streams : operation.phase = .streaming) {id : Nat} {call : ChunkCall}
    (made : call ≠ .uncalled)
    (ends
      : call = .resolved (.ok none)
        → ∃ response, operation.response = some response ∧ response.Spent)
    : ({ operation with chunks := Function.update operation.chunks id call }
        : Operation Body).Sound where
  owned := sound.owned
  unread response has other uncalled := by
    refine sound.unread response has other ?_
    simp only [Function.update_apply] at uncalled
    split at uncalled
    · exact absurd uncalled made
    · exact uncalled
  ended other resolved := by
    simp only [Function.update_apply] at resolved
    split at resolved
    · exact ends resolved
    · exact sound.ended other resolved
  handed := sound.handed
  silent different := absurd streams different
  uncalled uncalled := by
    rw [streams] at uncalled
    cases uncalled

/-- A call for a chunk was made of a response that was handed over. -/
theorem Operation.Sound.streams {operation : Operation Body} (sound : operation.Sound) (id : Nat)
    (called : operation.chunks id ≠ .uncalled)
    : operation.phase = .streaming := by
  by_contra different
  exact called (sound.silent different id)

/-- A step of the native response keeps the page in order. -/
theorem Page.Sound.advance (sound : page.Sound past)
    {poll : Body → Stream.Polled → Body → Prop} {op : Nat} {event : Stream.Event}
    {before after : Stream.State Body} (has : (page.operations op).response = some before)
    (runs : page.Runs op event) (step : Stream.Step poll before event after)
    : (page.advance op event after).Sound (past ++ [.native op event]) := by
  have good := sound.operations op
  obtain ⟨owned, ends⟩ := good.owned before has
  have called : (page.operations op).phase ≠ .uncalled := by
    intro uncalled
    rw [good.uncalled uncalled] at has
    cases has
  let advanced : Operation Body := { page.operations op with response := some after }
  have stepped : advanced.Sound := by
    constructor
    · intro response made
      cases made
      exact ⟨step.owned owned, step.endsSpent owned ends⟩
    · intro response made id uncalled
      cases made
      have other : event.reader ≠ some id := by
        intro mine
        have awaiting := runs.2.1 id mine
        rw [awaiting] at uncalled
        cases uncalled
      rw [step.reads_eq owned other]
      exact good.unread before has id uncalled
    · intro id resolved
      obtain ⟨response, made, spent⟩ := good.ended id resolved
      cases has.symm.trans made
      exact ⟨after, rfl, step.spent owned spent⟩
    · exact good.handed
    · exact good.silent
    · exact fun uncalled => absurd uncalled called
  have onward : (page.operations op).Onward advanced := by
    refine ⟨rfl, rfl, id, .inl rfl, fun _ ⟨response, made, barren⟩ => ?_⟩
    cases has.symm.trans made
    exact ⟨after, rfl, step.barren owned barren⟩
  have plain : (page.setOperation op advanced).Sound (past ++ [.native op event]) :=
    sound.alone onward stepped rfl
  cases event with
  | ret id result =>
      have awaiting := runs.2.1 id rfl
      have streams := good.streams id (by simp [awaiting])
      let settled : Operation Body :=
        { advanced with chunks := Function.update advanced.chunks id (.resolved result) }
      have good : settled.Sound := by
        refine stepped.setChunk streams (by simp) (fun found => ⟨after, rfl, ?_⟩)
        cases found
        exact step.spent owned (ends id step.1)
      have same : page.advance op (.ret id result) after = page.setOperation op settled := by
        simp [Page.advance, Page.setChunk, Page.setOperation, settled, advanced]
      rw [same]
      exact sound.alone ⟨rfl, rfl, onward.lost, onward.phase, onward.barren⟩ good rfl
  | _ => exact plain

/-- A chunk is delivered, or the end or a failure, which the operation is over with. -/
theorem Page.Sound.deliver (sound : page.Sound past) {op id closing : Nat}
    {result : Stream.Result} (idle : page.jobs = [])
    (resolved : (page.operations op).chunks id = .resolved result)
    : (page.deliver op id closing result).Sound (past ++ [.deliver op id result closing]) := by
  have good := sound.operations op
  have streams := good.streams id (by simp [resolved])
  let settled : Operation Body :=
    { page.operations op with
      chunks := Function.update (page.operations op).chunks id .settled }
  have after : settled.Sound := good.setChunk streams (by simp) (by simp)
  have onward : (page.operations op).Onward settled := (page.operations op).onward_chunks _
  have mine : (page.setOperation op settled).operations op = settled := by simp
  have ends {other : Nat}
      (ended : (Event.deliver op id result closing : Event Body).ends = some other)
      : other = op := by
    rcases result with error | (_ | chunk)
    · exact (Option.some.inj ended).symm
    · exact (Option.some.inj ended).symm
    · cases ended
  have busy {jobs : List Job} (some : jobs ≠ []) (own : ∀ job ∈ jobs, job.op = op)
      (doing
        : Doing (past ++ [.deliver op id result closing])
          { page.setOperation op settled with jobs } jobs)
      : ({ page.setOperation op settled with jobs } : Page Body).Sound
        (past ++ [.deliver op id result closing]) := by
    apply sound.act op
    · refine ⟨fun other different => ?_, fun _ _ _ => .rfl, fun _ => rfl, fun _ _ member => member⟩
      exact page.operations_setOperation_of_ne settled different
    · exact fun _ => ends
    · simp [idle]
    · exact sound.distinct
    · exact fun signal member =>
        (congrArg Operation.signal mine).trans (sound.listed signal op member)
    · show ((page.setOperation op settled).operations op).Sound
      rw [mine]
      exact after
    · exact fun _ member => member
    · exact fun _ => (congrArg Operation.signal mine).trans rfl
    · exact fun _ => (congrArg Operation.phase mine).trans streams
    · exact fun empty => absurd empty some
    · intro _
      obtain ⟨job, rest, rfl⟩ := List.exists_cons_of_ne_nil some
      exact ⟨job, List.mem_cons_self, own job List.mem_cons_self⟩
    · exact doing
  have streamed : ((page.setOperation op settled).operations op).phase = .streaming :=
    (congrArg Operation.phase mine).trans streams
  unfold Page.deliver
  rcases result with error | (_ | chunk)
  · exact busy (by simp) (by simp [Job.op]) (.close streamed (over_append.mpr (.inr rfl)))
  · refine busy (by simp) (by simp [Job.op]) (.ended streamed (over_append.mpr (.inr rfl)) ?_)
    obtain ⟨response, has, spent⟩ := good.ended id resolved
    show ((page.setOperation op settled).operations op).Barren
    rw [mine]
    exact ⟨response, has, .inr spent⟩
  · have plain : (page.setOperation op settled).Sound
        (past ++ [.deliver op id (.ok (some chunk)) closing]) :=
      sound.alone onward after rfl
    have same : ({ page.setOperation op settled with jobs := [] } : Page Body)
        = page.setOperation op settled := by
      simp [Page.setOperation, idle]
    exact same ▸ plain

/-- Each step keeps the page in order. -/
theorem Step.sound {poll : Body → Stream.Polled → Body → Prop} (step : Step poll page event next)
    (sound : page.Sound past)
    : next.Sound (past ++ [event]) := by
  cases event with
  | send op streaming signal refusal =>
      obtain ⟨idle, uncalled, rfl⟩ := step
      exact sound.send idle uncalled
  | select op =>
      obtain ⟨phase, rfl⟩ := step
      exact sound.waiting phase rfl
  | poll op answer =>
      obtain ⟨phase, rfl⟩ := step
      exact sound.poll phase
  | wake op =>
      obtain ⟨phase, rfl⟩ := step
      exact sound.waiting phase rfl
  | resume op id =>
      obtain ⟨result, idle, phase, _, rfl⟩ := step
      exact sound.resume idle phase
  | abort signal =>
      obtain ⟨idle, rfl⟩ := step
      exact sound.abort idle
  | fire op =>
      obtain ⟨firing, idle, first, rfl⟩ := step
      exact sound.fire idle first
  | work job id =>
      obtain ⟨jobs, busy, opens, _, rfl⟩ := step
      exact sound.work busy opens
  | closed op id =>
      obtain ⟨jobs, response, busy, has, returned, rfl⟩ := step
      exact sound.closed busy has returned
  | nextChunk op id =>
      obtain ⟨_, streams, _, _, rfl⟩ := step
      exact sound.alone ((page.operations op).onward_chunks _)
        ((sound.operations op).setChunk streams (by simp) (by simp)) rfl
  | native op event =>
      obtain ⟨before, after, has, runs, native, rfl⟩ := step
      exact sound.advance has runs native
  | deliver op id result closing =>
      obtain ⟨idle, resolved, _, rfl⟩ := step
      exact sound.deliver idle resolved
  | close op id =>
      obtain ⟨idle, streams, _, _, rfl⟩ := step
      refine sound.schedule op (fun _ ended => (Option.some.inj ended).symm)
        (by simp [idle]) (fun _ => streams) (fun empty => by cases empty) (by simp [Job.op]) ?_
      exact .close streams (over_append.mpr (.inr rfl))
  | collect op =>
      obtain ⟨_, streams, _, rfl⟩ := step
      have good := sound.operations op
      refine sound.alone ⟨rfl, rfl, fun _ => rfl, .inl rfl, fun _ => id⟩ ?_ rfl
      exact ⟨good.owned, good.unread, good.ended, good.handed, good.silent,
        fun uncalled => by simp [streams] at uncalled⟩

/-- A page on which nothing has happened is in order. -/
theorem Page.sound_new : ({} : Page Body).Sound [] where
  distinct _ := List.nodup_nil
  listed _ _ member := by cases member
  operations _ := by constructor <;> simp
  fired _ member := by cases member
  streamed _ isOver := by
    obtain ⟨_, member, _⟩ := isOver
    cases member
  stands op _ := by
    rintro ⟨_, watched, _⟩
    cases watched
  doing := .idle

/-- Every page that is reached is in order. -/
theorem sound_of_run {poll : Body → Stream.Polled → Body → Prop} {events : List (Event Body)}
    (run : Run (Step poll) {} events page)
    : page.Sound events :=
  run.history (fun sound step => step.sound sound) Page.sound_new

end Events

-----------------------------------------------------------------------------------------
-- Who listens
-----------------------------------------------------------------------------------------

/-- An operation on a signal may have something to cancel: it waits for its native future, or the
response it handed over was neither read to the end, nor closed, nor did a read of it fail.
-/
def Page.Live (page : Page Body) (past : List (Event Body)) (signal op : Nat) : Prop :=
  (page.operations op).signal = some signal
    ∧ ((page.operations op).phase.waits = true
      ∨ ((page.operations op).phase = .streaming ∧ ¬Over past op))

/-- Whenever the event loop has come to rest, only operations that may have something to cancel
listen to a signal, each at most once, and unless the signal is aborted all of them do.
-/
theorem listens_while_live {poll : Body → Stream.Polled → Body → Prop}
    {events : List (Event Body)} {page : Page Body} (run : Run (Step poll) {} events page)
    (idle : page.jobs = []) (signal : Nat)
    : (page.signals signal).listeners.Nodup
      ∧ (∀ op ∈ (page.signals signal).listeners, page.Live events signal op)
      ∧ ((page.signals signal).aborted = false
        → ∀ op, page.Live events signal op → op ∈ (page.signals signal).listeners) := by
  have sound := sound_of_run run
  refine ⟨sound.distinct signal, fun op member => ?_, fun clear op ⟨watched, live⟩ => ?_⟩
  · have watched := sound.listed signal op member
    have listening : page.Listening op := ⟨signal, watched, member⟩
    have stands := sound.stands op (by simp [idle])
    refine ⟨watched, ?_⟩
    unfold Operation.Stands at stands
    cases phase : (page.operations op).phase with
    | awaiting future => exact .inl rfl
    | streaming =>
        rw [phase] at stands
        rcases stands (by simp [watched]) with ⟨_, going, _⟩ | ⟨gone, _⟩
        · exact .inr ⟨rfl, going⟩
        · exact absurd listening gone
    | _ =>
        rw [phase] at stands
        exact absurd listening stands
  · have unaborted : ¬page.aborted op = true := by
      simp [Page.aborted, watched, clear]
    have stands := sound.stands op (by simp [idle])
    unfold Operation.Stands at stands
    have listening : page.Listening op := by
      rcases live with waits | ⟨streams, going⟩
      · obtain ⟨future, phase⟩ := Phase.waits_iff.mp waits
        rw [phase] at stands
        rcases stands (by simp [watched]) with ⟨listening, _⟩ | ⟨_, aborted, _⟩
        · exact listening
        · exact absurd aborted unaborted
      · rw [streams] at stands
        rcases stands (by simp [watched]) with ⟨listening, _⟩ | ⟨_, _, reason⟩
        · exact listening
        · exact absurd reason (not_or.mpr ⟨going, unaborted⟩)
    obtain ⟨own, same, member⟩ := listening
    cases watched.symm.trans same
    exact member

/-- A program has asked for a stream, and has it. -/
def handedOver : Page Unit :=
  ({} : Page Unit).send 0 true (some 0) none |>.select 0 |>.poll 0 (some (.ok ()))
    |>.resume 0 0 (.ok ()) |>.work (.hand 0) 0 []

/-- What happened -/
def handingOver : List (Event Unit) :=
  [.send 0 true (some 0) none, .select 0, .poll 0 (some (.ok ())), .resume 0 0, .work (.hand 0) 0]

theorem handedOver_run : Run (Step Stream.anyBody) {} handingOver handedOver := by
  apply Run.cons
  · exact ⟨rfl, rfl, rfl⟩
  apply Run.cons
  · exact ⟨rfl, rfl⟩
  apply Run.cons
  · exact ⟨rfl, rfl⟩
  apply Run.cons
  · exact ⟨.ok (), rfl, rfl, by rintro _ ⟨⟩; rfl, rfl⟩
  apply Run.cons
  · exact ⟨[], rfl, by simp, by rintro _ ⟨⟩; rfl, rfl⟩
  exact .nil

theorem listens_while_live_handed
    : (handedOver.signals 0).listeners.Nodup
      ∧ (∀ op ∈ (handedOver.signals 0).listeners, handedOver.Live handingOver 0 op)
      ∧ ((handedOver.signals 0).aborted = false
        → ∀ op, handedOver.Live handingOver 0 op → op ∈ (handedOver.signals 0).listeners) :=
  listens_while_live handedOver_run rfl 0

end Tlsurl.Bindings
