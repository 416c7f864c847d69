import Tlsurl.Bindings.Listeners

/-! What an aborted signal lets through.
An abort can come while a native future is done and its promise not yet settled, while reads are
under way, or in the middle of another dispatch.
-/

namespace Tlsurl.Bindings

open Tlsurl.Library Tlsurl.Core

variable {Body : Type}

/-- A call for a chunk comes to nothing. -/
def Operation.Vain (operation : Operation Body) (id : Nat) : Prop :=
  match operation.chunks id with
  | .awaiting =>
      ∃ response, operation.response = some response ∧ response.Barren
        ∧ (response.reads id).fruitless response.Spent
  | .resolved (.ok (some _)) => False
  | _ => True

/-- An operation has been told that its signal is aborted: what it waits for is cancelled, what it
handed over is barren, and calls for chunks that were not made before come to nothing.
-/
structure Operation.Silenced (operation : Operation Body) (earlier : Nat → ChunkCall) : Prop where
  waiting : operation.phase.waits = true → operation.cancellation = true
  streaming : operation.phase = .streaming → operation.lost = true ∨ operation.Barren
  vain : ∀ id, earlier id = .uncalled → operation.Vain id

/-- What an event must not be, once the signal of an operation is aborted -/
def Event.Hands (earlier : Nat → ChunkCall) (op : Nat) : Event Body → Prop
  | .work (.hand other) _ => other = op
  | .work (.answer other) _ => other = op
  | .deliver other id (.ok (some _)) _ => other = op ∧ earlier id = .uncalled
  | _ => False

section Steps

variable {past : List (Event Body)} {event : Event Body} {page next : Page Body}
variable {poll : Body → Stream.Polled → Body → Prop} {earlier : Nat → ChunkCall}

/-- A signal stays aborted. -/
theorem Step.stays_aborted (step : Step poll page event next) {signal : Nat}
    (aborted : (page.signals signal).aborted = true)
    : (next.signals signal).aborted = true := by
  cases event with
  | send op streaming own refusal =>
      obtain ⟨_, _, rfl⟩ := step
      rw [(page.send_spec op streaming own refusal).2.1, Page.flags_addEventListener]
      exact aborted
  | abort own =>
      obtain ⟨_, rfl⟩ := step
      unfold Page.abort
      split
      · exact aborted
      · by_cases same : signal = own
        · simp [same]
        · simpa [same] using aborted
  | fire op =>
      obtain ⟨firing, _, _, rfl⟩ := step
      unfold Page.fire
      split
      · simpa using aborted
      · exact aborted
  | work job id =>
      obtain ⟨jobs, _, _, _, rfl⟩ := step
      cases job with
      | cleanup op => simpa [Page.work] using aborted
      | _ => exact aborted
  | select op =>
      obtain ⟨_, rfl⟩ := step
      exact aborted
  | poll op answer =>
      obtain ⟨_, rfl⟩ := step
      rcases answer with _ | _ | _ <;> exact aborted
  | wake op =>
      obtain ⟨_, rfl⟩ := step
      exact aborted
  | resume op id =>
      obtain ⟨result, _, _, _, rfl⟩ := step
      unfold Page.resume
      repeat' split
      all_goals exact aborted
  | closed op id =>
      obtain ⟨_, _, _, _, _, rfl⟩ := step
      exact aborted
  | nextChunk op id =>
      obtain ⟨_, _, _, _, rfl⟩ := step
      exact aborted
  | native op event =>
      obtain ⟨_, _, _, _, _, rfl⟩ := step
      unfold Page.advance
      split <;> exact aborted
  | deliver op id result closing =>
      obtain ⟨_, _, _, rfl⟩ := step
      exact aborted
  | close op id =>
      obtain ⟨_, _, _, _, rfl⟩ := step
      exact aborted
  | collect op =>
      obtain ⟨_, _, _, rfl⟩ := step
      exact aborted

/-- The operation that an event is of -/
def Event.op : Event Body → Option Nat
  | .send op _ _ _ => some op
  | .select op => some op
  | .poll op _ => some op
  | .wake op => some op
  | .resume op _ => some op
  | .abort _ => none
  | .fire op => some op
  | .work job _ => some job.op
  | .closed op _ => some op
  | .nextChunk op _ => some op
  | .native op _ => some op
  | .deliver op _ _ _ => some op
  | .close op _ => some op
  | .collect op => some op

/-- An event leaves the operations that it is not of. -/
theorem Step.operations_eq (step : Step poll page event next) {other : Nat}
    (apart : event.op ≠ some other)
    : next.operations other = page.operations other := by
  have kept {op : Nat} (different : some op ≠ some other) (operation : Operation Body)
      : (page.setOperation op operation).operations other = page.operations other :=
    page.operations_setOperation_of_ne operation (fun same => different (by rw [same]))
  cases event with
  | send op streaming own refusal =>
      obtain ⟨_, _, rfl⟩ := step
      obtain ⟨future, operations⟩ := (page.send_spec op streaming own refusal).1
      rw [operations]
      exact kept apart _
  | abort own =>
      obtain ⟨_, rfl⟩ := step
      unfold Page.abort
      split <;> rfl
  | fire op =>
      obtain ⟨firing, _, _, rfl⟩ := step
      unfold Page.fire
      split <;> simp
  | work job id =>
      obtain ⟨jobs, _, _, _, rfl⟩ := step
      cases job with
      | cancel op => exact kept apart _
      | hand op => exact kept apart _
      | reject op error => exact kept apart _
      | answer op => exact kept apart _
      | cleanup op => simp [Page.work]
      | deref op => rfl
      | close op id => rfl
  | select op =>
      obtain ⟨_, rfl⟩ := step
      exact kept apart _
  | poll op answer =>
      obtain ⟨_, rfl⟩ := step
      rcases answer with _ | _ | _ <;> exact kept apart _
  | wake op =>
      obtain ⟨_, rfl⟩ := step
      exact kept apart _
  | resume op id =>
      obtain ⟨result, _, _, _, rfl⟩ := step
      unfold Page.resume
      repeat' split
      all_goals rfl
  | closed op id =>
      obtain ⟨_, _, _, _, _, rfl⟩ := step
      rfl
  | nextChunk op id =>
      obtain ⟨_, _, _, _, rfl⟩ := step
      exact kept apart _
  | native op event =>
      obtain ⟨_, _, _, _, _, rfl⟩ := step
      unfold Page.advance
      split
      · refine (Page.operations_setOperation_of_ne _ _ ?_).trans (kept apart _)
        exact fun same => apart (by rw [same]; rfl)
      · exact kept apart _
  | deliver op id result closing =>
      obtain ⟨_, _, _, rfl⟩ := step
      exact kept apart _
  | close op id =>
      obtain ⟨_, _, _, _, rfl⟩ := step
      rfl
  | collect op =>
      obtain ⟨_, _, _, rfl⟩ := step
      exact kept apart _

-----------------------------------------------------------------------------------------
-- One operation of an aborted signal
-----------------------------------------------------------------------------------------

/-- A promise that is settled hands over nothing of an operation whose signal is aborted. -/
theorem Page.Sound.hands_nothing (sound : page.Sound past) {op : Nat}
    (aborted : page.aborted op = true) {job : Job} {jobs : List Job}
    (busy : page.jobs = job :: jobs)
    : job ≠ .hand op ∧ job ≠ .answer op := by
  have doing := sound.doing
  rw [busy] at doing
  constructor
  · rintro rfl
    cases doing with
    | hand _ unaborted _ _ => simp [unaborted] at aborted
    | finish _ _ ends => rcases ends with ⟨other, _⟩ | ⟨_, other⟩ <;> cases other
  · rintro rfl
    cases doing with
    | finish _ _ ends =>
        rcases ends with ⟨same, unaborted⟩ | ⟨_, other⟩
        · cases same
          simp [unaborted] at aborted
        · cases other

/-- What changes neither the phase, the response nor the calls keeps an operation silenced. -/
theorem Operation.Silenced.same {operation after : Operation Body}
    (silenced : operation.Silenced earlier) (phase : after.phase = operation.phase)
    (cancelled : operation.cancellation = true → after.cancellation = true)
    (lost : operation.lost = true → after.lost = true)
    (response : after.response = operation.response) (chunks : after.chunks = operation.chunks)
    : after.Silenced earlier where
  waiting waits := cancelled (silenced.waiting (phase ▸ waits))
  streaming streams := by
    refine (silenced.streaming (phase ▸ streams)).imp lost (fun barren => ?_)
    simpa [Operation.Barren, response] using barren
  vain id uncalled := by
    simpa [Operation.Vain, response, chunks] using silenced.vain id uncalled

/-- An operation that goes on waiting stays silenced. -/
theorem Operation.Silenced.waits {operation after : Operation Body}
    (silenced : operation.Silenced earlier) (sound : operation.Sound)
    (waited : operation.phase.waits = true) (waits : after.phase.waits = true)
    (cancelled : after.cancellation = operation.cancellation)
    (chunks : after.chunks = operation.chunks)
    : after.Silenced earlier where
  waiting _ := cancelled.trans (silenced.waiting waited)
  streaming streams := by simp [streams, Phase.waits] at waits
  vain id _ := by
    have unstreamed : operation.phase ≠ .streaming := by
      intro streams
      simp [streams, Phase.waits] at waited
    simp [Operation.Vain, chunks, sound.silent unstreamed id]

/-- A call of a response of a silenced operation comes to nothing. -/
theorem Operation.Silenced.nextChunk {operation : Operation Body}
    (silenced : operation.Silenced earlier) (sound : operation.Sound)
    (streams : operation.phase = .streaming) (kept : operation.lost = false) {id : Nat}
    (uncalled : operation.chunks id = .uncalled)
    : ({ operation with chunks := Function.update operation.chunks id .awaiting }
        : Operation Body).Silenced earlier where
  waiting := silenced.waiting
  streaming := silenced.streaming
  vain other fresh := by
    obtain ⟨response, has, barren⟩ :=
      (silenced.streaming streams).resolve_left (by simp [kept])
    by_cases same : other = id
    · subst same
      have unread := sound.unread response has other uncalled
      simp only [Operation.Vain, Function.update_self]
      exact ⟨response, has, barren, by simp [unread, Stream.ReadPhase.fruitless]⟩
    · simpa [Operation.Vain, same] using silenced.vain other fresh

/-- A call is settled. -/
theorem Operation.Silenced.settled {operation : Operation Body}
    (silenced : operation.Silenced earlier) {id : Nat}
    : ({ operation with chunks := Function.update operation.chunks id .settled }
        : Operation Body).Silenced earlier where
  waiting := silenced.waiting
  streaming := silenced.streaming
  vain other fresh := by
    by_cases same : other = id
    · simp [Operation.Vain, same]
    · simpa [Operation.Vain, same] using silenced.vain other fresh

/-- A native read of a silenced operation goes on without a chunk. -/
theorem Operation.Silenced.advance {operation : Operation Body}
    (silenced : operation.Silenced earlier) (sound : operation.Sound)
    {before after : Stream.State Body} (has : operation.response = some before)
    {event : Stream.Event} (step : Stream.Step poll before event after)
    : ({ operation with response := some after } : Operation Body).Silenced earlier where
  waiting := silenced.waiting
  streaming streams := by
    obtain ⟨owned, _⟩ := sound.owned before has
    refine (silenced.streaming streams).imp_right (fun ⟨response, made, barren⟩ => ?_)
    cases has.symm.trans made
    exact ⟨after, rfl, step.barren owned barren⟩
  vain id fresh := by
    obtain ⟨owned, _⟩ := sound.owned before has
    have vain := silenced.vain id fresh
    unfold Operation.Vain at vain ⊢
    cases call : operation.chunks id with
    | awaiting =>
        simp only [call] at vain ⊢
        obtain ⟨response, made, barren, fruitless⟩ := vain
        cases has.symm.trans made
        exact ⟨after, rfl, step.barren owned barren, step.fruitless owned barren fruitless⟩
    | resolved result =>
        rcases result with error | (_ | chunk)
        · trivial
        · trivial
        · simp [call] at vain
    | _ => trivial

/-- What a native read returns to a call that comes to nothing is no chunk. -/
theorem Operation.Silenced.resolved {operation : Operation Body}
    (silenced : operation.Silenced earlier) {id : Nat} {result : Stream.Result}
    (plain : earlier id = .uncalled → ∀ chunk, result ≠ .ok (some chunk))
    : ({ operation with chunks := Function.update operation.chunks id (.resolved result) }
        : Operation Body).Silenced earlier where
  waiting := silenced.waiting
  streaming := silenced.streaming
  vain other fresh := by
    by_cases same : other = id
    · subst same
      simp only [Operation.Vain, Function.update_self]
      rcases result with error | (_ | chunk)
      · trivial
      · trivial
      · exact plain fresh chunk rfl
    · simpa [Operation.Vain, same] using silenced.vain other fresh

/-- Each step keeps an operation silenced whose signal is aborted. -/
theorem Step.silenced (step : Step poll page event next) (sound : page.Sound past) {op : Nat}
    (aborted : page.aborted op = true) (silenced : (page.operations op).Silenced earlier)
    : (next.operations op).Silenced earlier := by
  by_cases here : event.op = some op
  · have good := sound.operations op
    cases event with
    | abort own => cases here
    | send _ streaming own refusal =>
        cases here
        obtain ⟨_, uncalled, _⟩ := step
        rw [Page.aborted, good.uncalled uncalled] at aborted
        cases aborted
    | select _ =>
        cases here
        obtain ⟨phase, rfl⟩ := step
        refine silenced.waits good (by simp [phase, Phase.waits]) ?_ ?_ ?_
        all_goals simp [Page.select, Page.setPhase, Phase.waits]
    | poll _ answer =>
        cases here
        obtain ⟨phase, rfl⟩ := step
        refine silenced.waits good (by simp [phase, Phase.waits]) ?_ ?_ ?_
        all_goals rcases answer with _ | _ | _ <;> simp [Page.poll, Page.setPhase, Phase.waits]
    | wake _ =>
        cases here
        obtain ⟨phase, rfl⟩ := step
        refine silenced.waits good (by simp [phase, Phase.waits]) ?_ ?_ ?_
        all_goals simp [Page.setPhase, Phase.waits]
    | resume _ id =>
        cases here
        obtain ⟨result, _, _, _, rfl⟩ := step
        have same : (page.resume op id result).operations = page.operations := by
          unfold Page.resume
          repeat' split
          all_goals rfl
        rw [same]
        exact silenced
    | fire _ =>
        cases here
        obtain ⟨firing, _, _, rfl⟩ := step
        have same : (page.fire op firing).operations = page.operations := by
          unfold Page.fire
          split <;> simp
        rw [same]
        exact silenced
    | work job id =>
        obtain ⟨jobs, busy, _, _, rfl⟩ := step
        have withheld := sound.hands_nothing aborted busy
        have settled {phase : Phase} (waits : phase.waits = false) (streams : phase ≠ .streaming)
            : ({ page.operations op with phase } : Operation Body).Silenced earlier :=
          ⟨fun waiting => by simp [waits] at waiting, fun streaming => absurd streaming streams,
            silenced.vain⟩
        cases job with
        | cancel other =>
            obtain rfl : other = op := Option.some.inj here
            refine silenced.same ?_ ?_ ?_ ?_ ?_
            all_goals simp [Page.work]
        | hand other => exact absurd (congrArg Job.hand (Option.some.inj here)) withheld.1
        | answer other => exact absurd (congrArg Job.answer (Option.some.inj here)) withheld.2
        | reject other error =>
            obtain rfl : other = op := Option.some.inj here
            have rejected : ({ page.operations other with phase := .rejected error }
                : Operation Body).Silenced earlier :=
              settled rfl (by simp)
            simpa [Page.work, Page.setPhase] using rejected
        | cleanup other => simpa [Page.work] using silenced
        | deref other => exact silenced
        | close other _ => exact silenced
    | closed _ id =>
        cases here
        obtain ⟨_, _, _, _, _, rfl⟩ := step
        exact silenced
    | nextChunk _ id =>
        cases here
        obtain ⟨_, streams, kept, uncalled, rfl⟩ := step
        simpa [Page.setChunk] using silenced.nextChunk good streams kept uncalled
    | native _ event =>
        cases here
        obtain ⟨before, after, has, runs, native, rfl⟩ := step
        have advanced := silenced.advance good has native
        cases event with
        | ret id result =>
            have plain (fresh : earlier id = .uncalled) (chunk : Bytes)
                : result ≠ .ok (some chunk) := by
              rintro rfl
              have vain := silenced.vain id fresh
              rw [Operation.Vain, runs.2.1 id rfl] at vain
              obtain ⟨response, made, _, fruitless⟩ := vain
              cases has.symm.trans made
              rw [native.1] at fruitless
              exact fruitless
            simpa [Page.advance, Page.setChunk] using advanced.resolved plain
        | _ => simpa [Page.advance] using advanced
    | deliver _ id result closing =>
        cases here
        obtain ⟨_, _, _, rfl⟩ := step
        simpa [Page.deliver, Page.setChunk] using silenced.settled
    | close _ id =>
        cases here
        obtain ⟨_, _, _, _, rfl⟩ := step
        exact silenced
    | collect _ =>
        cases here
        obtain ⟨_, _, _, rfl⟩ := step
        refine silenced.same ?_ ?_ ?_ ?_ ?_
        all_goals simp
  · rw [step.operations_eq here]
    exact silenced

/-- What no event of a silenced operation does -/
theorem Step.not_hands (step : Step poll page event next) (sound : page.Sound past) {op : Nat}
    (aborted : page.aborted op = true) (silenced : (page.operations op).Silenced earlier)
    : ¬event.Hands earlier op := by
  intro hands
  cases event with
  | work job id =>
      obtain ⟨jobs, busy, _⟩ := step
      have withheld := sound.hands_nothing aborted busy
      cases job with
      | hand other => exact withheld.1 (by rw [show other = op from hands])
      | answer other => exact withheld.2 (by rw [show other = op from hands])
      | _ => exact hands
  | deliver other id result closing =>
      rcases result with error | (_ | chunk)
      · exact hands
      · exact hands
      · obtain ⟨rfl, fresh⟩ := hands
        obtain ⟨_, resolved, _⟩ := step
        have vain := silenced.vain id fresh
        simp [Operation.Vain, resolved] at vain
  | _ => exact hands

/-- An operation that was not called hands nothing over. -/
theorem Step.uncalled_not_hands (step : Step poll page event next) (sound : page.Sound past)
    {op : Nat} (uncalled : (page.operations op).phase = .uncalled)
    : ¬event.Hands earlier op := by
  intro hands
  cases event with
  | work job id =>
      obtain ⟨jobs, busy, _⟩ := step
      have doing := sound.doing
      rw [busy] at doing
      cases job with
      | hand other =>
          cases (show other = op from hands)
          cases doing with
          | hand waits _ _ _ => simp [uncalled, Phase.waits] at waits
          | finish _ _ ends => rcases ends with ⟨other, _⟩ | ⟨_, other⟩ <;> cases other
      | answer other =>
          cases (show other = op from hands)
          cases doing with
          | finish _ waits ends =>
              rcases ends with ⟨same, _⟩ | ⟨_, other⟩
              · cases same
                simp [uncalled, Phase.waits] at waits
              · cases other
      | _ => exact hands
  | deliver other id result closing =>
      rcases result with error | (_ | chunk)
      · exact hands
      · exact hands
      · obtain ⟨rfl, _⟩ := hands
        obtain ⟨_, resolved, _⟩ := step
        rw [(sound.operations other).uncalled uncalled] at resolved
        cases resolved
  | _ => exact hands

/-- An operation that is called on an aborted signal is silenced from the start. -/
theorem Page.silenced_send {op : Nat} {streaming : Bool} {signal : Nat} {refusal : Option Error}
    (aborted : (page.signals signal).aborted = true)
    : ((page.send op streaming (some signal) refusal).operations op).Silenced earlier := by
  obtain ⟨future, operations⟩ := (page.send_spec op streaming (some signal) refusal).1
  rw [operations, Function.update_self]
  constructor
  · intro _
    simp [aborted]
  · intro streams
    cases streams
  · intro id _
    trivial

/-- An operation gets its signal when it is called, and was called ever after. -/
theorem Step.origin (step : Step poll page event next) (op : Nat)
    : (∃ streaming own refusal, event = .send op streaming own refusal)
      ∨ ((next.operations op).signal = (page.operations op).signal
        ∧ ((next.operations op).phase = .uncalled → (page.operations op).phase = .uncalled)) := by
  by_cases here : event.op = some op
  · cases event with
    | send _ streaming own refusal =>
        cases here
        exact .inl ⟨streaming, own, refusal, rfl⟩
    | abort own => cases here
    | select _ =>
        cases here
        obtain ⟨_, rfl⟩ := step
        exact .inr (by simp [Page.select, Page.setPhase])
    | poll _ answer =>
        cases here
        obtain ⟨_, rfl⟩ := step
        refine .inr ?_
        rcases answer with _ | _ | _ <;> simp [Page.poll, Page.setPhase]
    | wake _ =>
        cases here
        obtain ⟨_, rfl⟩ := step
        exact .inr (by simp [Page.setPhase])
    | resume _ id =>
        obtain ⟨result, _, _, _, rfl⟩ := step
        refine .inr ?_
        unfold Page.resume
        repeat' split
        all_goals exact ⟨rfl, fun same => same⟩
    | fire _ =>
        obtain ⟨firing, _, _, rfl⟩ := step
        refine .inr ?_
        unfold Page.fire
        split <;> simp
    | work job id =>
        obtain ⟨jobs, _, _, _, rfl⟩ := step
        refine .inr ?_
        cases job with
        | cancel other =>
            obtain rfl : other = op := Option.some.inj here
            simp [Page.work]
        | hand other =>
            obtain rfl : other = op := Option.some.inj here
            simp [Page.work]
        | reject other error =>
            obtain rfl : other = op := Option.some.inj here
            simp [Page.work, Page.setPhase]
        | answer other =>
            obtain rfl : other = op := Option.some.inj here
            simp [Page.work, Page.setPhase]
        | cleanup other => simp [Page.work]
        | deref other => exact ⟨rfl, fun same => same⟩
        | close other _ => exact ⟨rfl, fun same => same⟩
    | closed _ id =>
        obtain ⟨_, _, _, _, _, rfl⟩ := step
        exact .inr ⟨rfl, fun same => same⟩
    | nextChunk _ id =>
        cases here
        obtain ⟨_, _, _, _, rfl⟩ := step
        exact .inr (by simp [Page.setChunk])
    | native _ event =>
        cases here
        obtain ⟨_, _, _, _, _, rfl⟩ := step
        refine .inr ?_
        cases event <;> simp [Page.advance, Page.setChunk]
    | deliver _ id result closing =>
        cases here
        obtain ⟨_, _, _, rfl⟩ := step
        exact .inr (by simp [Page.deliver, Page.setChunk])
    | close _ id =>
        obtain ⟨_, _, _, _, rfl⟩ := step
        exact .inr ⟨rfl, fun same => same⟩
    | collect _ =>
        cases here
        obtain ⟨_, _, _, rfl⟩ := step
        exact .inr (by simp)
  · rw [step.operations_eq here]
    exact .inr ⟨rfl, fun same => same⟩

-----------------------------------------------------------------------------------------
-- A run from an aborted signal on
-----------------------------------------------------------------------------------------

/-- What holds of one operation since a signal was aborted: it was not called, it is on another
signal, or it is silenced; and unless it is on another signal, it has handed nothing over.
-/
structure Hushed (signal : Nat) (earlier : Nat → ChunkCall) (op : Nat) (events : List (Event Body))
    (page : Page Body)
    : Prop where
  aborted : (page.signals signal).aborted = true
  silenced
    : (page.operations op).signal = some signal → (page.operations op).Silenced earlier
  handed
    : (page.operations op).phase = .uncalled ∨ (page.operations op).signal = some signal
      → ∀ event ∈ events, ¬event.Hands earlier op

/-- Each step keeps it so. -/
theorem Step.hushed (step : Step poll page event next) (sound : page.Sound past) {signal op : Nat}
    {events : List (Event Body)} (hushed : Hushed signal earlier op events page)
    : Hushed signal earlier op (events ++ [event]) next := by
  have told (watched : (page.operations op).signal = some signal) : page.aborted op = true :=
    Page.aborted_iff.mpr ⟨signal, watched, hushed.aborted⟩
  refine ⟨step.stays_aborted hushed.aborted, fun watched => ?_, fun mine other member => ?_⟩
  · rcases step.origin op with ⟨streaming, own, refusal, rfl⟩ | ⟨same, _⟩
    · obtain ⟨_, _, rfl⟩ := step
      obtain ⟨future, operations⟩ := (page.send_spec op streaming own refusal).1
      rw [operations, Function.update_self] at watched
      obtain rfl : own = some signal := watched
      exact Page.silenced_send hushed.aborted
    · have before := same.symm.trans watched
      exact step.silenced sound (told before) (hushed.silenced before)
  · have before : (page.operations op).phase = .uncalled
        ∨ (page.operations op).signal = some signal := by
      rcases step.origin op with ⟨streaming, own, refusal, rfl⟩ | ⟨same, uncalled⟩
      · exact .inl step.2.1
      · exact mine.imp uncalled same.symm.trans
    rcases List.mem_append.mp member with old | last
    · exact hushed.handed before other old
    · rw [List.mem_singleton.mp last]
      rcases before with uncalled | watched
      · exact step.uncalled_not_hands sound uncalled
      · exact step.not_hands sound (told watched) (hushed.silenced watched)

/-- Once the listeners of a signal have run, its operations are silenced. -/
theorem Page.Sound.silenced (sound : page.Sound past) (quiet : page.Quiet) {op signal : Nat}
    (aborted : (page.signals signal).aborted = true)
    (watched : (page.operations op).signal = some signal)
    : (page.operations op).Silenced (page.operations op).chunks := by
  have told : page.aborted op = true := Page.aborted_iff.mpr ⟨signal, watched, aborted⟩
  have stands := sound.stands op (by simp [quiet.1])
  have unfired : op ∉ page.firing := by simp [quiet.2]
  unfold Operation.Stands at stands
  constructor
  · intro waits
    obtain ⟨future, phase⟩ := Phase.waits_iff.mp waits
    rw [phase] at stands
    rcases stands (by simp [watched]) with ⟨_, fired⟩ | ⟨_, _, cancelled⟩
    · exact (fired told).resolve_left unfired
    · exact cancelled
  · intro streams
    rw [streams] at stands
    rcases stands (by simp [watched]) with ⟨_, _, fired⟩ | ⟨_, closed, _⟩
    · exact absurd (fired told) unfired
    · exact closed
  · intro id uncalled
    simp [Operation.Vain, uncalled]

/-- A run keeps it so, by induction on its steps. -/
theorem hushed_of_run {signal op : Nat} {events : List (Event Body)}
    (later : Run (Step poll) page events next) (sound : page.Sound past)
    (initial : Hushed signal earlier op [] page)
    : next.Sound (past ++ events) ∧ Hushed signal earlier op events next := by
  induction later with
  | nil => exact ⟨by simpa using sound, initial⟩
  | snoc _ last ih =>
      obtain ⟨before, hushed⟩ := ih
      rw [← List.append_assoc]
      exact ⟨last.sound before, last.hushed before hushed⟩

/-- Once a signal is aborted and its listeners have run, an operation on it, called before or
after, hands over no response, no call for a chunk that is made later gets one, and what it still
waits for is cancelled.
-/
theorem nothing_after_abort (reached : Run (Step poll) {} past page) (quiet : page.Quiet)
    {signal : Nat} (aborted : (page.signals signal).aborted = true) {events : List (Event Body)}
    (later : Run (Step poll) page events next) {op : Nat}
    (watched : (next.operations op).signal = some signal)
    : (∀ event ∈ events, ¬event.Hands (page.operations op).chunks op)
      ∧ ((next.operations op).phase.waits = true → (next.operations op).cancellation = true) := by
  have initial : Hushed signal (page.operations op).chunks op [] page :=
    ⟨aborted, (sound_of_run reached).silenced quiet aborted, fun _ _ member => by cases member⟩
  have ends := hushed_of_run later (sound_of_run reached) initial
  exact ⟨ends.2.handed (.inr watched), (ends.2.silenced watched).waiting⟩

end Steps

/-- A signal is aborted while the native future of a stream is done, and its promise is not yet
settled.
-/
def overtaken : Page Unit :=
  ({} : Page Unit).send 0 true (some 0) none |>.select 0 |>.poll 0 (some (.ok ())) |>.abort 0
    |>.fire 0 [] |>.work (.cancel 0) 0 [.deref 0] |>.work (.deref 0) 0 []

def overtaking : List (Event Unit) :=
  [.send 0 true (some 0) none, .select 0, .poll 0 (some (.ok ())), .abort 0, .fire 0
  , .work (.cancel 0) 0, .work (.deref 0) 0]

theorem overtaken_run : Run (Step Stream.anyBody) {} overtaking overtaken := by
  apply Run.cons
  · exact ⟨rfl, rfl, rfl⟩
  apply Run.cons
  · exact ⟨rfl, rfl⟩
  apply Run.cons
  · exact ⟨rfl, rfl⟩
  apply Run.cons
  · exact ⟨rfl, rfl⟩
  apply Run.cons
  · exact ⟨[], rfl, rfl, rfl⟩
  apply Run.cons
  · exact ⟨_, rfl, by simp, by rintro _ ⟨⟩; rfl, rfl⟩
  apply Run.cons
  · exact ⟨_, rfl, by simp, by rintro _ ⟨⟩; rfl, rfl⟩
  exact .nil

/-- The promise is settled, and the response is to be closed. -/
def withdrawn : Page Unit := overtaken.resume 0 0 (.ok ())

theorem withdrawn_run : Run (Step Stream.anyBody) overtaken [.resume 0 0] withdrawn :=
  .cons ⟨.ok (), rfl, rfl, by rintro _ ⟨⟩; rfl, rfl⟩ .nil

theorem nothing_after_abort_overtaken
    : (∀ event ∈ ([.resume 0 0] : List (Event Unit)),
        ¬event.Hands (overtaken.operations 0).chunks 0)
      ∧ ((withdrawn.operations 0).phase.waits = true
        → (withdrawn.operations 0).cancellation = true) :=
  nothing_after_abort overtaken_run ⟨rfl, rfl⟩
    (show (overtaken.signals 0).aborted = true from rfl) withdrawn_run rfl

end Tlsurl.Bindings
