import Mathlib.Logic.Relation
import Tlsurl.Core.Stream

/-! Collecting a response under a limit (`tlsurl-core/lib.rs`).
`request_with_options` owns the response it reads, so no other call is going on while it reads the
next chunk.
-/

namespace Tlsurl.Core

open Library

/-- `Response` -/
structure Response where
  status : UInt16
  httpVersion : String
  url : String
  headers : List (String × Bytes)
  body : Bytes
  deriving DecidableEq

/-- What a body has left to yield, past which it has ended. -/
abbrev Script := List (Except Error Bytes)

/-- What a body may answer when it is polled: it may make the reader wait, or yield its next item,
or its end.
-/
inductive Script.Answers : Script → Stream.Polled → Script → Prop
  | pending (script : Script) : Answers script .pending script
  | chunk (bytes : Bytes) (rest : Script) : Answers (.ok bytes :: rest) (.chunk bytes) rest
  | failed (error : Error) (rest : Script) : Answers (.error error :: rest) (.failed error) rest
  | done : Answers [] .done []

/-- `StreamResponse`, between two calls -/
structure StreamResponse where
  head : Response
  body : Option Script
  cancellation : Bool

namespace StreamResponse

/-- `StreamResponse::new` -/
def new (head : Response) (body : Script) : StreamResponse where
  head := head
  body := some body
  cancellation := false

/-- `StreamResponse::next_chunk`, called while no other call is going on -/
def nextChunk (response : StreamResponse) : Stream.Result × StreamResponse :=
  if response.cancellation then (.error cancelled, { response with body := none })
  else
    match response.body with
    | none => (.ok none, response)
    | some [] => (.ok none, { response with body := none })
    | some (.error error :: _) => (.error error, { response with body := none })
    | some (.ok chunk :: rest) => (.ok (some chunk), { response with body := some rest })

/-- The number of polls that the body has left before it is given up. -/
def remaining (response : StreamResponse) : Nat :=
  response.body.elim 0 (fun script => script.length + 1)

/-- A chunk that is returned was the first item of the body, and the rest is kept. -/
theorem nextChunk_chunk {response after : StreamResponse} {chunk : Bytes}
    (read : response.nextChunk = (.ok (some chunk), after))
    : response.cancellation = false
      ∧ ∃ rest, response.body = some (.ok chunk :: rest)
        ∧ after = { response with body := some rest } := by
  unfold nextChunk at read
  split at read
  · cases read
  · next active =>
      split at read
      · cases read
      · cases read
      · cases read
      · next found rest body =>
          cases read
          exact ⟨by simpa using active, rest, body, rfl⟩

/-- A read cancels nothing. -/
theorem nextChunk_cancellation (response : StreamResponse)
    : response.nextChunk.2.cancellation = response.cancellation := by
  unfold nextChunk
  split
  · rfl
  · split <;> rfl

end StreamResponse

-----------------------------------------------------------------------------------------
-- A read that runs alone
-----------------------------------------------------------------------------------------

namespace Stream

/-- The read that an event belongs to. -/
def Event.reader : Event → Option Nat
  | .beginLock id => some id
  | .locked id => some id
  | .checkToken id => some id
  | .clearRead id => some id
  | .take id => some id
  | .wake id => some id
  | .select id => some id
  | .poll id _ => some id
  | .recheck id => some id
  | .store id => some id
  | .ret id _ => some id
  | .dropLocking id => some id
  | .dropSuspended id => some id
  | .cancel _ => none
  | .tryLock _ => none
  | .clear _ => none
  | .unlock _ => none

/-- How far a read has come that found a response and is on its own. -/
def Alone (response : StreamResponse) (id : Nat) (state : State Script) : Prop :=
  state.cancellation = response.cancellation
    ∧ match state.reads id with
      | .unpolled => state.lock.order = [] ∧ state.body = response.body
      | .locking => False
      | .locked => state.lock.order = [.read id] ∧ state.body = response.body
      | .clearing => state.lock.order = [.read id] ∧ response.cancellation = true
      | .taking =>
          state.lock.order = [.read id] ∧ response.cancellation = false
            ∧ state.body = response.body
      | .selecting stream | .polling stream | .suspended stream =>
          state.lock.order = [.read id] ∧ response.cancellation = false
            ∧ state.body = none ∧ response.body = some stream
      | .checking stream result =>
          state.lock.order = [.read id] ∧ response.cancellation = false ∧ state.body = none
            ∧ ∃ script answer, response.body = some script ∧ script.Answers answer stream
              ∧ answer.result = some result
      | .storing stream chunk =>
          state.lock.order = [.read id] ∧ response.cancellation = false
            ∧ state.body = none ∧ response.body = some (.ok chunk :: stream)
      | .returning result =>
          state.lock.order = [.read id] ∧ result = response.nextChunk.1
            ∧ state.body = response.nextChunk.2.body
      | .gone => True

/-- A read that is on its own goes on to what `nextChunk` computes, by cases on its step. -/
theorem Alone.step {response : StreamResponse} {id : Nat} {state next : State Script}
    {event : Event} (alone : Alone response id state) (own : event.reader = some id)
    (step : Step Script.Answers state event next)
    : Alone response id next := by
  obtain ⟨token, alone⟩ := alone
  cases event with
  | beginLock reader =>
      cases own
      obtain ⟨phase, rfl⟩ := step
      rw [phase] at alone
      have taken : state.lock.tryLock (.read id) = some ⟨[.read id], List.nodup_singleton _⟩ := by
        simp [FairLock.tryLock, FairLock.isFree, alone.1]
      simp [Alone, State.beginLock, taken, State.setRead, token, alone.2]
  | locked reader =>
      cases own
      obtain ⟨phase, _⟩ := step
      rw [phase] at alone
      exact alone.elim
  | checkToken reader =>
      cases own
      obtain ⟨phase, rfl⟩ := step
      rw [phase] at alone
      cases cancelled : response.cancellation with
      | true => simp [Alone, State.checkToken, State.setRead, token, cancelled, alone.1]
      | false => simp [Alone, State.checkToken, State.setRead, token, cancelled, alone]
  | clearRead reader =>
      cases own
      obtain ⟨phase, rfl⟩ := step
      rw [phase] at alone
      simp [Alone, State.clearRead, State.setRead, token, alone, StreamResponse.nextChunk]
  | take reader =>
      cases own
      obtain ⟨phase, rfl⟩ := step
      rw [phase] at alone
      obtain ⟨holds, active, body⟩ := alone
      cases found : response.body with
      | none =>
          simp [Alone, State.take, State.setRead, token, active, holds, body, found,
            StreamResponse.nextChunk]
      | some script =>
          simp [Alone, State.take, State.setRead, token, active, holds, body, found]
  | wake reader =>
      cases own
      obtain ⟨stream, phase, rfl⟩ := step
      rw [phase] at alone
      simpa [Alone, State.setRead, token] using alone
  | select reader =>
      cases own
      obtain ⟨stream, phase, rfl⟩ := step
      rw [phase] at alone
      have active : state.cancellation = false := token.trans alone.2.1
      simpa [Alone, State.select, State.setRead, active, alone.2.1] using alone
  | poll reader answer =>
      cases own
      obtain ⟨stream, after, phase, answers, rfl⟩ := step
      rw [phase] at alone
      obtain ⟨holds, active, empty, body⟩ := alone
      cases ready : answer.result with
      | none =>
          cases answers with
          | pending => simp [Alone, State.polled, State.setRead, Polled.result, *]
          | chunk => cases ready
          | failed => cases ready
          | done => cases ready
      | some result =>
          refine ⟨by simpa [State.polled, State.setRead] using token, ?_⟩
          simp only [State.polled, State.setRead, ready, Function.update_self]
          exact ⟨holds, active, empty, stream, answer, body, answers, ready⟩
  | recheck reader =>
      cases own
      obtain ⟨stream, result, phase, rfl⟩ := step
      rw [phase] at alone
      obtain ⟨holds, active, empty, script, answer, body, answers, ready⟩ := alone
      have unasked : state.cancellation = false := token.trans active
      cases answers with
      | pending => cases ready
      | chunk bytes rest =>
          cases ready
          simp [Alone, State.recheck, State.setRead, unasked, active, holds, empty, body]
      | failed error rest =>
          cases ready
          simp [Alone, State.recheck, State.setRead, unasked, active, holds, empty, body,
            StreamResponse.nextChunk]
      | done =>
          cases ready
          simp [Alone, State.recheck, State.setRead, unasked, active, holds, empty, body,
            StreamResponse.nextChunk]
  | store reader =>
      cases own
      obtain ⟨stream, chunk, phase, rfl⟩ := step
      rw [phase] at alone
      obtain ⟨holds, active, empty, body⟩ := alone
      simp [Alone, State.store, State.setRead, token, active, holds, body,
        StreamResponse.nextChunk]
  | ret reader result =>
      cases own
      obtain ⟨_, rfl⟩ := step
      simp [Alone, State.setRead, State.leave, token]
  | dropLocking reader =>
      cases own
      obtain ⟨_, rfl⟩ := step
      simp [Alone, State.setRead, State.leave, token]
  | dropSuspended reader =>
      cases own
      obtain ⟨_, _, rfl⟩ := step
      simp [Alone, State.setRead, State.leave, token]
  | cancel _ => cases own
  | tryLock _ => cases own
  | clear _ => cases own
  | unlock _ => cases own

/-- A read that returns while no other call is going on returns what `nextChunk` computes and
leaves the response as it says, by induction on the steps of the read.
-/
theorem nextChunk_alone {response : StreamResponse} {id : Nat} {state next : State Script}
    {events : List Event} {result : Result}
    (free : state.lock.order = []) (token : state.cancellation = response.cancellation)
    (body : state.body = response.body) (fresh : state.reads id = .unpolled)
    (own : ∀ event ∈ events, event.reader = some id)
    (run : Run (Step Script.Answers) state (events ++ [.ret id result]) next)
    : result = response.nextChunk.1 ∧ next.body = response.nextChunk.2.body
      ∧ next.cancellation = response.cancellation ∧ next.lock.order = [] := by
  have start : Alone response id state := ⟨token, by rw [fresh]; exact ⟨free, body⟩⟩
  obtain ⟨last, earlier, phase, rfl⟩ := run.snoc_inv
  have reached : (∀ event ∈ events, event.reader = some id) → Alone response id last := by
    apply earlier.history
    · intro past before event after held step own
      have alone := held (fun event member => own event (List.mem_append_left _ member))
      exact alone.step (own event (by simp)) step
    · exact fun _ => start
  obtain ⟨token, alone⟩ := reached own
  rw [phase] at alone
  obtain ⟨holds, same, body⟩ := alone
  exact ⟨same, body, token, by simp [State.setRead, State.leave, FairLock.leave, holds]⟩

end Stream

-----------------------------------------------------------------------------------------
-- Collecting the body
-----------------------------------------------------------------------------------------

/-- `Client`, as far as collecting a body reads it -/
structure Client where
  maxResponseBytes : UInt32

/-- `self.max_response_bytes`, a `u32` kept as a `usize` -/
def Client.limit (client : Client) : Nat := client.maxResponseBytes.toNat

/-- The error of a body over the limit -/
def bodyTooLarge (limit : Nat) : Error where
  code := "BODY_TOO_LARGE"
  message := "response exceeds " ++ toString limit ++ " bytes"

/-- The most bytes that a `Vec` can hold: `isize::MAX` -/
def vecMax : Nat := 9223372036854775807

/-- `Vec::extend_from_slice`, which panics where the new length would overflow. -/
def extendFromSlice (body chunk : Bytes) : Option Bytes :=
  if body.length + chunk.length ≤ vecMax then some (body ++ chunk) else none

/-- The loop of `request_with_options` before an iteration -/
structure Collecting where
  response : StreamResponse
  body : Bytes

/-- How an iteration ends -/
inductive Iteration where
  | again (state : Collecting)
  | returned (result : Except Error Bytes)
  | overflowed

namespace Collecting

/-- One iteration; subtraction saturates. -/
def iterate (limit : Nat) (state : Collecting) : Iteration :=
  match state.response.nextChunk with
  | (.error error, _) => .returned (.error error)
  | (.ok none, _) => .returned (.ok state.body)
  | (.ok (some chunk), response) =>
      if chunk.length > limit - state.body.length then .returned (.error (bodyTooLarge limit))
      else
        match extendFromSlice state.body chunk with
        | none => .overflowed
        | some body => .again { response, body }

/-- The loop goes on from one state to the next. -/
def Continues (limit : Nat) (state next : Collecting) : Prop :=
  state.iterate limit = .again next

/-- An iteration that goes on has read a chunk that still fits, and appended it. -/
theorem Continues.spec {limit : Nat} {state next : Collecting}
    (goesOn : Continues limit state next)
    : state.response.cancellation = false
      ∧ ∃ chunk rest, state.response.body = some (.ok chunk :: rest)
        ∧ chunk.length ≤ limit - state.body.length
        ∧ next = ⟨{ state.response with body := some rest }, state.body ++ chunk⟩ := by
  unfold Continues iterate at goesOn
  split at goesOn
  · cases goesOn
  · cases goesOn
  · next chunk after read =>
      obtain ⟨active, rest, body, rfl⟩ := StreamResponse.nextChunk_chunk read
      split at goesOn
      · cases goesOn
      · next fits =>
          unfold extendFromSlice at goesOn
          split at goesOn
          · cases goesOn
          · next extended =>
              cases goesOn
              split at extended
              · cases extended
                exact ⟨active, chunk, rest, body, Nat.le_of_not_gt fits, rfl⟩
              · cases extended

/-- An iteration that goes on leaves less to read. -/
theorem Continues.remaining_lt {limit : Nat} {state next : Collecting}
    (goesOn : Continues limit state next)
    : next.response.remaining < state.response.remaining := by
  obtain ⟨_, chunk, rest, body, _, rfl⟩ := goesOn.spec
  simp [StreamResponse.remaining, body]

/-- The loop; there is no result if it panics. -/
def run (limit : Nat) (state : Collecting) : Option (Except Error Bytes) :=
  match _goesOn : state.iterate limit with
  | .again next => next.run limit
  | .returned result => some result
  | .overflowed => none
  termination_by state.response.remaining
  decreasing_by exact Continues.remaining_lt _goesOn

end Collecting

/-- `Client::request_with_options`, once `stream_with_options` has answered -/
def Client.requestWithOptions (client : Client) (streamed : Except Error StreamResponse)
    : Option (Except Error Response) :=
  match streamed with
  | .error error => some (.error error)
  | .ok response =>
      (Collecting.run client.limit { response, body := [] }).map
        (fun result => result.map (fun body => { response.head with body }))

-----------------------------------------------------------------------------------------
-- What the loop computes
-----------------------------------------------------------------------------------------

namespace Collecting

/-- The loop on a body that was not cancelled -/
def reading (head : Response) (script : Script) (body : Bytes) : Collecting where
  response := .new head script
  body := body

/-- A body that has ended is returned as collected. -/
@[simp] theorem iterate_nil (limit : Nat) (head : Response) (body : Bytes)
    : (reading head [] body).iterate limit = .returned (.ok body) := rfl

/-- An error of the body is returned. -/
@[simp] theorem iterate_error (limit : Nat) (head : Response) (error : Error) (rest : Script)
    (body : Bytes)
    : (reading head (.error error :: rest) body).iterate limit = .returned (.error error) := rfl

/-- A chunk is appended exactly where the whole stays under the limit. -/
theorem iterate_chunk {limit : Nat} (fits : limit ≤ vecMax) (head : Response) (chunk : Bytes)
    (rest : Script) {body : Bytes} (under : body.length ≤ limit)
    : (reading head (.ok chunk :: rest) body).iterate limit
      = if (body ++ chunk).length ≤ limit then .again (reading head rest (body ++ chunk))
        else .returned (.error (bodyTooLarge limit)) := by
  have read
      : (StreamResponse.new head (.ok chunk :: rest)).nextChunk
        = (.ok (some chunk), .new head rest) := rfl
  simp only [iterate, reading, read, extendFromSlice, List.length_append]
  by_cases room : body.length + chunk.length ≤ limit
  · have small : ¬ chunk.length > limit - body.length := by omega
    have held : body.length + chunk.length ≤ vecMax := by omega
    simp [room, small, held]
  · have large : chunk.length > limit - body.length := by omega
    simp [room, large]

/-- What is collected stays under the limit. -/
theorem Continues.under {limit : Nat} {state next : Collecting}
    (goesOn : Continues limit state next) (under : state.body.length ≤ limit)
    : next.body.length ≤ limit := by
  obtain ⟨_, chunk, rest, _, fits, rfl⟩ := goesOn.spec
  simp only [List.length_append]
  omega

/-- Below the limit the new length is at most the limit, so it does not overflow. -/
theorem iterate_ne_overflowed {limit : Nat} (fits : limit ≤ vecMax) {state : Collecting}
    (under : state.body.length ≤ limit)
    : state.iterate limit ≠ .overflowed := by
  unfold iterate
  split
  · nofun
  · nofun
  · next chunk response _ =>
      split
      · nofun
      · next small =>
          have held : state.body.length + chunk.length ≤ vecMax := by omega
          simp [extendFromSlice, held]

/-- The loop returns, by induction on its iterations. -/
theorem run_isSome {limit : Nat} (fits : limit ≤ vecMax) {state : Collecting}
    (under : state.body.length ≤ limit)
    : (state.run limit).isSome = true := by
  fun_induction run limit state with
  | case1 state next goesOn ih => exact ih (Continues.under goesOn under)
  | case2 => rfl
  | case3 state overflows => exact absurd overflows (iterate_ne_overflowed fits under)

/-- The loop follows its iterations. -/
theorem run_eq (limit : Nat) (state : Collecting)
    : state.run limit
      = match state.iterate limit with
        | .again next => next.run limit
        | .returned result => some result
        | .overflowed => none := by
  rw [run]
  split <;> simp_all

/-- The loop returns a body exactly where nothing fails and everything fits, by induction on what
is left to read.
-/
theorem run_ok_iff {limit : Nat} (fits : limit ≤ vecMax) (head : Response) (script : Script)
    {body : Bytes} (under : body.length ≤ limit) (whole : Bytes)
    : (reading head script body).run limit = some (.ok whole)
      ↔ ∃ chunks : List Bytes, script = chunks.map .ok ∧ whole = body ++ chunks.flatten
        ∧ whole.length ≤ limit := by
  induction script generalizing body with
  | nil =>
      rw [run_eq, iterate_nil]
      constructor
      · rintro ⟨⟩
        exact ⟨[], rfl, by simp, under⟩
      · rintro ⟨chunks, none, rfl, _⟩
        cases chunks with
        | nil => simp
        | cons chunk rest => cases none
  | cons item rest ih =>
      cases item with
      | error error =>
          rw [run_eq, iterate_error]
          apply iff_of_false
          · rintro ⟨⟩
          · rintro ⟨chunks, broken, _⟩
            cases chunks with
            | nil => cases broken
            | cons chunk chunks => cases broken
      | ok chunk =>
          have split {chunks : List Bytes} (same : Except.ok chunk :: rest = chunks.map .ok)
              : ∃ others, chunks = chunk :: others ∧ rest = others.map .ok := by
            obtain ⟨first, others, rfl, start, tail⟩ := List.map_eq_cons_iff.mp same.symm
            cases start
            exact ⟨others, rfl, tail.symm⟩
          rw [run_eq, iterate_chunk fits head chunk rest under]
          by_cases room : (body ++ chunk).length ≤ limit
          · rw [if_pos room]
            simp only
            rw [ih room]
            constructor
            · rintro ⟨chunks, rfl, rfl, held⟩
              exact ⟨chunk :: chunks, rfl, by simp, held⟩
            · rintro ⟨chunks, same, rfl, held⟩
              obtain ⟨others, rfl, tail⟩ := split same
              exact ⟨others, tail, by simp, held⟩
          · rw [if_neg room]
            apply iff_of_false
            · rintro ⟨⟩
            · rintro ⟨chunks, same, rfl, held⟩
              obtain ⟨others, rfl, _⟩ := split same
              simp only [List.flatten_cons, List.length_append] at held room
              omega

/-- Without errors the loop compares the whole with the limit, whatever its chunks are; by
induction on them.
-/
theorem run_chunks {limit : Nat} (fits : limit ≤ vecMax) (head : Response) (chunks : List Bytes)
    {body : Bytes} (under : body.length ≤ limit)
    : (reading head (chunks.map .ok) body).run limit
      = some (if (body ++ chunks.flatten).length ≤ limit then .ok (body ++ chunks.flatten)
          else .error (bodyTooLarge limit)) := by
  induction chunks generalizing body with
  | nil =>
      rw [List.map_nil, run_eq, iterate_nil]
      simp [under]
  | cons chunk rest ih =>
      rw [List.map_cons, run_eq, iterate_chunk fits head chunk _ under]
      by_cases room : (body ++ chunk).length ≤ limit
      · rw [if_pos room]
        simp only
        rw [ih room]
        simp
      · have excess : ¬ (body ++ (chunk :: rest).flatten).length ≤ limit := by
          simp only [List.flatten_cons, List.length_append] at room ⊢
          omega
        rw [if_neg room, if_neg excess]

end Collecting

-----------------------------------------------------------------------------------------
-- The loop over reads step by step
-----------------------------------------------------------------------------------------

/-- The response is what the steps of its reads have left, and no call is going on. -/
structure StreamResponse.Rests (response : StreamResponse) (state : Stream.State Script)
    : Prop where
  free : state.lock.order = []
  token : state.cancellation = response.cancellation
  body : state.body = response.body

/-- A read is called and returns, and no other call takes a step between. -/
def Stream.State.Reads (state : Stream.State Script) (result : Stream.Result)
    (next : Stream.State Script) : Prop :=
  ∃ id events, state.reads id = .unpolled
    ∧ (∀ event ∈ events, Stream.Event.reader event = some id)
    ∧ Run (Stream.Step Script.Answers) state (events ++ [.ret id result]) next

/-- Such a read does what `nextChunk` says. -/
theorem Stream.State.Reads.nextChunk {state next : Stream.State Script} {result : Stream.Result}
    (reads : state.Reads result next) {response : StreamResponse} (rests : response.Rests state)
    : ∃ after, response.nextChunk = (result, after) ∧ after.Rests next := by
  obtain ⟨id, events, fresh, own, run⟩ := reads
  obtain ⟨same, body, token, free⟩ :=
    nextChunk_alone rests.free rests.token rests.body fresh own run
  refine ⟨response.nextChunk.2, Prod.ext same.symm rfl, free, ?_, body⟩
  exact token.trans response.nextChunk_cancellation.symm

/-- The loop of `request_with_options` on reads that are made step by step, and what it returns.
-/
inductive Collects (limit : Nat)
    : Stream.State Script → Bytes → Option (Except Error Bytes) → Prop where
  | failed {state next body error} (read : state.Reads (.error error) next)
    : Collects limit state body (some (.error error))
  | ended {state next body} (read : state.Reads (.ok none) next)
    : Collects limit state body (some (.ok body))
  | tooLarge {state next body chunk} (read : state.Reads (.ok (some chunk)) next)
    (exceeds : chunk.length > limit - body.length)
    : Collects limit state body (some (.error (bodyTooLarge limit)))
  | overflows {state next body chunk} (read : state.Reads (.ok (some chunk)) next)
    (fits : ¬chunk.length > limit - body.length) (full : extendFromSlice body chunk = none)
    : Collects limit state body none
  | again {state next body chunk longer outcome} (read : state.Reads (.ok (some chunk)) next)
    (fits : ¬chunk.length > limit - body.length)
    (extended : extendFromSlice body chunk = some longer)
    (rest : Collects limit next longer outcome)
    : Collects limit state body outcome

/-- What it returns is what the loop on `nextChunk` computes, by induction on its iterations. -/
theorem Collects.run_eq {limit : Nat} {state : Stream.State Script} {body : Bytes}
    {outcome : Option (Except Error Bytes)} (collects : Collects limit state body outcome)
    {response : StreamResponse} (rests : response.Rests state)
    : Collecting.run limit { response, body } = outcome := by
  induction collects generalizing response with
  | failed read =>
      obtain ⟨after, reads, _⟩ := read.nextChunk rests
      simp [Collecting.run_eq, Collecting.iterate, reads]
  | ended read =>
      obtain ⟨after, reads, _⟩ := read.nextChunk rests
      simp [Collecting.run_eq, Collecting.iterate, reads]
  | tooLarge read exceeds =>
      obtain ⟨after, reads, _⟩ := read.nextChunk rests
      simp [Collecting.run_eq, Collecting.iterate, reads, exceeds]
  | overflows read fits full =>
      obtain ⟨after, reads, _⟩ := read.nextChunk rests
      simp [Collecting.run_eq, Collecting.iterate, reads, fits, full]
  | again read fits extended _ ih =>
      obtain ⟨after, reads, left⟩ := read.nextChunk rests
      rw [Collecting.run_eq]
      simpa [Collecting.iterate, reads, fits, extended] using ih left

/-- A limit is far below what a `Vec` can hold. -/
theorem Client.limit_le (client : Client) : client.limit ≤ vecMax := by
  have word := client.maxResponseBytes.toNat_lt
  unfold limit vecMax
  omega

/-- What a request returns from a new response is what the loop collects from its script. -/
theorem Client.requestWithOptions_new (client : Client) (head : Response) (script : Script)
    : client.requestWithOptions (.ok (.new head script))
      = ((Collecting.reading head script []).run client.limit).map
          (fun result => result.map (fun body => { head with body })) := rfl

/-- So a request returns what the loop returns on a body that is read step by step. -/
theorem Client.requestWithOptions_reads {client : Client} {script : Script}
    {outcome : Option (Except Error Bytes)}
    (collects : Collects client.limit (.new script) [] outcome) (head : Response)
    : client.requestWithOptions (.ok (.new head script))
      = outcome.map (fun result => result.map (fun body => { head with body })) := by
  have rests : (StreamResponse.new head script).Rests (.new script) := ⟨rfl, rfl, rfl⟩
  rw [client.requestWithOptions_new, Collecting.reading, collects.run_eq rests]

/-- A request returns a response if and only if the body ends without an error and is no longer than
the limit, and then it returns the whole body. How the body is cut into chunks does not matter.
While it is collected, it never exceeds the limit and no length overflows.
-/
theorem request_with_options_collects (client : Client) (head : Response) (script : Script)
    : (∀ response,
        client.requestWithOptions (.ok (.new head script)) = some (.ok response)
        ↔ ∃ chunks : List Bytes, script = chunks.map .ok ∧ chunks.flatten.length ≤ client.limit
          ∧ response = { head with body := chunks.flatten })
      ∧ (∀ left right : List Bytes,
        left.flatten = right.flatten
        → client.requestWithOptions (.ok (.new head (left.map .ok)))
          = client.requestWithOptions (.ok (.new head (right.map .ok))))
      ∧ (∀ state,
        Relation.ReflTransGen (Collecting.Continues client.limit) ⟨.new head script, []⟩ state
        → state.body.length ≤ client.limit ∧ state.iterate client.limit ≠ .overflowed)
      ∧ (client.requestWithOptions (.ok (.new head script))).isSome = true := by
  have fits := client.limit_le
  have empty : ([] : Bytes).length ≤ client.limit := Nat.zero_le _
  refine ⟨?_, ?_, ?_, ?_⟩
  · intro response
    rw [client.requestWithOptions_new, Option.map_eq_some_iff]
    constructor
    · rintro ⟨result, collected, same⟩
      cases result with
      | error error => cases same
      | ok whole =>
          cases same
          obtain ⟨chunks, rfl, rfl, held⟩ :=
            (Collecting.run_ok_iff fits head script empty whole).mp collected
          exact ⟨chunks, rfl, held, rfl⟩
    · rintro ⟨chunks, rfl, held, rfl⟩
      have collected := (Collecting.run_ok_iff fits head (chunks.map .ok) empty chunks.flatten).mpr
        ⟨chunks, rfl, rfl, held⟩
      exact ⟨_, collected, rfl⟩
  · intro left right same
    rw [client.requestWithOptions_new, client.requestWithOptions_new,
      Collecting.run_chunks fits head left empty, Collecting.run_chunks fits head right empty, same]
  · intro state reached
    have under : state.body.length ≤ client.limit := by
      induction reached with
      | refl => exact empty
      | tail _ goesOn ih => exact goesOn.under ih
    exact ⟨under, Collecting.iterate_ne_overflowed fits under⟩
  · rw [client.requestWithOptions_new, Option.isSome_map]
    exact Collecting.run_isSome fits empty

end Tlsurl.Core
