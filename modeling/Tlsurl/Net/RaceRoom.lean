import Mathlib.Data.List.Nodup
import Tlsurl.Net.RaceRuns

/-! When an attempt in progress is given up for an attempt that takes its place.
Room is made before the next candidate is known to have a socket. An attempt is canceled for
nothing exactly where none of the addresses that remain can be set up.
-/

namespace Tlsurl.Net

open Library

variable {C E : Type} {merge : List SocketAddr} {state : ConnectingTcpState E}
  {log : List (Log C E)}

/-- The attempts in progress; those of a race that has returned are dropped with its state. -/
def Race.inProgress (race : Race C E) : List ConnectingTcpAttempt :=
  match race.phase with
  | .waiting _ => race.state.attempts
  | .returned _ => []

/-- A poll that finds an attempt pending and leaves it in progress no more. -/
def GivesUp (race : Race C E) (tick : Tick C E) (after : Race C E)
    (attempt : ConnectingTcpAttempt)
    : Prop :=
  attempt ∈ race.inProgress ∧ tick.yields attempt.order = .pending ∧ attempt ∉ after.inProgress

/-- Attempts are given up only for a newer one that is in progress, or because the race ends with
a connection.
-/
def CancelsToReplace (race : Race C E) (tick : Tick C E) (after : Race C E) : Prop :=
  ∀ attempt, GivesUp race tick after attempt
    → (∃ newer ∈ after.inProgress, race.state.nextAttemptOrder ≤ newer.order)
      ∨ ∃ connection, after.phase = .returned (.ok connection)

/-- One of the addresses that remain can be set up when its turn comes. -/
def ConnectingTcpState.Settable (setup : Setup E) (state : ConnectingTcpState E) : Prop :=
  ∃ index addr, state.remaining[index]? = some addr
    ∧ setup (state.nextAttemptOrder + index) addr = none

/-- A delay that is over while as many attempts as may be are pending comes only when one of the
addresses that remain can be set up.
-/
def Replaceable (setup : Setup E) (race : Race C E) (tick : Tick C E) : Prop :=
  race.phase = .waiting true → tick.slept = true
    → maxParallelConnectAttempts ≤ race.state.attempts.length
    → (∀ attempt ∈ race.state.attempts, tick.yields attempt.order = .pending)
    → race.state.Settable setup

-----------------------------------------------------------------------------------------
-- Launching and polling
-----------------------------------------------------------------------------------------

/-- An address that cannot be set up leaves the question to those after it. -/
theorem settable_of_failed {setup : Setup E} {next : ConnectingTcpState E} {addr : SocketAddr}
    {error : ConnectError E} (first : state.remaining = addr :: next.remaining)
    (numbered : next.nextAttemptOrder = state.nextAttemptOrder + 1)
    (failed : setup state.nextAttemptOrder addr = some error)
    : state.Settable setup ↔ next.Settable setup := by
  constructor
  · rintro ⟨index, other, found, set⟩
    cases index with
    | zero =>
        rw [first, List.getElem?_cons_zero, Option.some.injEq] at found
        cases found
        cases failed.symm.trans set
    | succ index =>
        rw [first, List.getElem?_cons_succ] at found
        refine ⟨index, other, found, ?_⟩
        rw [numbered, Nat.add_assoc, Nat.add_comm 1]
        exact set
  · rintro ⟨index, other, found, set⟩
    refine ⟨index + 1, other, by rw [first, List.getElem?_cons_succ, found], ?_⟩
    rw [← set, numbered, Nat.add_assoc, Nat.add_comm 1]

/-- Launching succeeds exactly if some remaining address can be set up, and then with a new
attempt after the others, by induction on the turns.
-/
theorem launchLoop_cases (setup : Setup E) {turns : Nat}
    (enough : state.remaining.length ≤ turns)
    : (∃ after made attempt, state.launchLoop (C := C) setup turns = (true, after, made)
          ∧ state.Settable setup
          ∧ after.attempts = state.attempts ++ [attempt]
          ∧ state.nextAttemptOrder ≤ attempt.order)
      ∨ ∃ after made, state.launchLoop (C := C) setup turns = (false, after, made)
          ∧ ¬ state.Settable setup
          ∧ after.attempts = state.attempts := by
  induction turns generalizing state with
  | zero =>
      have empty : state.remaining = [] := List.length_eq_zero_iff.mp (Nat.le_zero.mp enough)
      refine .inr ⟨state, [], rfl, ?_, rfl⟩
      simp [ConnectingTcpState.Settable, empty]
  | succ turns ih =>
      rcases state.next_addr with
        ⟨exhausted, empty⟩ | ⟨useFallback, chosen, addr, preferred, fallback, nextFallback, next,
          taken, first⟩
      · refine .inr ⟨state, [], by simp [ConnectingTcpState.launchLoop, exhausted], ?_, rfl⟩
        simp [ConnectingTcpState.Settable, empty]
      · simp only [ConnectingTcpState.launchLoop, next, taken]
        cases set : setup state.nextAttemptOrder addr with
        | none =>
            refine .inl ⟨_, _, _, rfl, ⟨0, addr, by simp [first], set⟩, rfl, Nat.le_refl _⟩
        | some error =>
            rw [first, List.length_cons] at enough
            let failing : ConnectingTcpState E :=
              { state with
                preferred, fallback, nextFallback
                nextAttemptOrder := state.nextAttemptOrder + 1
                firstError := recordError state.firstError state.nextAttemptOrder
                  (error.withAddr addr) }
            have same : state.Settable setup ↔ failing.Settable setup :=
              settable_of_failed first rfl set
            rcases @ih failing (Nat.le_of_succ_le_succ enough) with
              ⟨after, made, attempt, loop, settable, added, newer⟩
                | ⟨after, made, loop, unsettable, kept⟩
            · refine .inl ⟨after, .connecting state.nextAttemptOrder addr
                :: .failed state.nextAttemptOrder (error.withAddr addr) :: made, attempt, ?_,
                same.mpr settable, added, Nat.le_of_succ_le newer⟩
              simp only [failing] at loop
              simp only [loop]
            · refine .inr ⟨after, .connecting state.nextAttemptOrder addr
                :: .failed state.nextAttemptOrder (error.withAddr addr) :: made, ?_,
                fun settable => unsettable (same.mp settable), kept⟩
              simp only [failing] at loop
              simp only [loop]

/-- Where nothing connects, the attempts that were found pending stay, by induction on them. -/
theorem attempts_pollLoop {yields : Nat → Poll C E} {firstError : Option (Nat × ConnectError E)}
    {attempts : List ConnectingTcpAttempt}
    (unconnected : (pollLoop yields firstError attempts).connected = none)
    : ∀ attempt, attempt ∈ (pollLoop yields firstError attempts).attempts
        ↔ attempt ∈ attempts ∧ yields attempt.order = .pending := by
  induction attempts generalizing firstError with
  | nil => simp [pollLoop]
  | cons first rest ih =>
      intro attempt
      cases polled : yields first.order with
      | pending =>
          simp only [pollLoop, polled] at unconnected ⊢
          rw [List.mem_cons, List.mem_cons, ih unconnected]
          constructor
          · rintro (rfl | later)
            · exact ⟨.inl rfl, polled⟩
            · exact ⟨.inr later.1, later.2⟩
          · rintro ⟨rfl | later, pending⟩
            · exact .inl rfl
            · exact .inr ⟨later, pending⟩
      | ready result =>
          cases result with
          | ok connection => simp [pollLoop, polled] at unconnected
          | error error =>
              simp only [pollLoop, polled] at unconnected ⊢
              rw [ih unconnected, List.mem_cons]
              constructor
              · rintro ⟨later, pending⟩
                exact ⟨.inr later, pending⟩
              · rintro ⟨rfl | later, pending⟩
                · cases polled.symm.trans pending
                · exact ⟨later, pending⟩

/-- Polling removes attempts only. -/
theorem pollLoop_sublist (yields : Nat → Poll C E) (firstError : Option (Nat × ConnectError E))
    (attempts : List ConnectingTcpAttempt)
    : (pollLoop yields firstError attempts).attempts.Sublist attempts := by
  induction attempts generalizing firstError with
  | nil => exact .slnil
  | cons first rest ih =>
      unfold pollLoop
      split
      · exact (ih _).cons_cons _
      · exact .cons _ (.refl _)
      · exact (ih _).cons _

/-- Polling attempts that are all pending leaves them as they are, by induction on them. -/
theorem pollLoop_of_pending {yields : Nat → Poll C E}
    (firstError : Option (Nat × ConnectError E)) {attempts : List ConnectingTcpAttempt}
    (pending : ∀ attempt ∈ attempts, yields attempt.order = .pending)
    : (pollLoop yields firstError attempts).attempts = attempts := by
  induction attempts with
  | nil => rfl
  | cons first rest ih =>
      have later := ih (fun attempt member => pending attempt (List.mem_cons_of_mem _ member))
      simp only [pollLoop, pending first List.mem_cons_self, later]

/-- The active attempts are numbered before those to come. -/
theorem Accounted.order_lt (accounted : Accounted merge state log)
    {attempt : ConnectingTcpAttempt} (active : attempt ∈ state.attempts)
    : attempt.order < state.nextAttemptOrder := by
  rw [← List.mem_range, ← accounted.settled.mem_iff]
  exact List.mem_append_left _ (List.mem_map_of_mem active)

/-- The active attempts are different. -/
theorem Accounted.nodup_attempts (accounted : Accounted merge state log)
    : state.attempts.Nodup := by
  have orders := accounted.settled.nodup_iff.mpr List.nodup_range
  exact List.Nodup.of_map _ (List.nodup_append.mp orders).1

/-- The end of the loop, where attempts are left: they stay in progress, and a new one joins them
exactly if some remaining address can be set up.
-/
theorem next_cases (setup : Setup E) (active : state.attempts ≠ [])
    : (∃ attempt, (Race.next (C := C) setup state log).inProgress = state.attempts ++ [attempt]
          ∧ state.Settable setup ∧ state.nextAttemptOrder ≤ attempt.order)
      ∨ (Race.next (C := C) setup state log).inProgress = state.attempts
          ∧ ¬ state.Settable setup
          ∧ ∃ sleeping, (Race.next (C := C) setup state log).phase = .waiting sleeping := by
  have waits (after : ConnectingTcpState E) (log : List (Log C E)) (busy : after.attempts ≠ [])
      : (Race.enter setup after log).inProgress = after.attempts
        ∧ ∃ sleeping, (Race.enter setup after log).phase = .waiting sleeping := by
    unfold Race.enter
    rw [if_neg (by simpa using busy)]
    exact ⟨rfl, _, rfl⟩
  unfold Race.next
  rcases launchLoop_cases (C := C) setup (Nat.le_of_eq state.length_remaining) with
    ⟨after, made, attempt, launch, settable, added, newer⟩ | ⟨after, made, launch, unsettable, same⟩
  · rw [ConnectingTcpState.launchNext, launch]
    refine .inl ⟨attempt, ?_, settable, newer⟩
    rw [← added]
    exact (waits _ _ (by simp [added])).1
  · rw [ConnectingTcpState.launchNext, launch]
    obtain ⟨progress, waiting⟩ := waits after (log ++ made) (same ▸ active)
    exact .inr ⟨same ▸ progress, unsettable, waiting⟩

/-- What follows the delay: with a place free every attempt stays, else the oldest makes room, and
a new one takes its place exactly if some remaining address can be set up.
-/
theorem Running.delay_cases (running : Running merge state log) (setup : Setup E)
    (active : state.attempts ≠ [])
    : ∃ made canceled, state.makeRoomForNextAttempt = (made, canceled)
      ∧ (state.attempts.length < maxParallelConnectAttempts
          ∧ (∀ attempt ∈ state.attempts,
              attempt ∈ (Race.next setup made (log ++ canceled)).inProgress)
        ∨ maxParallelConnectAttempts ≤ state.attempts.length
          ∧ ∃ oldest ∈ state.attempts,
            ((∃ newer ∈ (Race.next setup made (log ++ canceled)).inProgress,
                state.nextAttemptOrder ≤ newer.order)
              ∧ state.Settable setup
              ∧ ∀ attempt ∈ state.attempts, attempt ≠ oldest
                → attempt ∈ (Race.next setup made (log ++ canceled)).inProgress)
            ∨ ¬ state.Settable setup
              ∧ oldest ∉ (Race.next setup made (log ++ canceled)).inProgress
              ∧ (∀ attempt ∈ (Race.next setup made (log ++ canceled)).inProgress,
                  attempt ∈ state.attempts)
              ∧ ∃ sleeping,
                  (Race.next setup made (log ++ canceled)).phase = .waiting sleeping) := by
  unfold ConnectingTcpState.makeRoomForNextAttempt
  by_cases room : state.attempts.length < maxParallelConnectAttempts
  · refine ⟨state, [], if_pos room, .inl ⟨room, fun attempt member => ?_⟩⟩
    rcases next_cases setup active with ⟨_, joined, _⟩ | ⟨same, _⟩
    · rw [joined]
      exact List.mem_append_left _ member
    · rw [same]
      exact member
  · rw [if_neg room]
    have distinct := running.nodup_attempts
    cases attempts : state.attempts with
    | nil => exact absurd attempts active
    | cons oldest rest =>
        rw [attempts] at distinct room
        refine ⟨_, _, rfl, .inr ⟨Nat.not_lt.mp room, oldest, List.mem_cons_self, ?_⟩⟩
        have others : rest ≠ [] := by
          rintro rfl
          exact room (by rw [List.length_singleton]; decide)
        rcases @next_cases C E { state with attempts := rest }
            (log ++ [.canceled oldest.order oldest.addr]) setup others with
          ⟨newer, joined, settable, later⟩ | ⟨same, unsettable, waiting⟩
        · refine .inl ⟨⟨newer, by simp [joined], later⟩, settable, ?_⟩
          intro attempt member other
          rw [joined]
          exact List.mem_append_left _ ((List.mem_cons.mp member).resolve_left other)
        · refine .inr ⟨unsettable, ?_, ?_, waiting⟩
          · rw [same]
            exact (List.nodup_cons.mp distinct).1
          · intro attempt member
            rw [same] at member
            exact List.mem_cons_of_mem _ member

-----------------------------------------------------------------------------------------
-- One poll
-----------------------------------------------------------------------------------------

/-- Where the attempts found pending stay in progress, none is given up. -/
theorem cancelsToReplace_of_kept {race after : Race C E} {tick : Tick C E}
    (kept
      : ∀ attempt ∈ race.inProgress, tick.yields attempt.order = .pending
          → attempt ∈ after.inProgress)
    : CancelsToReplace race tick after :=
  fun attempt ⟨active, pending, lost⟩ => absurd (kept attempt active pending) lost

/-- In a sound race, a poll gives attempts up only to replace them exactly if one that finds the
delay over and all places taken by pending attempts comes while some address can be set up.
-/
theorem Race.Sound.replaces_iff {setup : Setup E} {race after : Race C E} {tick : Tick C E}
    (sound : race.Sound merge) (step : Step setup race tick after)
    : CancelsToReplace race tick after ↔ Replaceable setup race tick := by
  obtain ⟨sleeping, waiting, rfl⟩ := step
  obtain ⟨running, active⟩ := sound.waits sleeping waiting
  have progress : race.inProgress = race.state.attempts := by rw [inProgress, waiting]
  have polled := pollLoop_sound tick.yields race.state.firstError race.state.attempts
  have most : race.state.attempts.length ≤ maxParallelConnectAttempts := by
    rw [running.inFlight]
    exact sound.bounded _ (List.prefix_refl _)
  unfold Race.poll
  cases connected : (pollLoop tick.yields race.state.firstError race.state.attempts).connected with
  | some connection =>
      simp only [connected]
      refine iff_of_true (fun _ _ => .inr ⟨connection, rfl⟩) ?_
      intro _ _ _ pending
      obtain ⟨attempt, member, succeeds⟩ :=
        List.exists_of_findSome?_eq_some (polled.connected.symm.trans connected)
      simp [succeeded, pending attempt member] at succeeds
  | none =>
      have stays := attempts_pollLoop connected
      simp only [connected]
      split
      next failed =>
        have empty := List.isEmpty_iff.mp (Bool.and_eq_true_iff.mp failed).2
        have none (attempt : ConnectingTcpAttempt) (member : attempt ∈ race.state.attempts)
            : tick.yields attempt.order ≠ .pending := by
          intro pending
          have left := (stays attempt).mpr ⟨member, pending⟩
          rw [empty] at left
          cases left
        refine iff_of_true (cancelsToReplace_of_kept ?_) ?_
        · intro attempt member pending
          exact absurd pending (none attempt (progress ▸ member))
        · intro _ _ _ pending
          obtain ⟨attempt, member⟩ := List.exists_mem_of_ne_nil _ active
          exact absurd (pending attempt member) (none attempt member)
      next unfailed =>
        have left
            : (pollLoop tick.yields race.state.firstError race.state.attempts).attempts ≠ [] := by
          intro empty
          cases failed
              : (pollLoop tick.yields race.state.firstError race.state.attempts).failed with
          | true => exact unfailed (by rw [failed, empty]; rfl)
          | false => exact active ((polled.unchanged connected failed).symm.trans empty)
        split
        next slept =>
          obtain ⟨rfl, slept⟩ := Bool.and_eq_true_iff.mp slept
          have later := running.polled polled connected
          obtain ⟨made, canceled, room, delayed⟩ := later.delay_cases setup left
          rw [room]
          rcases delayed with ⟨room, kept⟩ | ⟨full, oldest, member, replaced⟩
          · refine iff_of_true (cancelsToReplace_of_kept ?_) ?_
            · intro attempt member pending
              exact kept attempt ((stays attempt).mpr ⟨progress ▸ member, pending⟩)
            · intro _ _ many pending
              have same := pollLoop_of_pending race.state.firstError pending
              simp only [same] at room
              exact absurd room (Nat.not_lt.mpr many)
          · have active := (stays oldest).mp member
            rcases replaced with ⟨newer, settable, _⟩ | ⟨unsettable, lost, others, sleeping, waits⟩
            · exact iff_of_true (fun _ _ => .inl newer) (fun _ _ _ _ => settable)
            · have whole := (pollLoop_sublist tick.yields race.state.firstError
                race.state.attempts).eq_of_length_le (Nat.le_trans most full)
              refine iff_of_false ?_ ?_
              · intro replaces
                rcases replaces oldest ⟨progress ▸ active.1, active.2, lost⟩ with
                  ⟨newer, busy, later⟩ | ⟨connection, returned⟩
                · have before := ((stays newer).mp (others newer busy)).1
                  exact absurd (running.order_lt before) (Nat.not_lt.mpr later)
                · have both : Phase.waiting sleeping = .returned (.ok connection) :=
                    waits.symm.trans returned
                  cases both
              · intro replaceable
                refine unsettable (replaceable waiting slept ?_ ?_)
                · rw [← whole]
                  exact full
                · intro attempt member
                  rw [← whole] at member
                  exact ((stays attempt).mp member).2
        next unslept =>
          refine iff_of_true (cancelsToReplace_of_kept ?_) ?_
          · intro attempt member pending
            exact (stays attempt).mpr ⟨progress ▸ member, pending⟩
          · intro timed slept
            cases waiting.symm.trans timed
            exact absurd slept (by simpa using unslept)

-----------------------------------------------------------------------------------------
-- Whole races
-----------------------------------------------------------------------------------------

/-- A race gives attempts in progress up only to replace them if and only if no delay is over
with all places taken by pending attempts and no remaining address that can be set up.
-/
theorem cancels_to_replace_iff (setup : Setup E) (addrs : List SocketAddr)
    (localAddrIpv4 : Option (BitVec 32)) (localAddrIpv6 : Option (BitVec 128))
    (delay : Option Nat) (ticks : List (Tick C E)) (race : Race C E)
    : let start :=
        Race.start setup (ConnectingTcpState.new addrs localAddrIpv4 localAddrIpv6 delay)
      Run (Having CancelsToReplace (Step setup)) start ticks race
        ↔ Run (Guarded (Replaceable setup) (Step setup)) start ticks race := by
  refine Run.having_iff_guarded (run_sound ?_ .nil) (fun sound step _ => sound.step step)
    (fun sound step => sound.replaces_iff step)
  cases delay <;> exact ⟨rfl, rfl, rfl⟩

/-- Eight addresses of one family, the last two of which cannot be set up -/
def eightAddrs : List SocketAddr :=
  [1, 2, 3, 4, 5, 6, 7, 8].map (fun last => .v4 (0xC0000200#32 + BitVec.ofNat 32 last) 443)

/-- The sockets of the first six attempts can be set up. -/
def sixSockets : Setup String := fun order _ =>
  if order < 6 then none else some (.tcp (.other "address not available"))

/-- The race in which `delays` delays went by and no attempt is ready. -/
def waited (delays : Nat) : Race Unit String :=
  delays.repeat
    (fun race => race.poll sixSockets true delayElapsed.yields delayElapsed.slept)
    (Race.start sixSockets (ConnectingTcpState.new eightAddrs none none (some 300)))

/-- The oldest of six pending attempts is canceled although no address that remains can be set
up.
-/
theorem pending_attempt_given_up
    : ¬ ∀ (C E : Type) (setup : Setup E) (addrs : List SocketAddr)
        (localAddrIpv4 : Option (BitVec 32)) (localAddrIpv6 : Option (BitVec 128))
        (delay : Option Nat) (ticks : List (Tick C E)) (race : Race C E) (tick : Tick C E)
        (after : Race C E),
        Run (Step setup)
            (Race.start setup (ConnectingTcpState.new addrs localAddrIpv4 localAddrIpv6 delay))
            ticks race
        → Step setup race tick after → CancelsToReplace race tick after := by
  intro always
  have run : Run (Step sixSockets) (waited 0) [delayElapsed, delayElapsed, delayElapsed
      , delayElapsed, delayElapsed] (waited 5) := by
    apply Run.cons
    · exact ⟨true, rfl, rfl⟩
    apply Run.cons
    · exact ⟨true, rfl, rfl⟩
    apply Run.cons
    · exact ⟨true, rfl, rfl⟩
    apply Run.cons
    · exact ⟨true, rfl, rfl⟩
    apply Run.cons
    · exact ⟨true, rfl, rfl⟩
    exact .nil
  have oldest : (waited 5).inProgress.head? = some ⟨.v4 0xC0000201#32 443, 0⟩ := rfl
  have left : (waited 6).inProgress.map ConnectingTcpAttempt.order = [1, 2, 3, 4, 5] := rfl
  have replaced := always Unit String sixSockets eightAddrs none none (some 300) _ (waited 5)
    delayElapsed (waited 6) run ⟨true, rfl, rfl⟩ ⟨.v4 0xC0000201#32 443, 0⟩
  have lost : (⟨.v4 0xC0000201#32 443, 0⟩ : ConnectingTcpAttempt) ∉ (waited 6).inProgress := by
    intro member
    have among : 0 ∈ (waited 6).inProgress.map ConnectingTcpAttempt.order :=
      List.mem_map.mpr ⟨_, member, rfl⟩
    rw [left] at among
    simp at among
  rcases replaced ⟨List.mem_of_mem_head? oldest, rfl, lost⟩ with
    ⟨newer, busy, later⟩ | ⟨connection, returned⟩
  · have among : newer.order ∈ (waited 6).inProgress.map ConnectingTcpAttempt.order :=
      List.mem_map_of_mem busy
    rw [left] at among
    have next : (waited 5).state.nextAttemptOrder = 6 := rfl
    rw [next] at later
    simp only [List.mem_cons, List.not_mem_nil, or_false] at among
    omega
  · cases returned

end Tlsurl.Net
