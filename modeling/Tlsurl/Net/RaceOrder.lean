import Tlsurl.Library.Alternate
import Tlsurl.Net.Race

/-! What the race of connection attempts guarantees.
The log tells what happened to each attempt. The active attempts and those that failed, were
canceled or connected are together the attempts made so far, whose addresses are the first of the
alternating merge of the families.
-/

namespace Tlsurl.Net

open Library

variable {C E : Type}

-----------------------------------------------------------------------------------------
-- Reading the log
-----------------------------------------------------------------------------------------

/-- The attempts made, in the order in which they were made -/
def attempted (log : List (Log C E)) : List (Nat × SocketAddr) :=
  log.filterMap (fun entry => match entry with
    | .connecting order addr => some (order, addr)
    | _ => none)

/-- The attempts that failed, with their errors -/
def failures (log : List (Log C E)) : List (Nat × ConnectError E) :=
  log.filterMap (fun entry => match entry with
    | .failed order error => some (order, error)
    | _ => none)

/-- The attempts that were canceled to make room -/
def cancellations (log : List (Log C E)) : List Nat :=
  log.filterMap (fun entry => match entry with
    | .canceled order _ => some order
    | _ => none)

/-- The attempts that connected -/
def connections (log : List (Log C E)) : List Nat :=
  log.filterMap (fun entry => match entry with
    | .connected order _ => some order
    | _ => none)

/-- The attempts that are over -/
def ended (log : List (Log C E)) : List Nat :=
  log.filterMap (fun entry => match entry with
    | .connecting _ _ => none
    | .failed order _ => some order
    | .connected order _ => some order
    | .canceled order _ => some order)

section Append

variable (log later : List (Log C E))

@[simp] theorem attempted_append
    : attempted (log ++ later) = attempted log ++ attempted later :=
  List.filterMap_append

@[simp] theorem failures_append : failures (log ++ later) = failures log ++ failures later :=
  List.filterMap_append

@[simp] theorem cancellations_append
    : cancellations (log ++ later) = cancellations log ++ cancellations later :=
  List.filterMap_append

@[simp] theorem connections_append
    : connections (log ++ later) = connections log ++ connections later :=
  List.filterMap_append

@[simp] theorem ended_append : ended (log ++ later) = ended log ++ ended later :=
  List.filterMap_append

end Append

/-- An attempt that is over failed, was canceled or connected. -/
theorem mem_ended {log : List (Log C E)} {order : Nat}
    : order ∈ ended log
      ↔ (∃ error, (order, error) ∈ failures log) ∨ order ∈ cancellations log
        ∨ order ∈ connections log := by
  simp only [ended, failures, cancellations, connections, List.mem_filterMap]
  constructor
  · rintro ⟨entry, member, same⟩
    cases entry with
    | connecting => cases same
    | failed => cases same; exact .inl ⟨_, _, member, rfl⟩
    | connected => cases same; exact .inr (.inr ⟨_, member, rfl⟩)
    | canceled => cases same; exact .inr (.inl ⟨_, member, rfl⟩)
  · rintro (⟨error, entry, member, same⟩ | ⟨entry, member, same⟩ | ⟨entry, member, same⟩)
    all_goals cases entry <;> cases same
    all_goals exact ⟨_, member, rfl⟩

/-- How many attempts were made and are not over -/
def inFlight (log : List (Log C E)) : Nat := (attempted log).length - (ended log).length

/-- Never in the log are more attempts in flight than may be. -/
def Bounded (log : List (Log C E)) : Prop :=
  ∀ moment, moment <+: log → inFlight moment ≤ maxParallelConnectAttempts

/-- Launches are made one by one: at most one of what is logged is in flight. -/
def OneByOne (log : List (Log C E)) : Prop :=
  ∀ moment, moment <+: log → (attempted moment).length ≤ (ended moment).length + 1

theorem oneByOne_nil : OneByOne ([] : List (Log C E)) := by
  intro moment before
  rw [List.prefix_nil.mp before]
  exact Nat.zero_le _

theorem oneByOne_connecting (order : Nat) (addr : SocketAddr)
    : OneByOne ([.connecting order addr] : List (Log C E)) := by
  intro moment before
  rcases List.prefix_cons_iff.mp before with rfl | ⟨_, rfl, rest⟩
  · exact Nat.zero_le _
  · rw [List.prefix_nil.mp rest]
    exact Nat.le_refl _

/-- An attempt that fails at once leaves room for those that follow. -/
theorem OneByOne.cons_failed {log : List (Log C E)} (oneByOne : OneByOne log) (order : Nat)
    (addr : SocketAddr) (error : ConnectError E)
    : OneByOne (.connecting order addr :: .failed order error :: log) := by
  intro moment before
  rcases List.prefix_cons_iff.mp before with rfl | ⟨_, rfl, failed⟩
  · exact Nat.zero_le _
  · rcases List.prefix_cons_iff.mp failed with rfl | ⟨_, rfl, rest⟩
    · exact Nat.le_refl _
    · exact Nat.succ_le_succ (oneByOne _ rest)

/-- What is logged next keeps the bound if what it adds at any moment fits. -/
theorem Bounded.append {log later : List (Log C E)} {room : Nat} (bounded : Bounded log)
    (fits : inFlight log + room ≤ maxParallelConnectAttempts)
    (adds : ∀ moment, moment <+: later → (attempted moment).length ≤ (ended moment).length + room)
    : Bounded (log ++ later) := by
  intro moment before
  rcases Nat.le_total moment.length log.length with early | late
  · exact bounded moment (List.prefix_of_prefix_length_le before (List.prefix_append _ _) early)
  · obtain ⟨added, rfl⟩ := List.prefix_of_prefix_length_le (List.prefix_append _ _) before late
    have added := adds added ((List.prefix_append_right_inj log).mp before)
    simp only [inFlight, attempted_append, ended_append, List.length_append] at fits ⊢
    omega

/-- The error that is kept is that of the earliest attempt that failed. -/
def Earliest (firstError : Option (Nat × ConnectError E))
    (failures : List (Nat × ConnectError E))
    : Prop :=
  match firstError with
  | none => failures = []
  | some kept => kept ∈ failures ∧ ∀ other ∈ failures, kept.1 ≤ other.1

theorem Earliest.recordError {firstError : Option (Nat × ConnectError E)}
    {failures : List (Nat × ConnectError E)} (earliest : Earliest firstError failures)
    (order : Nat) (error : ConnectError E)
    : Earliest (recordError firstError order error) (failures ++ [(order, error)]) := by
  cases firstError with
  | none =>
      obtain rfl := earliest
      simp [Net.recordError, Earliest]
  | some kept =>
      obtain ⟨member, least⟩ := earliest
      by_cases earlier : kept.1 ≤ order
      · rw [Net.recordError, if_pos earlier]
        refine ⟨List.mem_append_left _ member, fun other inside => ?_⟩
        rcases List.mem_append.mp inside with old | new
        · exact least other old
        · rw [List.mem_singleton.mp new]
          exact earlier
      · rw [Net.recordError, if_neg earlier]
        refine ⟨List.mem_append_right _ (List.mem_singleton.mpr rfl), fun other inside => ?_⟩
        rcases List.mem_append.mp inside with old | new
        · have bound := least other old
          show order ≤ other.1
          omega
        · exact Nat.le_of_eq (congrArg Prod.fst (List.mem_singleton.mp new)).symm

-----------------------------------------------------------------------------------------
-- Candidates
-----------------------------------------------------------------------------------------

namespace ConnectingTcpState

/-- The addresses that were not attempted yet, in the order in which they will be -/
def remaining (self : ConnectingTcpState E) : List SocketAddr :=
  if self.nextFallback then alternate (self.fallback.getD []) self.preferred
  else alternate self.preferred (self.fallback.getD [])

theorem length_remaining (self : ConnectingTcpState E)
    : self.remaining.length = self.preferred.length + (self.fallback.getD []).length := by
  unfold remaining
  split
  · rw [(alternate_perm _ _).length_eq, List.length_append, Nat.add_comm]
  · rw [(alternate_perm _ _).length_eq, List.length_append]

/-- `next_remote` and `connect_next` take the first of the remaining addresses. -/
theorem next_addr (self : ConnectingTcpState E)
    : self.nextRemote = none ∧ self.remaining = []
      ∨ ∃ useFallback chosen addr preferred fallback nextFallback,
          self.nextRemote = some (useFallback, chosen)
          ∧ chosen.takeAddr useFallback
            = some (addr, { self with preferred, fallback, nextFallback })
          ∧ self.remaining
            = addr :: ({ self with preferred, fallback, nextFallback }).remaining := by
  obtain ⟨preferred, fallback, nextFallback, timeout, attempts, order, firstError⟩ := self
  have either : (fallback.getD [] = [] ∧ fallback.any (fun fallback => !fallback.isEmpty) = false)
      ∨ ∃ head tail, fallback = some (head :: tail) := by
    cases fallback with
    | none => exact .inl ⟨rfl, rfl⟩
    | some addrs =>
        cases addrs with
        | nil => exact .inl ⟨rfl, rfl⟩
        | cons head tail => exact .inr ⟨head, tail, rfl⟩
  rcases either with ⟨empty, without⟩ | ⟨head, tail, rfl⟩
  · cases preferred with
    | nil =>
        left
        constructor
        · cases nextFallback <;> simp [nextRemote, without]
        · cases nextFallback <;> simp [remaining, empty]
    | cons addr rest =>
        refine .inr ⟨false, ⟨addr :: rest, fallback, true, timeout, attempts, order, firstError⟩,
          addr, rest, fallback, true, ?_, rfl, ?_⟩
        · cases nextFallback <;> simp [nextRemote, without]
        · cases nextFallback <;> simp [remaining, empty]
  · cases preferred with
    | nil =>
        refine .inr ⟨true,
          ⟨[], some (head :: tail), false, timeout, attempts, order, firstError⟩, head, [],
          some tail, false, ?_, rfl, ?_⟩
        · cases nextFallback <;> rfl
        · cases nextFallback <;> simp [remaining]
    | cons addr rest =>
        cases nextFallback with
        | false => exact .inr ⟨false, _, addr, rest, _, true, rfl, rfl, by simp [remaining]⟩
        | true => exact .inr ⟨true, _, head, _, some tail, false, rfl, rfl, by simp [remaining]⟩

end ConnectingTcpState

-----------------------------------------------------------------------------------------
-- The account of the attempts
-----------------------------------------------------------------------------------------

/-- Attempts are numbered in the order of the merge, and each is either active or over. -/
structure Accounted (merge : List SocketAddr) (state : ConnectingTcpState E)
    (log : List (Log C E))
    : Prop where
  ordered : (attempted log).map Prod.snd ++ state.remaining = merge
  numbered : (attempted log).map Prod.fst = List.range state.nextAttemptOrder
  settled
    : (state.attempts.map ConnectingTcpAttempt.order ++ ended log).Perm
        (List.range state.nextAttemptOrder)

/-- A race that goes on: nothing has connected, and the earliest error is kept. -/
structure Running (merge : List SocketAddr) (state : ConnectingTcpState E)
    (log : List (Log C E))
    : Prop extends Accounted merge state log where
  earliest : Earliest state.firstError (failures log)
  unconnected : connections log = []

variable {merge : List SocketAddr} {state : ConnectingTcpState E} {log : List (Log C E)}

section Taken

variable {addr : SocketAddr} {preferred : List SocketAddr} {fallback : Option (List SocketAddr)}
  {nextFallback : Bool}

/-- The account of an attempt at the first of the remaining addresses -/
theorem Accounted.taken (accounted : Accounted merge state log)
    (first
      : state.remaining = addr :: ({ state with preferred, fallback, nextFallback }).remaining)
    : (attempted log).map Prod.snd ++ [addr]
          ++ ({ state with preferred, fallback, nextFallback }).remaining
        = merge
      ∧ (attempted log).map Prod.fst ++ [state.nextAttemptOrder]
        = List.range (state.nextAttemptOrder + 1)
      ∧ (state.attempts.map ConnectingTcpAttempt.order ++ ended log
          ++ [state.nextAttemptOrder]).Perm
          (List.range (state.nextAttemptOrder + 1)) := by
  obtain ⟨ordered, numbered, settled⟩ := accounted
  refine ⟨?_, ?_, ?_⟩
  · rw [← ordered, first, List.append_assoc, List.singleton_append]
  · rw [numbered, List.range_succ]
  · rw [List.range_succ]
    exact settled.append_right _

/-- An attempt that is set up is active. -/
theorem Running.connecting (running : Running merge state log)
    (first
      : state.remaining = addr :: ({ state with preferred, fallback, nextFallback }).remaining)
    : Running merge
        { state with
          preferred, fallback, nextFallback
          nextAttemptOrder := state.nextAttemptOrder + 1
          attempts := state.attempts ++ [⟨addr, state.nextAttemptOrder⟩] }
        (log ++ [.connecting state.nextAttemptOrder addr]) := by
  obtain ⟨made, counted, placed⟩ := running.toAccounted.taken first
  refine ⟨⟨?_, ?_, ?_⟩, ?_, ?_⟩
  · rw [attempted_append, List.map_append]
    exact made
  · rw [attempted_append, List.map_append]
    exact counted
  · refine List.Perm.trans ?_ placed
    rw [ended_append, List.map_append, List.append_assoc, List.append_assoc]
    refine List.Perm.append_left _ ?_
    simp only [ended, List.filterMap_cons, List.filterMap_nil, List.append_nil]
    exact List.perm_append_comm
  · simpa [failures] using running.earliest
  · simpa [connections] using running.unconnected

/-- An attempt that cannot be set up is over at once, with its error. -/
theorem Running.failing (running : Running merge state log)
    (first
      : state.remaining = addr :: ({ state with preferred, fallback, nextFallback }).remaining)
    (error : ConnectError E)
    : Running merge
        { state with
          preferred, fallback, nextFallback
          nextAttemptOrder := state.nextAttemptOrder + 1
          firstError := recordError state.firstError state.nextAttemptOrder error }
        (log
          ++ [.connecting state.nextAttemptOrder addr, .failed state.nextAttemptOrder error]) := by
  obtain ⟨made, counted, placed⟩ := running.toAccounted.taken first
  refine ⟨⟨?_, ?_, ?_⟩, ?_, ?_⟩
  · rw [attempted_append, List.map_append]
    exact made
  · rw [attempted_append, List.map_append]
    exact counted
  · simpa [ended] using placed
  · simpa [failures] using running.earliest.recordError state.nextAttemptOrder error
  · simpa [connections] using running.unconnected

end Taken

/-- Launching makes the attempts of the merge up to one that is set up, and fails where none is
left, by induction on the turns.
-/
theorem Running.launchLoop {turns : Nat} (running : Running merge state log)
    (enough : state.remaining.length ≤ turns) (setup : Setup E)
    : ∃ launched after made, state.launchLoop setup turns = (launched, after, made)
        ∧ Running merge after (log ++ made)
        ∧ OneByOne made
        ∧ (launched = true → ∃ attempt, after.attempts = state.attempts ++ [attempt])
        ∧ (launched = false → after.attempts = state.attempts ∧ after.remaining = []) := by
  induction turns generalizing state log with
  | zero =>
      have empty : state.remaining = [] := List.length_eq_zero_iff.mp (Nat.le_zero.mp enough)
      exact ⟨false, state, [], rfl, by rwa [List.append_nil], oneByOne_nil, nofun,
        fun _ => ⟨rfl, empty⟩⟩
  | succ turns ih =>
      rcases state.next_addr with
        ⟨exhausted, empty⟩ | ⟨useFallback, chosen, addr, preferred, fallback, nextFallback, next,
          taken, first⟩
      · exact ⟨false, state, [], by simp [ConnectingTcpState.launchLoop, exhausted],
          by rwa [List.append_nil], oneByOne_nil, nofun, fun _ => ⟨rfl, empty⟩⟩
      · simp only [ConnectingTcpState.launchLoop, next, taken]
        cases set : setup state.nextAttemptOrder addr with
        | none =>
            exact ⟨true, _, _, rfl, running.connecting first, oneByOne_connecting _ _,
              fun _ => ⟨_, rfl⟩, nofun⟩
        | some error =>
            rw [first, List.length_cons] at enough
            obtain ⟨launched, after, later, loop, rest, oneByOne, launches, ends⟩ :=
              ih (running.failing first (error.withAddr addr)) (Nat.le_of_succ_le_succ enough)
            refine ⟨launched, after, .connecting state.nextAttemptOrder addr
              :: .failed state.nextAttemptOrder (error.withAddr addr) :: later, ?_, ?_,
              oneByOne.cons_failed _ _ _, launches, ends⟩
            · simp only [loop]
            · simpa using rest

/-- Launching the next candidate -/
theorem Running.launchNext (running : Running merge state log) (setup : Setup E)
    : ∃ launched after made, state.launchNext setup = (launched, after, made)
        ∧ Running merge after (log ++ made)
        ∧ OneByOne made
        ∧ (launched = true → ∃ attempt, after.attempts = state.attempts ++ [attempt])
        ∧ (launched = false → after.attempts = state.attempts ∧ after.remaining = []) :=
  running.launchLoop (Nat.le_of_eq state.length_remaining) setup

-----------------------------------------------------------------------------------------
-- Polls
-----------------------------------------------------------------------------------------

/-- The connection that an attempt yields, if it succeeded -/
def succeeded (yields : Nat → Poll C E) (attempt : ConnectingTcpAttempt) : Option C :=
  match yields attempt.order with
  | .ready (.ok connection) => some connection
  | _ => none

/-- What the polls of the active attempts do, by induction on the attempts: the first success is
the result, and each attempt that was removed is logged.
-/
structure Polled.Sound (yields : Nat → Poll C E) (firstError : Option (Nat × ConnectError E))
    (attempts : List ConnectingTcpAttempt) (polled : Polled C E)
    : Prop where
  connected : polled.connected = attempts.findSome? (succeeded yields)
  logged : ∀ connection, polled.connected = some connection →
    ∃ order, .connected order connection ∈ polled.log
  unconnected : polled.connected = none → connections polled.log = []
  unattempted : attempted polled.log = []
  settled
    : (polled.attempts.map ConnectingTcpAttempt.order ++ ended polled.log).Perm
        (attempts.map ConnectingTcpAttempt.order)
  earliest : ∀ failed, Earliest firstError failed →
    Earliest polled.firstError (failed ++ failures polled.log)
  unchanged : polled.connected = none → polled.failed = false → polled.attempts = attempts

theorem pollLoop_sound (yields : Nat → Poll C E) (firstError : Option (Nat × ConnectError E))
    (attempts : List ConnectingTcpAttempt)
    : (pollLoop yields firstError attempts).Sound yields firstError attempts := by
  induction attempts generalizing firstError with
  | nil =>
      refine ⟨rfl, nofun, fun _ => rfl, rfl, .refl _, fun failed earliest => ?_, fun _ _ => rfl⟩
      simpa [pollLoop, failures] using earliest
  | cons attempt rest ih =>
      cases polled : yields attempt.order with
      | pending =>
          have later := ih firstError
          have first : succeeded yields attempt = none := by simp [succeeded, polled]
          simp only [pollLoop, polled]
          refine ⟨?_, later.logged, later.unconnected, later.unattempted, ?_, later.earliest, ?_⟩
          · simpa [first] using later.connected
          · exact later.settled.cons attempt.order
          · intro unconnected unfailed
            exact congrArg (attempt :: ·) (later.unchanged unconnected unfailed)
      | ready result =>
          cases result with
          | ok connection =>
              have first : succeeded yields attempt = some connection := by
                simp [succeeded, polled]
              simp only [pollLoop, polled]
              refine ⟨?_, ?_, nofun, rfl, ?_, fun failed earliest => ?_, nofun⟩
              · simp [first]
              · rintro _ ⟨⟩
                exact ⟨attempt.order, List.mem_singleton.mpr rfl⟩
              · exact List.perm_append_singleton _ _
              · simpa [failures] using earliest
          | error error =>
              have later := ih
                (recordError firstError attempt.order
                  ((ConnectError.tcp (.other error)).withAddr attempt.addr))
              have first : succeeded yields attempt = none := by simp [succeeded, polled]
              simp only [pollLoop, polled]
              refine ⟨?_, ?_, later.unconnected, later.unattempted, ?_, fun failed earliest => ?_,
                nofun⟩
              · simpa [first] using later.connected
              · intro connection connected
                obtain ⟨order, member⟩ := later.logged connection connected
                exact ⟨order, List.mem_cons_of_mem _ member⟩
              · exact List.perm_middle.trans (later.settled.cons attempt.order)
              · have recorded := later.earliest _ (earliest.recordError attempt.order _)
                simpa [failures] using recorded

end Tlsurl.Net
