import Tlsurl.Net.RaceOrder
import Mathlib.Data.List.Perm.Subperm

/-! Whole runs of the race of connection attempts: each poll keeps the account of the attempts,
and the race ends with the first success it polls or with the earliest failure.
-/

namespace Tlsurl.Net

open Library

variable {C E : Type} {merge : List SocketAddr} {state : ConnectingTcpState E}
  {log : List (Log C E)}

-----------------------------------------------------------------------------------------
-- Operations
-----------------------------------------------------------------------------------------

/-- The active attempts are those in flight. -/
theorem Accounted.inFlight (accounted : Accounted merge state log)
    : state.attempts.length = inFlight log := by
  have numbered := congrArg List.length accounted.numbered
  have settled := accounted.settled.length_eq
  simp only [List.length_map, List.length_append, List.length_range] at numbered settled
  simp only [Net.inFlight]
  omega

/-- What starts no attempt keeps the bound. -/
theorem Bounded.append_ended {later : List (Log C E)} (bounded : Bounded log)
    (unattempted : attempted later = [])
    : Bounded (log ++ later) := by
  have most : inFlight log + 0 ≤ maxParallelConnectAttempts :=
    bounded log (List.prefix_refl log)
  refine bounded.append most (fun moment before => ?_)
  have none : attempted moment <+: attempted later := before.filterMap _
  rw [unattempted] at none
  rw [List.prefix_nil.mp none]
  exact Nat.zero_le _

/-- Polling the active attempts keeps the account of all. -/
theorem Accounted.polled {yields : Nat → Poll C E} (accounted : Accounted merge state log)
    {polled : Polled C E} (sound : polled.Sound yields state.firstError state.attempts)
    : Accounted merge
        { state with attempts := polled.attempts, firstError := polled.firstError }
        (log ++ polled.log) := by
  obtain ⟨ordered, numbered, settled⟩ := accounted
  constructor
  · rw [attempted_append, sound.unattempted, List.append_nil]
    exact ordered
  · rw [attempted_append, sound.unattempted, List.append_nil]
    exact numbered
  · rw [ended_append]
    have swapped
        : (polled.attempts.map ConnectingTcpAttempt.order ++ (ended log ++ ended polled.log)).Perm
            (polled.attempts.map ConnectingTcpAttempt.order ++ ended polled.log ++ ended log) := by
      rw [List.append_assoc]
      exact List.perm_append_comm.append_left _
    have active := sound.settled.append_right (ended log)
    exact swapped.trans (active.trans settled)

/-- Unless an attempt succeeds, the race goes on after the polls. -/
theorem Running.polled {yields : Nat → Poll C E} (running : Running merge state log)
    {polled : Polled C E} (sound : polled.Sound yields state.firstError state.attempts)
    (unconnected : polled.connected = none)
    : Running merge { state with attempts := polled.attempts, firstError := polled.firstError }
        (log ++ polled.log) := by
  refine ⟨running.toAccounted.polled sound, ?_, ?_⟩
  · rw [failures_append]
    exact sound.earliest _ running.earliest
  · rw [connections_append, running.unconnected, sound.unconnected unconnected]
    rfl

/-- Making room cancels an attempt only where all places are taken. -/
theorem Running.makeRoom (running : Running merge state log) (bounded : Bounded log)
    : ∃ after canceled, state.makeRoomForNextAttempt = (after, canceled)
        ∧ Running merge after (log ++ canceled)
        ∧ Bounded (log ++ canceled)
        ∧ inFlight (log ++ canceled) < maxParallelConnectAttempts := by
  have taken : state.attempts.length = inFlight log := running.inFlight
  have most : inFlight log ≤ maxParallelConnectAttempts := bounded log (List.prefix_refl log)
  unfold ConnectingTcpState.makeRoomForNextAttempt
  by_cases room : state.attempts.length < maxParallelConnectAttempts
  · refine ⟨state, [], if_pos room, ?_, ?_, ?_⟩
    · rwa [List.append_nil]
    · rwa [List.append_nil]
    · rwa [List.append_nil, ← taken]
  · rw [if_neg room]
    cases active : state.attempts with
    | nil =>
        rw [active] at room
        exact absurd (by decide) room
    | cons attempt rest =>
        obtain ⟨⟨ordered, numbered, settled⟩, earliest, unconnected⟩ := running
        have unattempted
            : attempted ([.canceled attempt.order attempt.addr] : List (Log C E)) = [] := rfl
        have after
            : Running merge { state with attempts := rest }
                (log ++ [.canceled attempt.order attempt.addr]) := by
          refine ⟨⟨?_, ?_, ?_⟩, ?_, ?_⟩
          · rw [attempted_append, unattempted, List.append_nil]
            exact ordered
          · rw [attempted_append, unattempted, List.append_nil]
            exact numbered
          · refine List.Perm.trans ?_ settled
            rw [active, ended_append, ← List.append_assoc]
            exact List.perm_append_singleton attempt.order _
          · simpa [failures] using earliest
          · simpa [connections] using unconnected
        refine ⟨_, _, rfl, after, bounded.append_ended unattempted, ?_⟩
        rw [← after.inFlight]
        rw [active, List.length_cons] at taken
        show rest.length < _
        omega

-----------------------------------------------------------------------------------------
-- The invariant
-----------------------------------------------------------------------------------------

/-- The error returned: that of the earliest attempt that failed, if one did. -/
def Reported (failures : List (Nat × ConnectError E)) (error : ConnectError E) : Prop :=
  failures = [] ∧ error = .networkUnreachable
    ∨ ∃ order, (order, error) ∈ failures ∧ ∀ other ∈ failures, order ≤ other.1

theorem Earliest.reported {failed : List (Nat × ConnectError E)}
    (earliest : Earliest state.firstError failed)
    : Reported failed state.takeError.1 := by
  unfold ConnectingTcpState.takeError
  cases kept : state.firstError with
  | none =>
      rw [kept] at earliest
      exact .inl ⟨earliest, rfl⟩
  | some first =>
      rw [kept] at earliest
      exact .inr ⟨first.1, earliest⟩

/-- What holds of a race at every `await` and at its end -/
structure Race.Sound (merge : List SocketAddr) (race : Race C E) : Prop
    extends Accounted merge race.state race.log where
  bounded : Bounded race.log
  waits : ∀ sleeping, race.phase = .waiting sleeping →
    Running merge race.state race.log ∧ race.state.attempts ≠ []
  succeeds : ∀ connection, race.phase = .returned (.ok connection) →
    ∃ order, .connected order connection ∈ race.log
  fails : ∀ error, race.phase = .returned (.error error) →
    race.state.attempts = [] ∧ race.state.remaining = [] ∧ connections race.log = []
    ∧ Reported (failures race.log) error

/-- At an `await` some attempt is active. -/
theorem Running.awaits (running : Running merge state log) (bounded : Bounded log)
    (active : state.attempts ≠ []) (sleeping : Bool)
    : Race.Sound merge { state, phase := .waiting sleeping, log } :=
  { running.toAccounted with
    bounded
    waits := fun _ _ => ⟨running, active⟩
    succeeds := nofun
    fails := nofun }

/-- The head of the loop launches an attempt if none is active, and ends if none can be. -/
theorem Running.enter (running : Running merge state log) (bounded : Bounded log)
    (setup : Setup E)
    : (Race.enter setup state log).Sound merge := by
  unfold Race.enter
  cases active : state.attempts with
  | cons attempt rest =>
      exact running.awaits bounded (by rw [active]; exact List.cons_ne_nil _ _) _
  | nil =>
      obtain ⟨launched, after, made, launch, later, oneByOne, launches, ends⟩ :=
        running.launchNext setup
      have room : inFlight log + 1 ≤ maxParallelConnectAttempts := by
        rw [← running.inFlight, active]
        decide
      have stillBounded := bounded.append room oneByOne
      rw [List.isEmpty_nil, if_pos rfl, launch]
      cases launched with
      | true =>
          obtain ⟨attempt, added⟩ := launches rfl
          refine later.awaits stillBounded ?_ _
          rw [added]
          exact List.append_ne_nil_of_right_ne_nil _ (List.cons_ne_nil _ _)
      | false =>
          obtain ⟨same, exhausted⟩ := ends rfl
          obtain ⟨ordered, numbered, settled⟩ := later.toAccounted
          exact
            { ordered, numbered, settled
              bounded := stillBounded
              waits := nofun
              succeeds := nofun
              fails := by
                rintro _ ⟨⟩
                exact ⟨same.trans active, exhausted, later.unconnected,
                  later.earliest.reported⟩ }

/-- The end of the loop launches one more attempt, for which there is room. -/
theorem Running.next (running : Running merge state log) (bounded : Bounded log)
    (room : inFlight log < maxParallelConnectAttempts) (setup : Setup E)
    : (Race.next setup state log).Sound merge := by
  obtain ⟨launched, after, made, launch, later, oneByOne, -⟩ := running.launchNext setup
  unfold Race.next
  rw [launch]
  exact later.enter (bounded.append room oneByOne) setup

/-- A poll ends the race with the first success, launches what follows failures or the delay,
or leaves it waiting.
-/
theorem Race.Sound.poll {race : Race C E} (sound : race.Sound merge) {sleeping : Bool}
    (waiting : race.phase = .waiting sleeping) (setup : Setup E) (yields : Nat → Poll C E)
    (slept : Bool)
    : (race.poll setup sleeping yields slept).Sound merge := by
  obtain ⟨running, active⟩ := sound.waits sleeping waiting
  have polled := pollLoop_sound yields race.state.firstError race.state.attempts
  have bounded := sound.bounded.append_ended polled.unattempted
  unfold Race.poll
  cases connected : (pollLoop yields race.state.firstError race.state.attempts).connected with
  | some connection =>
      obtain ⟨ordered, numbered, settled⟩ := running.toAccounted.polled polled
      obtain ⟨order, member⟩ := polled.logged connection connected
      simp only [connected]
      exact
        { ordered, numbered, settled, bounded
          waits := nofun
          succeeds := by
            rintro _ ⟨⟩
            exact ⟨order, List.mem_append_right _ member⟩
          fails := nofun }
  | none =>
      have later := running.polled polled connected
      simp only [connected]
      split
      next failed =>
        -- no attempt is left, so all places are free
        have empty := List.isEmpty_iff.mp (Bool.and_eq_true_iff.mp failed).2
        refine later.next bounded ?_ setup
        rw [← later.inFlight]
        simp only [empty]
        decide
      next unfailed =>
        split
        · obtain ⟨after, canceled, made, afterwards, stillBounded, room⟩ := later.makeRoom bounded
          rw [made]
          exact afterwards.next stillBounded room setup
        · refine later.awaits bounded (fun empty => ?_) sleeping
          cases failed : (pollLoop yields race.state.firstError race.state.attempts).failed with
          | true =>
              have none := List.isEmpty_iff.mpr empty
              exact unfailed (Bool.and_eq_true_iff.mpr ⟨failed, none⟩)
          | false => exact active ((polled.unchanged connected failed).symm.trans empty)

/-- Each poll keeps the invariant. -/
theorem Race.Sound.step {setup : Setup E} {race after : Race C E} {tick : Tick C E}
    (sound : race.Sound merge) (step : Step setup race tick after)
    : after.Sound merge := by
  obtain ⟨sleeping, waiting, rfl⟩ := step
  exact sound.poll waiting setup tick.yields tick.slept

/-- Every race from its first candidates on keeps the account of its attempts. -/
theorem run_sound {setup : Setup E} {ticks : List (Tick C E)} {race : Race C E}
    (fresh : state.attempts = [] ∧ state.nextAttemptOrder = 0 ∧ state.firstError = none)
    (run : Run (Step setup) (Race.start setup state) ticks race)
    : race.Sound state.remaining := by
  refine run.invariant (fun _ sound step => sound.step step) ?_
  obtain ⟨idle, unnumbered, unfailed⟩ := fresh
  have running : Running (C := C) state.remaining state [] := by
    refine ⟨⟨rfl, ?_, ?_⟩, ?_, rfl⟩
    · rw [unnumbered]
      rfl
    · rw [unnumbered, idle]
      exact .refl _
    · rw [unfailed]
      rfl
  refine running.enter (fun moment before => ?_) setup
  rw [List.prefix_nil.mp before]
  exact Nat.zero_le _

-----------------------------------------------------------------------------------------
-- The race
-----------------------------------------------------------------------------------------

/-- The families have the resolved addresses, or those of the family bound to. -/
theorem new_addrs (addrs : List SocketAddr) (localAddrIpv4 : Option (BitVec 32))
    (localAddrIpv6 : Option (BitVec 128)) (delay : Option Nat)
    : (ConnectingTcpState.new (E := E) addrs localAddrIpv4 localAddrIpv6 delay).remaining.Subperm
        addrs := by
  cases delay with
  | none =>
      simp only [ConnectingTcpState.new, ConnectingTcpState.remaining, Option.getD_none,
        alternate_nil_right]
      exact .refl _
  | some delay =>
      have whole (halves : List SocketAddr × List SocketAddr)
          : (ConnectingTcpState.remaining (E := E)
              { preferred := halves.1
                fallback := if halves.2.isEmpty then none else some halves.2
                happyEyeballsTimeout := some delay }).Perm (halves.1 ++ halves.2) := by
        have second : (if halves.2.isEmpty then none else some halves.2).getD [] = halves.2 := by
          cases halves.2 <;> rfl
        simp only [ConnectingTcpState.remaining, second]
        exact alternate_perm _ _
      refine (whole (splitByPreference addrs localAddrIpv4 localAddrIpv6)).subperm.trans ?_
      unfold splitByPreference
      split
      · rw [List.append_nil]
        exact List.filter_sublist.subperm
      · rw [List.append_nil]
        exact List.filter_sublist.subperm
      · rw [List.partition_eq_filter_filter]
        exact (List.filter_append_perm _ _).subperm

/-- A poll that finds a success among the active attempts returns the first of them. -/
theorem Step.success {setup : Setup E} {race after : Race C E} {tick : Tick C E}
    (step : Step setup race tick after) {attempt : ConnectingTcpAttempt}
    (active : attempt ∈ race.state.attempts) {connection : C}
    (ready : tick.yields attempt.order = .ready (.ok connection))
    : ∃ first, race.state.attempts.findSome? (succeeded tick.yields) = some first
        ∧ after.phase = .returned (.ok first) := by
  obtain ⟨sleeping, waiting, rfl⟩ := step
  have polled := pollLoop_sound tick.yields race.state.firstError race.state.attempts
  cases found : race.state.attempts.findSome? (succeeded tick.yields) with
  | none =>
      have unready := List.findSome?_eq_none_iff.mp found attempt active
      simp only [succeeded, ready] at unready
      cases unready
  | some first =>
      have connected := polled.connected.trans found
      refine ⟨first, rfl, ?_⟩
      simp only [Race.poll, connected]

/-- The attempts are numbered from zero on in the order in which they were made. -/
theorem Race.Sound.numbered_from_zero {race : Race C E} (sound : race.Sound merge)
    : (attempted race.log).map Prod.fst = List.range (attempted race.log).length := by
  have count := congrArg List.length sound.numbered
  rw [List.length_map, List.length_range] at count
  rw [count]
  exact sound.numbered

/-- A race in which an attempt connected was won. -/
theorem Race.Sound.won {race : Race C E} (sound : race.Sound merge) {order : Nat}
    (connected : order ∈ connections race.log)
    : ∃ connection, race.phase = .returned (.ok connection) := by
  cases phase : race.phase with
  | waiting sleeping =>
      rw [(sound.waits sleeping phase).1.unconnected] at connected
      cases connected
  | returned result =>
      cases result with
      | ok connection => exact ⟨connection, rfl⟩
      | error error =>
          obtain ⟨-, -, unconnected, -⟩ := sound.fails error phase
          rw [unconnected] at connected
          cases connected

/-- No attempt is lost before the race is won. -/
theorem Race.Sound.settles {race : Race C E} (sound : race.Sound merge) {made : Nat × SocketAddr}
    (member : made ∈ attempted race.log)
    : (∃ attempt ∈ race.state.attempts, attempt.order = made.1)
      ∨ (∃ error, (made.1, error) ∈ failures race.log)
      ∨ made.1 ∈ cancellations race.log
      ∨ ∃ connection, race.phase = .returned (.ok connection) := by
  have numbered : made.1 ∈ List.range race.state.nextAttemptOrder := by
    rw [← sound.numbered]
    exact List.mem_map_of_mem member
  rcases List.mem_append.mp (sound.settled.mem_iff.mpr numbered) with active | done
  · exact .inl (List.mem_map.mp active)
  · rcases mem_ended.mp done with failed | canceled | connected
    · exact .inr (.inl failed)
    · exact .inr (.inr (.inl canceled))
    · exact .inr (.inr (.inr (sound.won connected)))

/-- A race never has too many attempts in flight and makes them in the order of the merge; it fails
only when none is left, with the error of the earliest that failed, and returns the first success
that it polls. Until then each attempt is active, has failed or was canceled.
-/
theorem races_addresses_in_order (setup : Setup E) (addrs : List SocketAddr)
    (localAddrIpv4 : Option (BitVec 32)) (localAddrIpv6 : Option (BitVec 128))
    (delay : Option Nat) {ticks : List (Tick C E)} {race : Race C E}
    (run
      : Run (Step setup)
          (Race.start setup (ConnectingTcpState.new addrs localAddrIpv4 localAddrIpv6 delay))
          ticks race)
    : let families :=
        ConnectingTcpState.new (E := E) addrs localAddrIpv4 localAddrIpv6 delay
      let candidates := alternate families.preferred (families.fallback.getD [])
      let addresses := (attempted race.log).map Prod.snd
      (race.state.attempts.length = inFlight race.log
        ∧ ∀ moment, moment <+: race.log → inFlight moment ≤ maxParallelConnectAttempts)
      ∧ (addresses <+: candidates
        ∧ (attempted race.log).map Prod.fst = List.range (attempted race.log).length
        ∧ ∀ addr, addresses.count addr ≤ addrs.count addr)
      ∧ (∀ error, race.phase = .returned (.error error) →
          addresses = candidates ∧ race.state.attempts = []
          ∧ Reported (failures race.log) error)
      ∧ (∀ tick after, Step setup race tick after →
          ∀ attempt ∈ race.state.attempts, ∀ connection,
            tick.yields attempt.order = .ready (.ok connection) →
            ∃ first, race.state.attempts.findSome? (succeeded tick.yields) = some first
              ∧ after.phase = .returned (.ok first))
      ∧ (∀ connection, race.phase = .returned (.ok connection) →
          ∃ order, .connected order connection ∈ race.log)
      ∧ ∀ made ∈ attempted race.log,
          (∃ attempt ∈ race.state.attempts, attempt.order = made.1)
          ∨ (∃ error, (made.1, error) ∈ failures race.log)
          ∨ made.1 ∈ cancellations race.log
          ∨ ∃ connection, race.phase = .returned (.ok connection) := by
  intro families candidates addresses
  have start : families.remaining = candidates ∧ families.attempts = []
      ∧ families.nextAttemptOrder = 0 ∧ families.firstError = none := by
    cases delay <;> exact ⟨rfl, rfl, rfl, rfl⟩
  obtain ⟨merge, fresh⟩ := start
  have sound := run_sound fresh run
  rw [merge] at sound
  have order : addresses ++ race.state.remaining = candidates := sound.ordered
  have made : addresses <+: candidates := ⟨race.state.remaining, order⟩
  refine ⟨⟨sound.toAccounted.inFlight, sound.bounded⟩,
    ⟨made, sound.numbered_from_zero, fun addr => ?_⟩, fun error failed => ?_,
    fun tick after step attempt active connection ready => step.success active ready,
    sound.succeeds, fun attempt member => sound.settles member⟩
  · calc addresses.count addr
        ≤ candidates.count addr := made.sublist.count_le addr
      _ = families.remaining.count addr := by rw [merge]
      _ ≤ addrs.count addr :=
          (new_addrs addrs localAddrIpv4 localAddrIpv6 delay).count_le addr
  · obtain ⟨idle, exhausted, -, reported⟩ := sound.fails error failed
    rw [exhausted, List.append_nil] at order
    exact ⟨order, idle, reported⟩

section Sample

/-- An IPv4 and an IPv6 address of one host -/
def sampleAddrs : List SocketAddr := [.v4 0xC0000201#32 443, .v6 0x20010DB8#128 443 0 0]

/-- The delay is over and no attempt is ready. -/
def delayElapsed : Tick Unit String := { yields := fun _ => .pending, slept := true }

/-- Both attempts fail. -/
def bothRefused : Tick Unit String :=
  { yields := fun order => .ready (.error (if order = 0 then "refused" else "reset"))
    slept := false }

def sampleStart : Race Unit String :=
  Race.start (fun _ _ => none) (ConnectingTcpState.new sampleAddrs none none (some 300))

def sampleEnd : Race Unit String :=
  let second := sampleStart.poll (fun _ _ => none) true delayElapsed.yields delayElapsed.slept
  second.poll (fun _ _ => none) false bothRefused.yields bothRefused.slept

theorem sample_run
    : Run (Step (fun _ _ => none)) sampleStart [delayElapsed, bothRefused] sampleEnd :=
  .snoc (.snoc .nil ⟨true, rfl, rfl⟩) ⟨false, rfl, rfl⟩

theorem races_addresses_in_order_refused
    : (attempted sampleEnd.log).map Prod.snd = alternate [.v4 0xC0000201#32 443]
          [.v6 0x20010DB8#128 443 0 0]
      ∧ sampleEnd.state.attempts = []
      ∧ Reported (failures sampleEnd.log)
          { msg := "tcp connect error"
            addr := some (.v4 0xC0000201#32 443)
            cause := some (.other "refused") } :=
  (races_addresses_in_order (fun _ _ => none) sampleAddrs none none (some 300) sample_run).2.2.1 _
    rfl

end Sample

end Tlsurl.Net
