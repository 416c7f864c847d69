import Tlsurl.Core.SocketLocks

/-! The order of what the sink of a WebSocket is handed.
Whether a call may go on is decided by a look at `closing` that is not one step with setting
the token, or with taking the lock of the sink.
-/

namespace Tlsurl.Core.WebSocket

open Library

-----------------------------------------------------------------------------------------
-- What is promised, and when it fails
-----------------------------------------------------------------------------------------

/-- At most one Close frame is handed to the sink, and no message of a call that begins with
the sink after a Close frame was handed over.
-/
structure Handshake (events : List Event) : Prop where
  once
    : ∀ front back id frame, events = front ++ .hand id (.close frame) :: back
      → ∀ other later, .hand other (.close later) ∉ back
  late
    : ∀ front mid back id message,
      events = front ++ .openSlot id :: mid ++ .hand id message :: back
      → message.isClose = false → ∀ other frame, .hand other (.close frame) ∉ front

/-- What a phase means to the closing handshake: a close has found `closing` clear and is about
to set it; its frame is still to be handed over; a send has found `closing` clear and is about
to ask for the sink; or it has the sink, and its message is still to be handed over.
-/
inductive Stance where
  | idle
  | announcing
  | closing
  | late
  | giving
  deriving DecidableEq

def Job.stance : Job → Hold → Stance
  | .send _, .got => .giving
  | .send _, .feeding => .giving
  | .handClose _, .flushing => .idle
  | .handClose _, .reading => .idle
  | .handClose _, _ => .closing
  | _, _ => .idle

def Phase.stance : Phase → Stance
  | .closingStill _ => .announcing
  | .announcing _ => .announcing
  | .working (.send _) .fresh => .late
  | .working (.send _) .queued => .late
  | phase => phase.run.elim .idle (fun at_ => at_.1.stance at_.2)

/-- No close looks at `closing` while another is between its look and setting the token, and no
close sets the token while a send is between its look and asking for the sink.
-/
def State.orders (state : State) : Event → Prop
  | .look id =>
      (∃ frame, state.phase id = .closing frame) → state.closing = false
        → ∀ other, (state.phase other).stance ≠ .announcing
  | .announce _ => ∀ other, (state.phase other).stance ≠ .late
  | _ => True

-----------------------------------------------------------------------------------------
-- How a step changes the stance of a call
-----------------------------------------------------------------------------------------

/-- The stances that a step may take its call from and to. -/
inductive StanceMove (state : State) (event : Event) (next : State) : Stance → Stance → Prop
  | rests {before} : StanceMove state event next before .idle
  | keeps {before} : StanceMove state event next before before
  | looks {id frame} (looked : event = .look id) (here : state.phase id = .closing frame)
    (clear : state.closing = false)
    : StanceMove state event next .idle .announcing
  | announces {id} (announced : event = .announce id) (now : next.closing = true)
    : StanceMove state event next .announcing .closing
  | passes (clear : state.closing = false) : StanceMove state event next .idle .late
  | takes : StanceMove state event next .late .giving

namespace StanceMove

variable {state next : State} {event : Event} {before after : Stance}

theorem of_idle (idle : after = .idle) : StanceMove state event next before after := by
  rw [idle]
  exact .rests

theorem of_eq (same : after = before) : StanceMove state event next before after := by
  rw [same]
  exact .keeps

end StanceMove

/-- What follows a job is no part of the handshake. -/
theorem Phase.Follows.stance_eq {phase : Phase} (follows : phase.Follows)
    : phase.stance = .idle := by
  apply follows.rule
  · exact fun _ => rfl
  · exact fun _ => rfl
  · exact fun _ => rfl
  · rfl
  · exact fun _ => rfl
  · rfl

section Moves

variable (state : State) (id : Nat)

theorem stance_letGo (job : Job) (hold : Hold) {next : Phase} (follows : next.Follows)
    : ((state.letGo id job hold next).phase id).stance = .idle := by
  unfold State.letGo
  split
  · simpa [State.setPhase] using follows.stance_eq
  · simpa [State.setPhase, State.leave, State.setLock] using follows.stance_eq
  · simp [State.setPhase, Phase.stance, Phase.run]

end Moves

/-- What is read is no part of the handshake. -/
theorem stance_reading (job : Job) : job.stance .reading = .idle := by
  cases job <;> rfl

theorem stance_flushing (job : Job) : job.stance .flushing = .idle := by
  cases job <;> rfl

/-- A job that has its lock stands as it does outside the work. -/
theorem stance_working {job : Job} {hold : Hold} (held : hold.station = .inside)
    : (Phase.working job hold).stance = job.stance hold := by
  cases job with
  | send message => cases hold <;> first | rfl | cases held
  | _ => rfl

/-- So does one without, unless it is a send. -/
theorem stance_unheld (job : Job) {hold : Hold} (unheld : hold.station ≠ .inside)
    : ((Phase.working job hold).stance = .late ∧ job.stance hold = .idle
        ∧ job.stance .got = .giving)
      ∨ ((Phase.working job hold).stance = job.stance hold
        ∧ job.stance hold = job.stance .got) := by
  cases job with
  | send message => cases hold <;> first | exact .inl ⟨rfl, rfl, rfl⟩ | exact absurd rfl unheld
  | handClose frame => cases hold <;> first | exact .inr ⟨rfl, rfl⟩ | exact absurd rfl unheld
  | _ => exact .inr ⟨rfl, rfl⟩

/-- The looks with which calls begin are no part of the handshake, but for that of a close which
finds `closing` clear.
-/
theorem stance_look {state next : State} {id : Nat} (step : Step state (.look id) next)
    : StanceMove state (.look id) next (state.phase id).stance (next.phase id).stance := by
  rcases step with ⟨kind, data, here, rfl⟩ | ⟨here, rfl⟩ | ⟨frame, here, rfl⟩
  · refine .of_idle ?_
    simp only [State.lookSend, State.setPhase, Function.update_self]
    repeat' split
    all_goals rfl
  · refine .of_idle ?_
    simp only [State.lookRecv, State.setPhase, Function.update_self]
    split <;> rfl
  · cases token : state.closing with
    | true =>
        refine .of_idle ?_
        simp [State.lookClose, State.setPhase, token, Phase.stance, Phase.run]
    | false =>
        have before : (state.phase id).stance = .idle := by rw [here]; rfl
        have after : ((state.lookClose id frame).phase id).stance = .announcing := by
          simp [State.lookClose, State.setPhase, token, Phase.stance]
        rw [before, after]
        exact .looks rfl here token

/-- A poll that finds `closing` clear goes to work. -/
theorem stance_lookClosing {state : State} {id : Nat} {job : Job} {hold : Hold}
    (here : state.phase id = .looking job hold)
    : StanceMove state (.lookClosing id) (state.lookClosing id job hold) (state.phase id).stance
        ((state.lookClosing id job hold).phase id).stance := by
  have before : (state.phase id).stance = job.stance hold := by rw [here]; rfl
  cases token : state.closing with
  | true =>
      refine .of_idle ?_
      rw [State.lookClosing, if_pos token]
      exact stance_letGo state id job hold (follows_after job _)
  | false =>
      have after : (state.lookClosing id job hold).phase id = .working job hold := by
        simp [State.lookClosing, State.setPhase, token]
      rw [before, after]
      by_cases held : hold.station = .inside
      · exact .of_eq (stance_working held)
      · rcases stance_unheld job held with ⟨late, idle, _⟩ | ⟨same, _⟩
        · rw [late, idle]
          exact .passes token
        · exact .of_eq same

/-- A job gets its lock, at once or when it notices. -/
theorem stance_got {state next : State} {event : Event} {id : Nat} {job : Job} {hold : Hold}
    (here : state.phase id = .working job hold) (unheld : hold.station ≠ .inside)
    (after : next.phase id = .working job .got)
    : StanceMove state event next (state.phase id).stance (next.phase id).stance := by
  have held : (Phase.working job .got).stance = job.stance .got := stance_working rfl
  rw [here, after, held]
  rcases stance_unheld job unheld with ⟨late, _, giving⟩ | ⟨same, got⟩
  · rw [late, giving]
    exact .takes
  · exact .of_eq (by rw [same, got])

/-- A job that has to wait for its lock. -/
theorem stance_wait {state next : State} {event : Event} {id : Nat} {job : Job} {hold : Hold}
    (here : state.phase id = .working job hold) (unheld : hold.station ≠ .inside)
    (after : next.phase id = .timing job .queued)
    : StanceMove state event next (state.phase id).stance (next.phase id).stance := by
  have queued : (Phase.timing job .queued).stance = job.stance .queued := rfl
  rw [here, after, queued]
  cases job with
  | send message => exact .of_idle rfl
  | handClose frame => cases hold <;> first | exact .of_eq rfl | exact absurd rfl unheld
  | _ => exact .of_idle rfl

/-- Each step is such a move for its call. -/
theorem Step.stance {state next : State} {event : Event} (step : Step state event next)
    (locked : state.Locked)
    : StanceMove state event next (state.phase event.actor).stance
        (next.phase event.actor).stance := by
  cases event with
  | call id call =>
      obtain ⟨_, rfl⟩ := step
      refine .of_idle ?_
      cases call with
      | close frame =>
          simp only [State.begin, Event.actor]
          split <;> simp [State.setPhase, Phase.stance, Phase.run]
      | _ => simp [State.begin, Event.actor, State.setPhase, Phase.stance, Phase.run]
  | look id => exact stance_look step
  | lookStill id =>
      obtain ⟨frame, here, rfl⟩ := step
      simp only [Event.actor, State.lookStill, State.setPhase, Function.update_self, here]
      split
      · exact .of_idle rfl
      · exact .of_eq rfl
  | announce id =>
      obtain ⟨frame, here, rfl⟩ := step
      simp only [Event.actor, State.announce, State.setPhase, Function.update_self, here]
      exact .announces rfl rfl
  | lookCancelled id =>
      obtain ⟨job, hold, here, rfl⟩ := step
      unfold State.lookCancelled
      split
      · exact .of_idle (stance_letGo state id job hold (follows_after job _))
      · refine .of_eq ?_
        simp only [Event.actor, State.setPhase, Function.update_self, here]
        cases job <;> rfl
  | lookClosing id =>
      obtain ⟨job, hold, here, rfl⟩ := step
      exact stance_lookClosing here
  | lock id =>
      obtain ⟨job, here, rfl⟩ := step
      unfold State.lock
      split
      · exact stance_got here (by simp [Hold.station]) (by simp [Event.actor, State.setPhase])
      · exact stance_wait here (by simp [Hold.station]) (by simp [Event.actor, State.setPhase])
  | granted id =>
      obtain ⟨job, here, has, rfl⟩ := step
      exact stance_got here (by simp [Hold.station]) (by simp [Event.actor, State.setPhase])
  | blocked id =>
      obtain ⟨job, here, _, rfl⟩ := step
      exact stance_wait here (by simp [Hold.station]) (by simp [Event.actor, State.setPhase])
  | openSlot id =>
      obtain ⟨job, here, rfl⟩ := step
      unfold State.openSlot
      split
      · refine .of_eq ?_
        simp only [Event.actor, State.setPhase, Function.update_self, here]
        cases job <;> rfl
      · exact .of_idle (stance_letGo state id job .got (follows_after job _))
  | feed id failure =>
      obtain ⟨job, here, rfl⟩ := step
      cases failure with
      | none =>
          refine .of_eq ?_
          simp only [Event.actor, State.answer, Option.map_none, State.setPhase,
            Function.update_self, here]
          exact (stance_working rfl).symm
      | some error => exact .of_idle (stance_letGo state id job .feeding (follows_after job _))
  | hand id message =>
      obtain ⟨job, here, _, rfl⟩ := step
      refine .of_idle ?_
      simp only [Event.actor, State.setPhase, Function.update_self]
      exact (stance_working rfl).trans (stance_flushing job)
  | flush id outcome =>
      obtain ⟨job, here, rfl⟩ := step
      refine .of_idle ?_
      cases outcome with
      | none =>
          simp only [Event.actor, State.answer, Option.map_none, State.setPhase,
            Function.update_self]
          exact stance_flushing job
      | some outcome => exact stance_letGo state id job .flushing (follows_after job _)
  | read id outcome =>
      obtain ⟨job, here, rfl⟩ := step
      refine .of_idle ?_
      have answered (job : Job) (outcome : Option Outcome)
          : ((state.answer id job .reading outcome).phase id).stance = .idle := by
        cases outcome with
        | none =>
            simp only [State.answer, State.setPhase, Function.update_self]
            exact stance_reading job
        | some outcome => exact stance_letGo state id job .reading (follows_after job _)
      unfold State.read
      split
      · exact answered _ _
      · simp only [Event.actor, State.setPhase, Function.update_self]
        rfl
      · exact answered _ _
  | suspend id =>
      obtain ⟨job, hold, here, rfl⟩ := step
      refine .of_eq ?_
      simp [Event.actor, State.setPhase, here, Phase.stance, Phase.run]
  | timeout id =>
      obtain ⟨job, hold, here, rfl⟩ := step
      exact .of_idle (stance_letGo state id job hold (follows_after job _))
  | wake id =>
      obtain ⟨job, hold, here, rfl⟩ := step
      refine .of_eq ?_
      simp [Event.actor, State.setPhase, here, Phase.stance, Phase.run]
  | drop id =>
      obtain ⟨job, hold, here, rfl⟩ := step
      exact .of_idle (stance_letGo state id job hold (.inr rfl))
  | check id =>
      obtain ⟨side, after, here, rfl⟩ := step
      refine .of_idle ?_
      simp only [State.check, Event.actor, State.setPhase, Function.update_self]
      split <;> rfl
  | empty id =>
      obtain ⟨side, after, here, rfl⟩ := step
      refine .of_idle ?_
      simp [Event.actor, State.setPhase, Phase.stance, Phase.run]
  | unlock id =>
      obtain ⟨side, after, here, rfl⟩ := step
      have follows : after.Follows := locked.calm id after (by simp [here, Phase.rest])
      refine .of_idle ?_
      simpa [Event.actor, State.setPhase] using follows.stance_eq
  | finish id =>
      obtain ⟨message, here, rfl⟩ := step
      refine .of_idle ?_
      simp [Event.actor, State.setPhase, Phase.stance, Phase.run]
  | abort id =>
      obtain ⟨part, result, here, rfl⟩ := step
      refine .of_idle ?_
      cases part with
      | cancel => simp [State.abort, Event.actor, State.setPhase, Phase.stance, Phase.run]
      | tryLock side =>
          simp only [State.abort, Event.actor]
          split
          · simp [State.setPhase, Phase.stance, Phase.run]
          · cases side <;> simp [State.setPhase, State.afterSide, Phase.stance, Phase.run]
      | clear side => simp [State.abort, Event.actor, State.setPhase, Phase.stance, Phase.run]
      | unlock side =>
          cases side <;>
            simp [State.abort, Event.actor, State.setPhase, State.afterSide, Phase.stance,
              Phase.run]

-----------------------------------------------------------------------------------------
-- The invariant
-----------------------------------------------------------------------------------------

/-- A Close frame was handed to the sink. -/
def Over (past : List Event) : Prop := ∃ id frame, .hand id (.close frame) ∈ past

/-- A close that has found `closing` clear and whose frame is still to be handed over. -/
def Stance.pending (stance : Stance) : Prop := stance = .announcing ∨ stance = .closing

/-- One close at a time is on its way to the sink, none after a frame was handed over. Once one
has set the token no send gets the sink, and after the frame none has it.
-/
structure State.Orderly (past : List Event) (state : State) : Prop where
  single
    : ∀ id other, (state.phase id).stance.pending → (state.phase other).stance.pending → id = other
  shut
    : (Over past ∨ ∃ id, (state.phase id).stance = .closing)
      → state.closing = true ∧ ∀ id, (state.phase id).stance ≠ .late
  ended
    : Over past
      → ∀ id, ¬(state.phase id).stance.pending ∧ (state.phase id).stance ≠ .giving

theorem State.orderly_new (maxMessageBytes : Nat)
    : State.Orderly [] { maxMessageBytes } where
  single id other pending := by rcases pending with idle | idle <;> cases idle
  shut busy := by
    rcases busy with ⟨id, frame, member⟩ | ⟨id, closing⟩
    · cases member
    · cases closing
  ended ended := by
    obtain ⟨id, frame, member⟩ := ended
    cases member

namespace State.Orderly

variable {past later : List Event} {state next : State} {actor : Nat}

/-- Calls that stay as they are, or drop out, keep the order. -/
theorem calm (orderly : state.Orderly past) (same : Over later → Over past)
    (stances
      : ∀ id, (next.phase id).stance = .idle
        ∨ (next.phase id).stance = (state.phase id).stance)
    (token : state.closing = true → next.closing = true)
    : next.Orderly later := by
  have kept {id : Nat} {stance : Stance} (is : (next.phase id).stance = stance)
      (busy : stance ≠ .idle)
      : (state.phase id).stance = stance := by
    rcases stances id with idle | unchanged
    · exact absurd (is.symm.trans idle) busy
    · exact unchanged.symm.trans is
  have pending {id : Nat} (is : (next.phase id).stance.pending)
      : (state.phase id).stance.pending :=
    is.imp (fun announcing => kept announcing (by simp)) (fun closing => kept closing (by simp))
  refine ⟨fun id other first second => ?_, fun busy => ?_, fun ended id => ⟨?_, ?_⟩⟩
  · exact orderly.single id other (pending first) (pending second)
  · have shut := orderly.shut
      (busy.imp same (fun ⟨id, closing⟩ => ⟨id, kept closing (by simp)⟩))
    exact ⟨token shut.1, fun id late => shut.2 id (kept late (by simp))⟩
  · exact fun is => ((orderly.ended (same ended)) id).1 (pending is)
  · exact fun giving => ((orderly.ended (same ended)) id).2 (kept giving (by simp))

/-- While `closing` is clear no frame was handed over and no close is on its way. -/
theorem unshut (orderly : state.Orderly past) (clear : state.closing = false)
    : ¬Over past ∧ ∀ id, (state.phase id).stance ≠ .closing := by
  refine ⟨fun ended => ?_, fun id closing => ?_⟩
  · rw [(orderly.shut (.inl ended)).1] at clear
    cases clear
  · rw [(orderly.shut (.inr ⟨id, closing⟩)).1] at clear
    cases clear

section OneMoved

variable (others : ∀ id, id ≠ actor → next.phase id = state.phase id)
  (same : Over later → Over past)
include others same

/-- A close finds `closing` clear while no other is about to set it. -/
theorem looks (orderly : state.Orderly past) (clear : state.closing = false)
    (alone : ∀ id, (state.phase id).stance ≠ .announcing)
    (is : (next.phase actor).stance = .announcing)
    : next.Orderly later := by
  obtain ⟨notOver, noClosing⟩ := orderly.unshut clear
  have one {id : Nat} (pending : (next.phase id).stance.pending) : id = actor := by
    by_contra different
    rw [others id different] at pending
    rcases pending with announcing | closing
    · exact alone id announcing
    · exact noClosing id closing
  refine ⟨fun id other first second => (one first).trans (one second).symm, fun busy => ?_,
    fun ended => absurd (same ended) notOver⟩
  rcases busy with ended | ⟨id, closing⟩
  · exact absurd (same ended) notOver
  · have mine := one (.inr closing)
    subst mine
    cases is.symm.trans closing

/-- A close sets the token while no send is about to ask for the sink. -/
theorem announces (orderly : state.Orderly past) (now : next.closing = true)
    (quiet : ∀ id, (state.phase id).stance ≠ .late)
    (was : (state.phase actor).stance = .announcing) (is : (next.phase actor).stance = .closing)
    : next.Orderly later := by
  have before {id : Nat} (pending : (next.phase id).stance.pending)
      : (state.phase id).stance.pending := by
    by_cases mine : id = actor
    · rw [mine]
      exact .inl was
    · rwa [← others id mine]
  refine ⟨fun id other first second => orderly.single id other (before first) (before second),
    fun _ => ⟨now, fun id late => ?_⟩, fun ended => ?_⟩
  · by_cases mine : id = actor
    · subst mine
      cases is.symm.trans late
    · rw [others id mine] at late
      exact quiet id late
  · exact absurd (.inl was) (orderly.ended (same ended) actor).1

/-- A send finds `closing` clear, so that no close is on its way. -/
theorem passes (orderly : state.Orderly past) (clear : state.closing = false)
    (is : (next.phase actor).stance = .late)
    : next.Orderly later := by
  obtain ⟨notOver, noClosing⟩ := orderly.unshut clear
  have before {id : Nat} (pending : (next.phase id).stance.pending)
      : (state.phase id).stance.pending := by
    by_cases mine : id = actor
    · subst mine
      rw [is] at pending
      rcases pending with announcing | closing
      · cases announcing
      · cases closing
    · rwa [← others id mine]
  refine ⟨fun id other first second => orderly.single id other (before first) (before second),
    fun busy => ?_, fun ended => absurd (same ended) notOver⟩
  rcases busy with ended | ⟨id, closing⟩
  · exact absurd (same ended) notOver
  · rcases before (.inr closing) with announcing | already
    · by_cases mine : id = actor
      · subst mine
        cases is.symm.trans closing
      · rw [others id mine] at closing
        exact absurd closing (noClosing id)
    · exact absurd already (noClosing id)

/-- A send gets the sink, so that no close has set the token before. -/
theorem takes (orderly : state.Orderly past) (was : (state.phase actor).stance = .late)
    (is : (next.phase actor).stance = .giving)
    : next.Orderly later := by
  have before {id : Nat} (pending : (next.phase id).stance.pending)
      : id ≠ actor ∧ (state.phase id).stance.pending := by
    by_cases mine : id = actor
    · subst mine
      rw [is] at pending
      rcases pending with announcing | closing
      · cases announcing
      · cases closing
    · exact ⟨mine, by rwa [← others id mine]⟩
  refine ⟨fun id other first second => orderly.single id other (before first).2 (before second).2,
    fun busy => ?_, fun ended => ?_⟩
  · have shut := orderly.shut (busy.imp same (fun ⟨id, closing⟩ => by
      obtain ⟨different, _⟩ := before (.inr closing)
      exact ⟨id, by rwa [← others id different]⟩))
    exact absurd was (shut.2 actor)
  · exact absurd was ((orderly.shut (.inl (same ended))).2 actor)

end OneMoved

end State.Orderly

/-- A step keeps the order of the handshake, unless it hands over the Close frame. -/
theorem Step.orderly {state next : State} {event : Event} {past : List Event}
    (step : Step state event next) (locked : state.Locked) (permitted : state.orders event)
    (orderly : state.Orderly past) (plain : ∀ id frame, event ≠ .hand id (.close frame))
    : next.Orderly (past ++ [event]) := by
  have same (ended : Over (past ++ [event])) : Over past := by
    obtain ⟨id, frame, member⟩ := ended
    rcases List.mem_append.mp member with old | new
    · exact ⟨id, frame, old⟩
    · exact absurd (List.mem_singleton.mp new).symm (plain id frame)
  have others (id : Nat) (different : id ≠ event.actor) : next.phase id = state.phase id :=
    step.others locked different
  have token := step.spent.closing
  have move := step.stance locked
  generalize was : (state.phase event.actor).stance = before at move
  generalize is : (next.phase event.actor).stance = after at move
  cases move with
  | rests =>
      refine orderly.calm same (fun id => ?_) token
      by_cases mine : id = event.actor
      · exact .inl (by rw [mine, is])
      · exact .inr (by rw [others id mine])
  | keeps =>
      refine orderly.calm same (fun id => ?_) token
      by_cases mine : id = event.actor
      · exact .inr (by rw [mine, is, was])
      · exact .inr (by rw [others id mine])
  | @looks id frame looked here clear =>
      subst looked
      exact orderly.looks others same clear (permitted ⟨frame, here⟩ clear) is
  | announces announced now =>
      subst announced
      exact orderly.announces others same now permitted was is
  | passes clear => exact orderly.passes others same clear is
  | takes => exact orderly.takes others same was is

/-- A send whose message is to be handed over has the sink. -/
theorem station_of_giving {phase : Phase} (giving : phase.stance = .giving)
    : phase.station .tx = .inside := by
  have of_run {job : Job} {hold : Hold} (is : job.stance hold = .giving)
      : job.side = .tx ∧ hold.station = .inside := by
    cases job with
    | send message => cases hold <;> first | exact ⟨rfl, rfl⟩ | cases is
    | handClose frame => cases hold <;> cases is
    | _ => cases is
  have at_job {phase : Phase} {job : Job} {hold : Hold}
      (place : phase.place = some (job.side, hold.station)) (is : job.stance hold = .giving)
      : phase.station .tx = .inside := by
    obtain ⟨side, inside⟩ := of_run is
    rw [side, inside] at place
    exact station_of_place place
  cases phase with
  | polling job hold => exact at_job rfl giving
  | looking job hold => exact at_job rfl giving
  | timing job hold => exact at_job rfl giving
  | suspended job hold => exact at_job rfl giving
  | working job hold =>
      by_cases held : hold.station = .inside
      · rw [stance_working held] at giving
        exact at_job rfl giving
      · rcases stance_unheld job held with ⟨late, _⟩ | ⟨same, got⟩
        · rw [late] at giving
          cases giving
        · rw [same] at giving
          exact at_job rfl giving
  | _ => cases giving

/-- What hands a message to the sink: a send that has it, or a close. -/
theorem Step.hands {state next : State} {id : Nat} {message : Message}
    (step : Step state (.hand id message) next)
    : (state.phase id).station .tx = .inside ∧ (next.phase id).stance = .idle
      ∧ ((state.phase id).stance = .closing
        ∨ ((state.phase id).stance = .giving ∧ message.isClose = false)) := by
  obtain ⟨job, here, gives, rfl⟩ := step
  have idle : ((state.setPhase id (.working job .flushing)).phase id).stance = .idle := by
    simp only [State.setPhase, Function.update_self]
    exact (stance_working rfl).trans (stance_flushing job)
  refine ⟨?_, idle, ?_⟩
  · rw [here]
    cases job with
    | send message => rfl
    | handClose frame => rfl
    | _ => cases gives
  · rw [here]
    cases job with
    | send outgoing =>
        cases gives
        exact .inr ⟨rfl, outgoing.property⟩
    | handClose frame => exact .inl rfl
    | _ => cases gives

/-- Handing over the Close frame ends what calls may do with the sink. -/
theorem Step.orderly_close {state next : State} {id : Nat} {frame : Option CloseFrame}
    {past : List Event} (step : Step state (.hand id (.close frame)) next)
    (locked : state.Locked) (orderly : state.Orderly past)
    : next.Orderly (past ++ [.hand id (.close frame)]) := by
  obtain ⟨inside, idle, was⟩ := step.hands
  have closing : (state.phase id).stance = .closing := by
    rcases was with closing | ⟨_, notClose⟩
    · exact closing
    · cases notClose
  obtain ⟨token, quiet⟩ := orderly.shut (.inr ⟨id, closing⟩)
  have others {other : Nat} (different : other ≠ id) : next.phase other = state.phase other :=
    step.others locked different
  have before {other : Nat} {stance : Stance} (is : (next.phase other).stance = stance)
      (busy : stance ≠ .idle)
      : other ≠ id ∧ (state.phase other).stance = stance := by
    by_cases mine : other = id
    · rw [mine, idle] at is
      exact absurd is.symm busy
    · exact ⟨mine, by rw [← others mine, is]⟩
  have pending {other : Nat} (is : (next.phase other).stance.pending) : False := by
    have both : other ≠ id ∧ (state.phase other).stance.pending := by
      rcases is with announcing | closing
      · exact ⟨(before announcing (by simp)).1, .inl (before announcing (by simp)).2⟩
      · exact ⟨(before closing (by simp)).1, .inr (before closing (by simp)).2⟩
    exact both.1 (orderly.single other id both.2 (.inr closing))
  refine ⟨fun first _ is _ => (pending is).elim, fun _ => ⟨step.spent.closing token, ?_⟩,
    fun _ other => ⟨pending, fun giving => ?_⟩⟩
  · exact fun other late => quiet other (before late (by simp)).2
  · obtain ⟨different, gives⟩ := before giving (by simp)
    exact different ((locked.tracks .tx).exclusive (station_of_giving gives) inside)

-----------------------------------------------------------------------------------------
-- Runs
-----------------------------------------------------------------------------------------

/-- After a Close frame nothing is handed to the sink. -/
def Quiet (events : List Event) : Prop :=
  ∀ front back id frame, events = front ++ .hand id (.close frame) :: back
    → ∀ other message, .hand other message ∉ back

/-- Another event keeps the sink quiet unless it hands over a message too late. -/
theorem Quiet.append {past : List Event} (quiet : Quiet past) {event : Event}
    (early : ∀ id message, event = .hand id message → ¬Over past)
    : Quiet (past ++ [event]) := by
  intro front back id frame split other message member
  rcases List.eq_nil_or_concat back with rfl | ⟨init, last, rfl⟩
  · cases member
  · have longer : past ++ [event] = (front ++ .hand id (.close frame) :: init) ++ [last] := by
      simpa using split
    obtain ⟨rfl, same⟩ := List.append_inj' longer rfl
    cases same
    have place : .hand other message ∈ init ∨ .hand other message = event := by
      simpa using member
    rcases place with old | new
    · exact quiet front init id frame rfl other message old
    · exact early other message new.symm ⟨id, frame, by simp⟩

/-- A quiet sink is what the handshake asks for. -/
theorem Quiet.handshake {events : List Event} (quiet : Quiet events) : Handshake events where
  once front back id frame split other later := quiet front back id frame split other _
  late front mid back id message split _ other frame member := by
    obtain ⟨before, between, rfl⟩ := List.append_of_mem member
    refine quiet before (between ++ .openSlot id :: mid ++ .hand id message :: back) other frame
      (by simp [split]) id message (by simp)

/-- Messages and the Close frame are handed over in the right order, in every run in which no
close looks at `closing` while another is about to set it, and none sets it while a send is
about to ask for the sink.
-/
theorem handshake_in_order {maxMessageBytes : Nat} {events : List Event} {state : State}
    (run : Run (Guarded State.orders Step) { maxMessageBytes } events state)
    : Handshake events := by
  have all : (state.Locked ∧ state.Orderly events) ∧ Quiet events := by
    apply run.history
    · rintro past before event after ⟨⟨locked, orderly⟩, quiet⟩ ⟨permitted, step⟩
      refine ⟨⟨step.locked locked, ?_⟩, quiet.append ?_⟩
      · by_cases close : ∃ id frame, event = .hand id (.close frame)
        · obtain ⟨id, frame, rfl⟩ := close
          exact step.orderly_close locked orderly
        · exact step.orderly locked permitted orderly
            (fun id frame same => close ⟨id, frame, same⟩)
      · rintro id message rfl ended
        obtain ⟨notPending, notGiving⟩ := orderly.ended ended id
        rcases step.hands.2.2 with closing | ⟨giving, _⟩
        · exact notPending (.inr closing)
        · exact notGiving giving
    · refine ⟨⟨State.locked_new maxMessageBytes, State.orderly_new maxMessageBytes⟩, ?_⟩
      intro front back id frame split
      simp at split
  exact all.2.handshake

-----------------------------------------------------------------------------------------
-- Samples
-----------------------------------------------------------------------------------------

def goodbye : CloseFrame := { code := 1000, reason := "" }

/-- The job of handing the frame to the sink. -/
def closeJob : Job := .handClose goodbye

/-- A close that has set the token gets the sink and hands its frame over. -/
def frameHanded (state : State) (id : Nat) : State :=
  let locked := (state.lookCancelled id closeJob .fresh).lock id closeJob
  (locked.openSlot id closeJob).setPhase id (.working closeJob .flushing)

def handFrame (id : Nat) : List Event :=
  [.lookCancelled id, .lock id, .openSlot id, .hand id (.close (some goodbye))]

/-- The frame is flushed, and the sink given back. -/
def sinkFreed (state : State) (id : Nat) : State :=
  let flushed := state.answer id closeJob .flushing (some (.ok none))
  ((flushed.check id .tx (.working .awaitClose .fresh)).leave .tx id).setPhase id
    (.working .awaitClose .fresh)

def freeSink (id : Nat) : List Event := [.flush id (some (.ok ())), .check id, .unlock id]

/-- A close that has set the token hands its frame over where the sink is there and free. -/
theorem frameHanded_run {state : State} {id : Nat}
    (phase : state.phase id = .polling closeJob .fresh) (calm : state.cancellation = false)
    (full : state.full .tx = true) (free : (state.locks .tx).order = [])
    : Run Step state (handFrame id) (frameHanded state id) := by
  have looked : state.lookCancelled id closeJob .fresh
      = state.setPhase id (.working closeJob .fresh) := by
    simp [State.lookCancelled, calm, closeJob, Job.looks]
  have taken : (state.setPhase id (.working closeJob .fresh)).lock id closeJob
      = ((state.setPhase id (.working closeJob .fresh)).setLock .tx
          ⟨[id], List.nodup_singleton id⟩).setPhase id (.working closeJob .got) := by
    simp [State.lock, State.setPhase, closeJob, Job.side, FairLock.tryLock, FairLock.isFree, free]
  rw [frameHanded, looked, taken]
  apply Run.cons
  · exact ⟨_, _, phase, rfl⟩
  rw [looked]
  apply Run.cons
  · exact ⟨closeJob, by simp [State.setPhase], rfl⟩
  rw [taken]
  apply Run.cons
  · exact ⟨closeJob, by simp [State.setPhase], rfl⟩
  apply Run.cons
  · refine ⟨closeJob, ?_, rfl, rfl⟩
    simp [State.openSlot, State.setPhase, State.setLock, full, closeJob, Job.side, Job.begin]
  exact .nil

/-- It gives the sink back once the frame is flushed. -/
theorem sinkFreed_run {state : State} {id : Nat}
    (phase : state.phase id = .working closeJob .flushing) (calm : state.cancellation = false)
    : Run Step state (freeSink id) (sinkFreed state id) := by
  have flushed : state.answer id closeJob .flushing (some (.ok none))
      = state.setPhase id (.checking .tx (.working .awaitClose .fresh)) :=
    rfl
  have first : Step state (.flush id (some (.ok ())))
      (state.setPhase id (.checking .tx (.working .awaitClose .fresh))) :=
    ⟨closeJob, phase, rfl⟩
  rw [sinkFreed, flushed]
  apply Run.cons first
  apply Run.cons
  · exact ⟨.tx, .working .awaitClose .fresh, by simp [State.setPhase], rfl⟩
  apply Run.cons
  · refine ⟨.tx, .working .awaitClose .fresh, ?_, rfl⟩
    simp [State.check, State.setPhase, calm]
  exact .nil

/-- A send is at the sink when two closes are called, and the first sets the token. -/
def announced : State :=
  let called := (handedOver.begin 1 (.close goodbye)).begin 2 (.close goodbye)
  ((called.lookClose 1 goodbye).lookStill 1 goodbye).announce 1 goodbye

def announceClose : List Event :=
  [.call 1 (.close goodbye), .call 2 (.close goodbye), .look 1, .lookStill 1, .announce 1]

/-- The second close has nothing to do, and the first waits in line for the sink. -/
def lined : State :=
  let asked := ((announced.lookClose 2 goodbye).lookCancelled 1 closeJob .fresh).lock 1 closeJob
  asked.setPhase 1 (.suspended closeJob .queued)

def lineUp : List Event := [.look 2, .lookCancelled 1, .lock 1, .suspend 1]

/-- The message is flushed, and the send gives the sink to the close. -/
def passedOn : State :=
  let flushed := lined.answer 0 sampleJob .flushing (some (.ok none))
  ((flushed.check 0 .tx (.returned (.ok none))).leave .tx 0).setPhase 0 (.returned (.ok none))

def passOn : List Event := [.flush 0 (some (.ok ())), .check 0, .unlock 0]

/-- The close hands its frame over. -/
def parted : State :=
  let polled := passedOn.setPhase 1 (.polling closeJob .queued)
  let granted := (polled.lookCancelled 1 closeJob .queued).setPhase 1 (.working closeJob .got)
  (granted.openSlot 1 closeJob).setPhase 1 (.working closeJob .flushing)

def part : List Event :=
  [.wake 1, .lookCancelled 1, .granted 1, .openSlot 1, .hand 1 (.close (some goodbye))]

theorem handedOver_ordered
    : Run (Guarded State.orders Step) { maxMessageBytes := 16 } handOver handedOver := by
  apply Run.cons
  · exact ⟨trivial, rfl, rfl⟩
  apply Run.cons
  · refine ⟨?_, .inl ⟨_, _, rfl, rfl⟩⟩
    rintro ⟨frame, is⟩
    cases is
  apply Run.cons
  · exact ⟨trivial, _, _, rfl, rfl⟩
  apply Run.cons
  · exact ⟨trivial, _, _, rfl, rfl⟩
  apply Run.cons
  · exact ⟨trivial, _, rfl, rfl⟩
  apply Run.cons
  · exact ⟨trivial, _, rfl, rfl⟩
  apply Run.cons
  · exact ⟨trivial, _, rfl, rfl, rfl⟩
  exact .nil

theorem announced_run : Run (Guarded State.orders Step) handedOver announceClose announced := by
  apply Run.cons
  · exact ⟨trivial, rfl, rfl⟩
  apply Run.cons
  · exact ⟨trivial, rfl, rfl⟩
  apply Run.cons
  · refine ⟨fun _ _ other is => ?_, .inr (.inr ⟨_, rfl, rfl⟩)⟩
    rcases other with _ | _ | _ | other <;> cases is
  apply Run.cons
  · exact ⟨trivial, _, rfl, rfl⟩
  apply Run.cons
  · refine ⟨fun other is => ?_, _, rfl, rfl⟩
    rcases other with _ | _ | _ | other <;> cases is
  exact .nil

theorem lined_run : Run (Guarded State.orders Step) announced lineUp lined := by
  apply Run.cons
  · refine ⟨fun _ clear => ?_, .inr (.inr ⟨_, rfl, rfl⟩)⟩
    cases clear
  apply Run.cons
  · exact ⟨trivial, _, _, rfl, rfl⟩
  apply Run.cons
  · exact ⟨trivial, _, rfl, rfl⟩
  apply Run.cons
  · exact ⟨trivial, _, _, rfl, rfl⟩
  exact .nil

theorem passedOn_run : Run (Guarded State.orders Step) lined passOn passedOn := by
  apply Run.cons
  · exact ⟨trivial, _, rfl, rfl⟩
  apply Run.cons
  · exact ⟨trivial, _, _, rfl, rfl⟩
  apply Run.cons
  · exact ⟨trivial, _, _, rfl, rfl⟩
  exact .nil

theorem parted_run : Run (Guarded State.orders Step) passedOn part parted := by
  apply Run.cons
  · exact ⟨trivial, _, _, rfl, rfl⟩
  apply Run.cons
  · exact ⟨trivial, _, _, rfl, rfl⟩
  apply Run.cons
  · exact ⟨trivial, _, rfl, rfl, rfl⟩
  apply Run.cons
  · exact ⟨trivial, _, rfl, rfl⟩
  apply Run.cons
  · exact ⟨trivial, _, rfl, rfl, rfl⟩
  exact .nil

/-- The one frame follows the message, though two closes were called beside the send. -/
theorem handshake_in_order_beside
    : Handshake (handOver ++ announceClose ++ lineUp ++ passOn ++ part) := by
  have waits := (handedOver_ordered.append announced_run).append lined_run
  exact handshake_in_order ((waits.append passedOn_run).append parted_run)

/-- Two closes find `closing` clear before either sets it. -/
def bothAnnounced : State :=
  let called := (({ maxMessageBytes := 16 } : State).begin 0 (.close goodbye)).begin 1
    (.close goodbye)
  let looked := (called.lookClose 0 goodbye).lookClose 1 goodbye
  let still := (looked.lookStill 0 goodbye).lookStill 1 goodbye
  (still.announce 0 goodbye).announce 1 goodbye

def bothAnnounce : List Event :=
  [.call 0 (.close goodbye), .call 1 (.close goodbye), .look 0, .look 1, .lookStill 0,
    .lookStill 1, .announce 0, .announce 1]

theorem bothAnnounced_run : Run Step { maxMessageBytes := 16 } bothAnnounce bothAnnounced := by
  apply Run.cons
  · exact ⟨rfl, rfl⟩
  apply Run.cons
  · exact ⟨rfl, rfl⟩
  apply Run.cons
  · exact .inr (.inr ⟨_, rfl, rfl⟩)
  apply Run.cons
  · exact .inr (.inr ⟨_, rfl, rfl⟩)
  apply Run.cons
  · exact ⟨_, rfl, rfl⟩
  apply Run.cons
  · exact ⟨_, rfl, rfl⟩
  apply Run.cons
  · exact ⟨_, rfl, rfl⟩
  apply Run.cons
  · exact ⟨_, rfl, rfl⟩
  exact .nil

/-- The first has handed its frame over and given the sink back. -/
def firstParted : State := sinkFreed (frameHanded bothAnnounced 0) 0

theorem firstParted_run : Run Step bothAnnounced (handFrame 0 ++ freeSink 0) firstParted :=
  (frameHanded_run rfl rfl rfl rfl).append (sinkFreed_run rfl rfl)

/-- Both hand over a frame. -/
theorem two_close_frames
    : ∃ (events : List Event) (state : State), Run Step { maxMessageBytes := 16 } events state
        ∧ ¬Handshake events := by
  have second : Run Step firstParted (handFrame 1) (frameHanded firstParted 1) :=
    frameHanded_run rfl rfl rfl rfl
  have run := (bothAnnounced_run.append firstParted_run).append second
  refine ⟨_, _, run, fun handshake => ?_⟩
  exact handshake.once (bothAnnounce ++ [.lookCancelled 0, .lock 0, .openSlot 0])
    (freeSink 0 ++ handFrame 1) 0 (some goodbye) rfl 1 (some goodbye) (by simp [handFrame])

/-- A send has found `closing` clear and is about to ask for the sink when a close sets it. -/
def overtaken : State :=
  let looked := ((({ maxMessageBytes := 16 } : State).begin 0 (.send "binary" [1])).lookSend 0
    "binary" [1]).lookCancelled 0 sampleJob .fresh
  let closed := ((looked.lookClosing 0 sampleJob .fresh).begin 1 (.close goodbye)).lookClose 1
    goodbye
  (closed.lookStill 1 goodbye).announce 1 goodbye

def overtake : List Event :=
  [.call 0 (.send "binary" [1]), .look 0, .lookCancelled 0, .lookClosing 0,
    .call 1 (.close goodbye), .look 1, .lookStill 1, .announce 1]

theorem overtaken_run : Run Step { maxMessageBytes := 16 } overtake overtaken := by
  apply Run.cons
  · exact ⟨rfl, rfl⟩
  apply Run.cons
  · exact .inl ⟨_, _, rfl, rfl⟩
  apply Run.cons
  · exact ⟨_, _, rfl, rfl⟩
  apply Run.cons
  · exact ⟨_, _, rfl, rfl⟩
  apply Run.cons
  · exact ⟨rfl, rfl⟩
  apply Run.cons
  · exact .inr (.inr ⟨_, rfl, rfl⟩)
  apply Run.cons
  · exact ⟨_, rfl, rfl⟩
  apply Run.cons
  · exact ⟨_, rfl, rfl⟩
  exact .nil

/-- The close has handed its frame over and given the sink back. -/
def closeParted : State := sinkFreed (frameHanded overtaken 1) 1

theorem closeParted_run : Run Step overtaken (handFrame 1 ++ freeSink 1) closeParted :=
  (frameHanded_run rfl rfl rfl rfl).append (sinkFreed_run rfl rfl)

/-- The send asks for the sink, and hands its message over. -/
theorem lateHanded_run
    : Run Step closeParted [.lock 0, .openSlot 0, .hand 0 (.binary [1])]
        (((closeParted.lock 0 sampleJob).openSlot 0 sampleJob).setPhase 0
          (.working sampleJob .flushing)) := by
  apply Run.cons
  · exact ⟨_, rfl, rfl⟩
  apply Run.cons
  · exact ⟨_, rfl, rfl⟩
  apply Run.cons
  · exact ⟨_, rfl, rfl, rfl⟩
  exact .nil

/-- Its message follows the Close frame. -/
theorem message_after_close
    : ∃ (events : List Event) (state : State), Run Step { maxMessageBytes := 16 } events state
        ∧ ¬Handshake events := by
  have run := (overtaken_run.append closeParted_run).append lateHanded_run
  refine ⟨_, _, run, fun handshake => ?_⟩
  exact handshake.late (overtake ++ (handFrame 1 ++ freeSink 1) ++ [.lock 0]) [] [] 0
    (.binary [1]) rfl rfl 1 (some goodbye) (by simp [handFrame])

end Tlsurl.Core.WebSocket
