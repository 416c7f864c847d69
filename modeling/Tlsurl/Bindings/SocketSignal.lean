import Tlsurl.Bindings.Socket

/-! What an abort signal still does to a WebSocket of the Node binding.
The wrapper stops to listen only once the socket is shut. A socket that a closing handshake shut
is cancelled by the call that closes it, not by the signal.
-/

namespace Tlsurl.Bindings.Socket

open Tlsurl.Library Tlsurl.Core

-----------------------------------------------------------------------------------------
-- What the invariant says
-----------------------------------------------------------------------------------------

namespace Page

variable (page : Page)

/-- No call that is made now gets to its work. -/
def Shut : Prop := ∃ socket, page.socket = some socket ∧ socket.shut = true

/-- The native socket was aborted. -/
def Cancelled : Prop := ∃ socket, page.socket = some socket ∧ socket.cancellation = true

/-- Between `websocket` and what it returns -/
def Waits : Prop := ∃ future, page.stage = .awaiting future

/-- The native future of `websocket` is done. -/
def Ready : Prop := ∃ result, page.stage = .awaiting (.ready result)

/-- Where a page stands with its signal, while the event loop does nothing for it: `abort` listens
until the signal is aborted, or until there is nothing left to do for it.
-/
def Stands : Prop :=
  match page.stage with
  | .uncalled => page.signal = false ∧ page.listening = false
  | .awaiting _ =>
      page.signal = true
        → (page.listening = true
            ∧ (page.aborted = true → page.cancellation = true ∨ page.firing = true))
          ∨ (page.aborted = true ∧ page.cancellation = true)
  | .rejected _ => page.listening = false ∧ (page.socket = none ∨ page.Cancelled)
  | .opened =>
      page.signal = true
        → (page.listening = true ∧ (page.aborted = true → page.firing = true))
          ∨ page.Shut ∨ page.lost = true

/-- What the event loop is doing, and what it has made sure of. -/
inductive Doing : List Job → Prop
  | idle (stands : page.Stands) : Doing []
  | heard (deaf : page.listening = false) (sees : page.sees = true)
    (live : page.Waits ∨ page.stage = .opened)
    : Doing [.cancel, .deref]
  | deref (deaf : page.listening = false) (sees : page.sees = true)
    (live : page.Waits ∨ page.stage = .opened) (cancelled : page.cancellation = true)
    : Doing [.deref]
  | abort {id} (opened : page.stage = .opened) : Doing [.abort id]
  | leave {id} (opened : page.stage = .opened) : Doing [.abort id, .cleanup]
  | cleanup (opened : page.stage = .opened) (shut : page.Shut) : Doing [.cleanup]
  | discard {id error} (ready : page.Ready) : Doing [.abort id, .cleanup, .reject error]
  | fail {error} (ready : page.Ready) (free : page.socket = none ∨ page.Cancelled)
    : Doing [.cleanup, .reject error]
  | reject {error} (ready : page.Ready) (free : page.socket = none ∨ page.Cancelled)
    (deaf : page.listening = false)
    : Doing [.reject error]
  | hand (ready : page.Ready) (unseen : page.sees = false)
    (listens : page.signal = true → page.listening = true) (made : page.socket ≠ none)
    : Doing [.hand]

/-- The native socket keeps to its invariant, and so do the calls that the methods and the event
loop make of it.
-/
structure Keeps (socket : WebSocket.State) : Prop where
  known : socket.Known
  fits
    : ∀ id method, page.calls id = some method
      → (socket.phase id).Fits method.call socket.shut
  aborts
    : ∀ id, page.jobs.head? = some (.abort id)
      → socket.phase id = .uncalled ∨ (socket.phase id).Fits .abort socket.shut

/-- There is a native socket once its future has made one. -/
def Made : Prop :=
  match page.stage with
  | .uncalled => page.socket = none
  | .awaiting (.ready (.ok ())) => page.socket ≠ none
  | .awaiting _ => page.socket = none
  | .rejected _ => True
  | .opened => page.socket ≠ none

/-- What holds in every page that is reached. -/
structure Sound : Prop where
  keeps : ∀ socket, page.socket = some socket → page.Keeps socket
  called : ∀ id, page.calls id ≠ none → page.stage = .opened
  named : ∀ id method, page.calls id = some method → method.call ≠ .abort
  lost : page.lost = true → page.stage = .opened
  made : page.Made
  fired : page.firing = true → page.aborted = true
  signalled : page.listening = true → page.signal = true
  doing : page.Doing page.jobs

end Page

-----------------------------------------------------------------------------------------
-- What stays as it was
-----------------------------------------------------------------------------------------

section Steps

variable {page next : Page}

/-- A page before `websocket` is called -/
theorem sound_new (aborted : Bool) : ({ aborted } : Page).Sound where
  keeps _ made := by cases made
  called _ made := absurd rfl made
  named _ _ made := by cases made
  lost lost := by cases lost
  made := rfl
  fired firing := by cases firing
  signalled listening := by cases listening
  doing := .idle ⟨rfl, rfl⟩

/-- The event loop changes no native socket; an `abort` that it begins is a fresh call. -/
theorem Page.Sound.kept (sound : page.Sound) (socket : next.socket = page.socket)
    (calls : next.calls = page.calls)
    (jobs : ∀ id, next.jobs.head? = some (.abort id) → page.Fresh id)
    : ∀ socket, next.socket = some socket → next.Keeps socket := by
  intro native here
  rw [socket] at here
  have keeps := sound.keeps native here
  refine ⟨keeps.known, ?_, fun id first => .inl ((jobs id first).2 native here)⟩
  rw [calls]
  exact keeps.fits

/-- An aborted native socket is shut. -/
theorem Page.Cancelled.shut (cancelled : page.Cancelled) : page.Shut := by
  obtain ⟨socket, here, token⟩ := cancelled
  exact ⟨socket, here, by simp [WebSocket.State.shut, token]⟩

/-- An `abort` of the native socket that has returned has cancelled it. -/
theorem Page.Sound.cancelled (sound : page.Sound) {socket : WebSocket.State} {id : Nat}
    {result : WebSocket.Result} (here : page.socket = some socket)
    (aborted : socket.phase id = .aborted result)
    : page.Cancelled :=
  ⟨socket, here, (sound.keeps socket here).known.sure id (by rw [aborted]; rfl)⟩

/-- Where a page with no jobs stands -/
theorem Page.Sound.stands (sound : page.Sound) (idle : page.jobs = []) : page.Stands := by
  have doing := sound.doing
  rw [idle] at doing
  cases doing with
  | idle stands => exact stands

-----------------------------------------------------------------------------------------
-- The steps of `websocket`
-----------------------------------------------------------------------------------------

theorem sound_websocket (sound : page.Sound) (idle : page.jobs = [])
    (uncalled : page.stage = .uncalled) (signal : Bool) (refusal : Option Error)
    : (page.websocket signal refusal).Sound := by
  have bare : page.socket = none := by
    have made := sound.made
    simpa only [Page.Made, uncalled] using made
  have called (id : Nat) (made : page.calls id ≠ none) : False := by
    have opened := sound.called id made
    rw [uncalled] at opened
    cases opened
  have lost (lost : page.lost = true) : False := by
    have opened := sound.lost lost
    rw [uncalled] at opened
    cases opened
  cases refusal with
  | none =>
      refine ⟨fun socket here => ?_, fun id made => (called id made).elim, sound.named,
        fun gone => (lost gone).elim, bare, sound.fired, id, ?_⟩
      · rw [show (page.websocket signal none).socket = page.socket from rfl, bare] at here
        cases here
      · rw [show (page.websocket signal none).jobs = page.jobs from rfl, idle]
        refine .idle (fun given => .inl ⟨given, fun aborted => .inl ?_⟩)
        simp_all [Page.websocket]
  | some error =>
      refine ⟨fun socket here => ?_, fun id made => (called id made).elim, sound.named,
        fun gone => (lost gone).elim, bare, sound.fired, id, ?_⟩
      · rw [show (page.websocket signal (some error)).socket = page.socket from rfl, bare] at here
        cases here
      · exact .fail ⟨_, rfl⟩ (.inl bare)

/-- The native future of `websocket` goes on, whatever the event loop does. -/
theorem sound_future (sound : page.Sound) {before after : Future} {socket : Option WebSocket.State}
    (here : page.stage = .awaiting before) (unready : ∀ result, before ≠ .ready result)
    (made
      : (after = .ready (.ok ()) ∧ ∃ maxMessageBytes, socket = some { maxMessageBytes })
        ∨ (after ≠ .ready (.ok ()) ∧ socket = none))
    : ({ page with stage := .awaiting after, socket } : Page).Sound := by
  have waits {stage : Stage} (here' : page.stage = stage) : stage = .awaiting before := by
    rw [← here', here]
  refine ⟨fun native is_ => ?_, fun id called => ?_, sound.named, fun lost => ?_, ?_, sound.fired,
    sound.signalled, ?_⟩
  · rcases made with ⟨_, maxMessageBytes, new⟩ | ⟨_, bare⟩
    · rw [show socket = some native from is_] at new
      cases new
      refine ⟨WebSocket.State.known_new maxMessageBytes, fun id method called => ?_,
        fun _ _ => .inl rfl⟩
      have opened := sound.called id (by rw [called]; exact Option.some_ne_none method)
      cases waits opened
    · rw [show socket = some native from is_] at bare
      cases bare
  · cases waits (sound.called id called)
  · cases waits (sound.lost lost)
  · rcases made with ⟨rfl, maxMessageBytes, rfl⟩ | ⟨other, rfl⟩
    · exact Option.some_ne_none _
    · unfold Page.Made
      split
      · rfl
      · next same => exact absurd (by simpa using same) other
      · rfl
      · trivial
      · next same => cases same
  · have doing := sound.doing
    generalize page.jobs = jobs at doing
    cases doing with
    | idle stands =>
        refine .idle ?_
        simp only [Page.Stands, here] at stands ⊢
        exact stands
    | heard deaf sees live => exact .heard deaf sees (.inl ⟨_, rfl⟩)
    | deref deaf sees live cancelled => exact .deref deaf sees (.inl ⟨_, rfl⟩) cancelled
    | abort opened => cases waits opened
    | leave opened => cases waits opened
    | cleanup opened shut => cases waits opened
    | discard ready =>
        obtain ⟨result, ready⟩ := ready
        cases waits ready
        exact absurd rfl (unready result)
    | fail ready free =>
        obtain ⟨result, ready⟩ := ready
        cases waits ready
        exact absurd rfl (unready result)
    | reject ready free deaf =>
        obtain ⟨result, ready⟩ := ready
        cases waits ready
        exact absurd rfl (unready result)
    | hand ready unseen listens made =>
        obtain ⟨result, ready⟩ := ready
        cases waits ready
        exact absurd rfl (unready result)

/-- What the event loop begins past the `await` of `websocket` -/
theorem sound_resume (sound : page.Sound) {id : Nat} {result : Except Error Unit}
    (idle : page.jobs = []) (ready : page.stage = .awaiting (.ready result))
    (fresh : page.Fresh id)
    : (page.resume id result).Sound := by
  have made := sound.made
  have stands := sound.stands idle
  simp only [Page.Made, Page.Stands, ready] at made stands
  cases result with
  | error error =>
      refine ⟨sound.kept rfl rfl (fun id first => by cases first), sound.called, sound.named,
        sound.lost, sound.made, sound.fired, sound.signalled, ?_⟩
      exact .fail ⟨_, ready⟩ (.inl made)
  | ok _ =>
      cases sees : page.sees with
      | true =>
          rw [Page.resume, if_pos sees]
          refine ⟨sound.kept rfl rfl (fun other first => ?_), sound.called, sound.named, sound.lost,
            sound.made, sound.fired, sound.signalled, .discard ⟨_, ready⟩⟩
          cases first
          exact fresh
      | false =>
          rw [Page.resume, if_neg (by simp [sees])]
          refine ⟨sound.kept rfl rfl (fun other first => by cases first), sound.called,
            sound.named, sound.lost, sound.made, sound.fired, sound.signalled, ?_⟩
          refine .hand ⟨_, ready⟩ sees (fun given => ?_) made
          rcases stands given with ⟨listens, _⟩ | ⟨aborted, _⟩
          · exact listens
          · simp [Page.sees, show page.signal = true from given, aborted] at sees

-----------------------------------------------------------------------------------------
-- The steps of the signal
-----------------------------------------------------------------------------------------

theorem sound_abortSignal (sound : page.Sound) (idle : page.jobs = [])
    : page.abortSignal.Sound := by
  unfold Page.abortSignal
  split
  · exact sound
  · next first =>
      refine ⟨sound.kept rfl rfl (fun id busy => ?_), sound.called, sound.named, sound.lost,
        sound.made, fun _ => rfl, sound.signalled, ?_⟩
      · rw [show page.jobs = [] from idle] at busy
        cases busy
      · have stands := sound.stands idle
        rw [show page.jobs = [] from idle]
        refine .idle ?_
        unfold Page.Stands at stands ⊢
        cases stage : page.stage with
        | awaiting future =>
            simp only [stage] at stands ⊢
            intro given
            rcases stands given with ⟨listens, _⟩ | ⟨aborted, _⟩
            · exact .inl ⟨listens, fun _ => .inr listens⟩
            · exact absurd aborted first
        | opened =>
            simp only [stage] at stands ⊢
            intro given
            rcases stands given with ⟨listens, _⟩ | settled
            · exact .inl ⟨listens, fun _ => listens⟩
            · exact .inr settled
        | uncalled => simpa only [stage] using stands
        | rejected error =>
            simp only [stage] at stands ⊢
            exact stands

theorem sound_fire (sound : page.Sound) (idle : page.jobs = []) (firing : page.firing = true)
    : page.fire.Sound := by
  have aborted := sound.fired firing
  have stands := sound.stands idle
  unfold Page.fire
  split
  · next listens =>
      refine ⟨sound.kept rfl rfl (fun id first => by cases first), sound.called, sound.named,
        sound.lost, sound.made, (fun firing => by cases firing), (fun listens => by cases listens),
        ?_⟩
      refine .heard rfl ?_ ?_
      · exact Bool.and_eq_true_iff.mpr ⟨sound.signalled listens, aborted⟩
      · unfold Page.Stands at stands
        cases stage : page.stage with
        | awaiting future => exact .inl ⟨future, rfl⟩
        | opened => exact .inr rfl
        | uncalled =>
            simp only [stage] at stands
            rw [listens] at stands
            cases stands.2
        | rejected error =>
            simp only [stage] at stands
            rw [listens] at stands
            cases stands.1
  · next deaf =>
      refine ⟨sound.kept rfl rfl (fun id busy => ?_), sound.called, sound.named, sound.lost,
        sound.made, (fun firing => by cases firing), sound.signalled, ?_⟩
      · rw [show page.jobs = [] from idle] at busy
        cases busy
      · rw [show page.jobs = [] from idle]
        refine .idle ?_
        unfold Page.Stands at stands ⊢
        cases stage : page.stage with
        | awaiting future =>
            simp only [stage] at stands ⊢
            exact fun given => .inr ((stands given).resolve_left (fun both => deaf both.1))
        | opened =>
            simp only [stage] at stands ⊢
            exact fun given => .inr ((stands given).resolve_left (fun both => deaf both.1))
        | uncalled => simpa only [stage] using stands
        | rejected error =>
            simp only [stage] at stands ⊢
            exact stands

-----------------------------------------------------------------------------------------
-- The jobs of the event loop
-----------------------------------------------------------------------------------------

/-- A job other than a call of `abort` is done. -/
theorem sound_work (sound : page.Sound) {job : Job} {id : Nat} {jobs : List Job}
    (busy : page.jobs = job :: jobs) (plain : ∀ id, job ≠ .abort id) (fresh : page.Fresh id)
    : (page.work job id jobs).Sound := by
  have doing := sound.doing
  rw [busy] at doing
  cases doing with
  | heard deaf sees live =>
      refine ⟨sound.kept rfl rfl (fun id first => by cases first), sound.called, sound.named,
        sound.lost, sound.made, sound.fired, sound.signalled, ?_⟩
      exact .deref deaf sees live rfl
  | deref deaf sees live cancelled =>
      have aborted : page.aborted = true := (Bool.and_eq_true_iff.mp sees).2
      simp only [Page.work, List.append_nil]
      cases found : page.found with
      | true =>
          refine ⟨sound.kept rfl rfl (fun other first => ?_), sound.called, sound.named, sound.lost,
            sound.made, sound.fired, sound.signalled, ?_⟩
          · cases first
            exact fresh
          · exact .abort (by simpa using (Bool.and_eq_true_iff.mp found).1)
      | false =>
          refine ⟨sound.kept rfl rfl (fun id first => by cases first), sound.called, sound.named,
            sound.lost, sound.made, sound.fired, sound.signalled, ?_⟩
          refine .idle ?_
          rcases live with ⟨future, waits⟩ | opened
          · simp only [Page.Stands, waits]
            exact fun _ => .inr ⟨aborted, cancelled⟩
          · have lost : page.lost = true := by simpa [Page.found, opened] using found
            simp only [Page.Stands, opened]
            exact fun _ => .inr (.inr lost)
  | abort opened => exact absurd rfl (plain _)
  | leave opened => exact absurd rfl (plain _)
  | discard ready => exact absurd rfl (plain _)
  | cleanup opened shut =>
      refine ⟨sound.kept rfl rfl (fun id first => by cases first), sound.called, sound.named,
        sound.lost, sound.made, sound.fired, (fun listens => by cases listens), .idle ?_⟩
      simp only [Page.Stands, Page.work, opened]
      exact fun _ => .inr (.inl shut)
  | fail ready free =>
      refine ⟨sound.kept rfl rfl (fun id first => by cases first), sound.called, sound.named,
        sound.lost, sound.made, sound.fired, (fun listens => by cases listens), ?_⟩
      exact .reject ready free rfl
  | reject ready free deaf =>
      obtain ⟨result, ready⟩ := ready
      refine ⟨sound.kept rfl rfl (fun id first => by cases first), fun id made => ?_, sound.named,
        fun lost => ?_, trivial, sound.fired, sound.signalled, .idle ⟨deaf, free⟩⟩
      · have opened := sound.called id made
        rw [ready] at opened
        cases opened
      · have opened := sound.lost lost
        rw [ready] at opened
        cases opened
  | hand ready unseen listens made =>
      refine ⟨sound.kept rfl rfl (fun id first => by cases first), fun _ _ => rfl, sound.named,
        fun _ => rfl, made, sound.fired, sound.signalled, .idle ?_⟩
      intro given
      refine .inl ⟨listens given, fun aborted => ?_⟩
      rw [Page.sees, show page.signal = true from given, show page.aborted = true from aborted]
        at unseen
      cases unseen

/-- A call of `abort` in which the event loop is has returned. -/
theorem sound_aborted (sound : page.Sound) {id : Nat} {jobs : List Job}
    {socket : WebSocket.State} {result : WebSocket.Result} (busy : page.jobs = .abort id :: jobs)
    (here : page.socket = some socket) (aborted : socket.phase id = .aborted result)
    : ({ page with jobs } : Page).Sound := by
  have cancelled := sound.cancelled here aborted
  have doing := sound.doing
  rw [busy] at doing
  cases doing with
  | abort opened =>
      refine ⟨sound.kept rfl rfl (fun id first => by cases first), sound.called, sound.named,
        sound.lost, sound.made, sound.fired, sound.signalled, .idle ?_⟩
      simp only [Page.Stands, opened]
      exact fun _ => .inr (.inl cancelled.shut)
  | leave opened =>
      exact ⟨sound.kept rfl rfl (fun id first => by cases first), sound.called, sound.named,
        sound.lost, sound.made, sound.fired, sound.signalled, .cleanup opened cancelled.shut⟩
  | discard ready =>
      exact ⟨sound.kept rfl rfl (fun id first => by cases first), sound.called, sound.named,
        sound.lost, sound.made, sound.fired, sound.signalled, .fail ready (.inr cancelled)⟩

/-- The event loop begins a call of `abort`. -/
theorem sound_abort (sound : page.Sound) {id : Nat} {jobs : List Job} (fresh : page.Fresh id)
    (doing : page.Doing (.abort id :: jobs))
    : ({ page with jobs := .abort id :: jobs } : Page).Sound := by
  refine ⟨sound.kept rfl rfl (fun other first => ?_), sound.called, sound.named, sound.lost,
    sound.made, sound.fired, sound.signalled, ?_⟩
  · cases first
    exact fresh
  · cases doing with
    | abort opened => exact .abort opened
    | leave opened => exact .leave opened
    | discard ready => exact .discard ready

theorem sound_collect (sound : page.Sound) (idle : page.jobs = []) (opened : page.stage = .opened)
    : ({ page with lost := true } : Page).Sound := by
  refine ⟨sound.kept rfl rfl (fun id busy => ?_), sound.called, sound.named, fun _ => opened,
    sound.made, sound.fired, sound.signalled, ?_⟩
  · rw [show page.jobs = [] from idle] at busy
    cases busy
  · rw [show page.jobs = [] from idle]
    refine .idle ?_
    simp only [Page.Stands, opened]
    exact fun _ => .inr (.inr trivial)

-----------------------------------------------------------------------------------------
-- The calls of the native socket
-----------------------------------------------------------------------------------------

/-- What the event loop has made sure of stays while nothing but its jobs, the calls of methods and
the native socket changes.
-/
theorem Page.Doing.onward {jobs busy : List Job} (doing : page.Doing jobs)
    {socket : Option WebSocket.State} {calls : Nat → Option Method}
    (shut : page.Shut → ({ page with socket, calls, jobs := busy } : Page).Shut)
    (cancelled : page.Cancelled → ({ page with socket, calls, jobs := busy } : Page).Cancelled)
    (made : page.socket ≠ none ↔ socket ≠ none)
    : ({ page with socket, calls, jobs := busy } : Page).Doing jobs := by
  have free (was : page.socket = none ∨ page.Cancelled)
      : socket = none ∨ ({ page with socket, calls, jobs := busy } : Page).Cancelled :=
    was.imp (not_iff_not.mp made).mp cancelled
  cases doing with
  | idle stands =>
      refine .idle ?_
      unfold Page.Stands at stands ⊢
      cases stage : page.stage with
      | opened =>
          simp only [stage] at stands ⊢
          exact fun given => (stands given).imp_right (Or.imp_left shut)
      | rejected error =>
          simp only [stage] at stands ⊢
          exact stands.imp_right free
      | uncalled => simpa only [stage] using stands
      | awaiting future => simpa only [stage] using stands
  | heard deaf sees live => exact .heard deaf sees live
  | deref deaf sees live cancelled => exact .deref deaf sees live cancelled
  | abort opened => exact .abort opened
  | leave opened => exact .leave opened
  | cleanup opened was => exact .cleanup opened (shut was)
  | discard ready => exact .discard ready
  | fail ready was => exact .fail ready (free was)
  | reject ready was deaf => exact .reject ready (free was) deaf
  | hand ready unseen listens is_ => exact .hand ready unseen listens (made.mp is_)

/-- The same when the native socket goes on. -/
theorem Page.Doing.native {jobs : List Job} (doing : page.Doing jobs)
    {before after : WebSocket.State} {calls : Nat → Option Method}
    (here : page.socket = some before)
    (shuts : before.shut = true → after.shut = true)
    (cancels : before.cancellation = true → after.cancellation = true)
    : ({ page with socket := some after, calls } : Page).Doing jobs := by
  refine doing.onward (fun was => ?_) (fun was => ?_) (by simp [here])
  · obtain ⟨socket, is_, shut⟩ := was
    rw [here] at is_
    cases is_
    exact ⟨after, rfl, shuts shut⟩
  · obtain ⟨socket, is_, cancelled⟩ := was
    rw [here] at is_
    cases is_
    exact ⟨after, rfl, cancels cancelled⟩

/-- A page whose native socket goes on still has one. -/
theorem Page.Made.onward (made : page.Made) {before after : WebSocket.State}
    {calls : Nat → Option Method} (here : page.socket = some before)
    : ({ page with socket := some after, calls } : Page).Made := by
  unfold Page.Made at made ⊢
  split at made
  · rw [here] at made
    cases made
  · next stage => simp [stage]
  · rw [here] at made
    cases made
  · next stage => simp [stage]
  · next stage => simp [stage]

/-- A step of the native socket -/
theorem sound_native (sound : page.Sound) {event : WebSocket.Event}
    {before after : WebSocket.State} (here : page.socket = some before) (runs : page.Runs event)
    (step : WebSocket.Step before event after)
    : ({ page with socket := some after } : Page).Sound := by
  have keeps := sound.keeps before here
  obtain ⟨honest, undropped, actor⟩ := runs
  have spent := step.spent
  refine ⟨fun socket is_ => ?_, sound.called, sound.named, sound.lost, sound.made.onward here,
    sound.fired, sound.signalled, sound.doing.native here step.shut spent.cancellation⟩
  cases is_
  refine ⟨step.known undropped keeps.known,
    fun id method made => step.fits keeps.known honest (keeps.fits id method made),
    fun id first => ?_⟩
  rcases keeps.aborts id first with uncalled | fits
  · by_cases same : id = event.actor
    · subst same
      -- It is the call that the event loop is about to make.
      obtain ⟨call, made, starts⟩ := step.called keeps.known.locked uncalled
      have is_ : call = .abort := by
        rcases actor with ⟨_, old⟩ | ⟨_, own⟩
        · exact absurd made (old _ call)
        · exact own _ call made
      rw [starts, is_]
      exact .inr (WebSocket.fits_start .abort after.shut)
    · left
      rw [step.others keeps.known.locked same]
      exact uncalled
  · exact .inr (step.fits keeps.known honest fits)

/-- A method calls the native socket. -/
theorem sound_call (sound : page.Sound) {id : Nat} {call : WebSocket.Call}
    {socket : WebSocket.State} (idle : page.jobs = []) (opened : page.stage = .opened)
    (here : page.socket = some socket) (fresh : page.Fresh id) (other : call ≠ .abort)
    : (page.call id call socket).Sound := by
  have keeps := sound.keeps socket here
  have uncalled := fresh.2 socket here
  have step : WebSocket.Step socket (.call id call) (socket.begin id call) := ⟨uncalled, rfl⟩
  have honest : (WebSocket.Event.call id call).Honest := fun error answers => by cases answers
  refine ⟨fun native is_ => ?_, fun _ _ => opened, fun called method made => ?_, sound.lost,
    sound.made.onward here, sound.fired, sound.signalled,
    sound.doing.native here step.shut step.spent.cancellation⟩
  · cases is_
    refine ⟨step.known (fun _ dropped => by cases dropped) keeps.known,
      fun called method made => ?_, fun called first => ?_⟩
    · simp only [Page.call, Function.update_apply] at made
      split at made
      · next same =>
          cases made
          rw [same, WebSocket.phase_begin]
          exact WebSocket.fits_start call _
      · exact step.fits keeps.known honest (keeps.fits called method made)
    · rw [show (page.call id call socket).jobs = page.jobs from rfl, idle] at first
      cases first
  · simp only [Page.call, Function.update_apply] at made
    split at made
    · cases made
      exact other
    · exact sound.named called method made

/-- What is left of a method past its `await` is in order: it stops to listen only once the socket
is shut.
-/
theorem doing_continuation {call : WebSocket.Call} {result : WebSocket.Result} {later : Nat}
    (stands : page.Stands) (opened : page.stage = .opened)
    (ended : call.concludes result = true → page.Shut)
    : page.Doing (continuation call result later) := by
  cases call with
  | send kind data => exact .idle stands
  | abort => exact .idle stands
  | recv =>
      cases result with
      | error error => exact .cleanup opened (ended rfl)
      | ok message =>
          cases message with
          | none => exact .cleanup opened (ended rfl)
          | some message =>
              simp only [continuation]
              split
              · next close => exact .cleanup opened (ended close)
              · exact .idle stands
  | close frame =>
      cases result with
      | ok message => exact .cleanup opened (ended rfl)
      | error error =>
          simp only [continuation]
          split
          · exact .leave opened
          · exact .idle stands

/-- The promise of a native call is settled. -/
theorem sound_settle (sound : page.Sound) {id later : Nat} {method : Method}
    {socket : WebSocket.State} {result : WebSocket.Result} (idle : page.jobs = [])
    (made : page.calls id = some method) (here : page.socket = some socket)
    (returned : socket.phase id = .returned result ∨ socket.phase id = .aborted result)
    (fresh : page.Fresh later)
    : (page.settle id later method.call result).Sound := by
  have keeps := sound.keeps socket here
  have opened := sound.called id (by rw [made]; exact Option.some_ne_none method)
  have ended (concludes : method.call.concludes result = true) : page.Shut :=
    ⟨socket, here, keeps.known.shut_of_concludes (keeps.fits id method made) returned concludes⟩
  refine ⟨fun native is_ => ?_, fun called some => ?_, fun called other some => ?_, sound.lost,
    sound.made, sound.fired, sound.signalled, ?_⟩
  · rw [show (page.settle id later method.call result).socket = page.socket from rfl, here] at is_
    cases is_
    refine ⟨keeps.known, fun called other some => ?_, fun called first => .inl ?_⟩
    · simp only [Page.settle, Function.update_apply] at some
      split at some
      · next same =>
          cases some
          rw [same]
          exact keeps.fits id method made
      · exact keeps.fits called other some
    · have same : called = later := by
        simp only [Page.settle, continuation] at first
        repeat' split at first
        all_goals first
          | cases first; rfl
          | cases first
      rw [same]
      exact fresh.2 socket here
  · exact opened
  · simp only [Page.settle, Function.update_apply] at some
    split at some
    · cases some
      exact sound.named id method made
    · exact sound.named called other some
  · exact (doing_continuation (sound.stands idle) opened ended).onward
      (fun was => was) (fun was => was) Iff.rfl

-----------------------------------------------------------------------------------------
-- Runs
-----------------------------------------------------------------------------------------

/-- Each step keeps the page in order. -/
theorem Step.sound {event : Event} (step : Step page event next) (sound : page.Sound)
    : next.Sound := by
  cases event with
  | websocket signal refusal =>
      obtain ⟨idle, uncalled, rfl⟩ := step
      exact sound_websocket sound idle uncalled signal refusal
  | select =>
      obtain ⟨here, rfl⟩ := step
      have bare : page.socket = none := by simpa only [Page.Made, here] using sound.made
      refine sound_future sound here (fun result same => by cases same) (.inr ⟨?_, bare⟩)
      split <;> simp
  | poll answer =>
      obtain ⟨here, rfl⟩ := step
      have bare : page.socket = none := by simpa only [Page.Made, here] using sound.made
      have unready : ∀ result, Future.polling ≠ .ready result := fun result same => by cases same
      cases answer with
      | none => exact sound_future sound here unready (.inr ⟨by simp, bare⟩)
      | some answer =>
          cases answer with
          | error error => exact sound_future sound here unready (.inr ⟨by simp, bare⟩)
          | ok maxMessageBytes =>
              exact sound_future sound here unready (.inl ⟨rfl, maxMessageBytes, rfl⟩)
  | wake =>
      obtain ⟨here, rfl⟩ := step
      have bare : page.socket = none := by simpa only [Page.Made, here] using sound.made
      exact sound_future sound here (fun result same => by cases same) (.inr ⟨by simp, bare⟩)
  | resume id =>
      obtain ⟨result, idle, ready, fresh, rfl⟩ := step
      exact sound_resume sound idle ready fresh
  | abortSignal =>
      obtain ⟨idle, rfl⟩ := step
      exact sound_abortSignal sound idle
  | fire =>
      obtain ⟨idle, firing, rfl⟩ := step
      exact sound_fire sound idle firing
  | work job id =>
      obtain ⟨jobs, busy, plain, fresh, rfl⟩ := step
      exact sound_work sound busy plain fresh
  | aborted id =>
      obtain ⟨jobs, socket, result, busy, here, aborted, rfl⟩ := step
      exact sound_aborted sound busy here aborted
  | call id call =>
      obtain ⟨socket, idle, opened, _, here, fresh, other, rfl⟩ := step
      exact sound_call sound idle opened here fresh other
  | native event =>
      obtain ⟨before, after, here, runs, moves, rfl⟩ := step
      exact sound_native sound here runs moves
  | settle id later result =>
      obtain ⟨method, socket, idle, made, _, here, returned, fresh, rfl⟩ := step
      exact sound_settle sound idle made here returned fresh
  | abort id =>
      obtain ⟨idle, opened, _, fresh, rfl⟩ := step
      exact sound_abort sound fresh (.leave opened)
  | collect =>
      obtain ⟨idle, opened, _, rfl⟩ := step
      exact sound_collect sound idle opened
  | finalize id =>
      obtain ⟨idle, lost, fresh, rfl⟩ := step
      exact sound_abort sound fresh (.abort (sound.lost lost))

/-- Every page reached is in order. -/
theorem sound_run {aborted : Bool} {events : List Event}
    (run : Run Step { aborted } events page)
    : page.Sound :=
  run.invariant (fun _ sound step => step.sound sound) (sound_new aborted)

/-- What is left for an abort signal once the event loop has come to rest: `websocket` is listening,
or its native future is cancelled; a socket that was handed over is listening, unless it is lost,
was aborted, or is being closed by a call that will abort it; nothing listens beyond that.
-/
def Page.Heard (page : Page) : Prop :=
  match page.stage with
  | .uncalled => page.listening = false
  | .awaiting _ =>
      if page.aborted then page.cancellation = true else page.listening = true
  | .rejected _ => page.listening = false ∧ (page.socket = none ∨ page.Cancelled)
  | .opened =>
      (page.listening = true ∧ page.aborted = false) ∨ page.lost = true
        ∨ ∃ socket, page.socket = some socket
          ∧ (socket.cancellation = true
            ∨ socket.closing = true ∧ ∃ id, (socket.phase id).owes = true)

/-- In every run of a WebSocket that was given an abort signal, whenever the event loop rests the
signal is heard as long as there is something to abort.
-/
theorem heard_while_open {aborted : Bool} {events : List Event}
    (run : Run Step { aborted } events page) (quiet : page.Quiet) (signal : page.signal = true)
    : page.Heard := by
  have sound := sound_run run
  have stands := sound.stands quiet.1
  unfold Page.Stands at stands
  unfold Page.Heard
  cases stage : page.stage with
  | uncalled =>
      simp only [stage] at stands ⊢
      exact stands.2
  | rejected error => simpa only [stage] using stands
  | awaiting future =>
      simp only [stage] at stands ⊢
      rcases stands signal with ⟨listens, heard⟩ | ⟨aborted, cancelled⟩
      · split
        · next aborted => exact (heard aborted).resolve_right (by simp [quiet.2])
        · exact listens
      · rw [if_pos aborted]
        exact cancelled
  | opened =>
      simp only [stage] at stands ⊢
      rcases stands signal with ⟨listens, fires⟩ | ⟨socket, here, shut⟩ | lost
      · left
        refine ⟨listens, ?_⟩
        by_contra aborted
        have firing := fires (by simpa using aborted)
        rw [quiet.2] at firing
        cases firing
      · refine .inr (.inr ⟨socket, here, ?_⟩)
        rcases Bool.or_eq_true_iff.mp shut with closing | cancelled
        · exact ((sound.keeps socket here).known.owed closing).imp_right
            (fun owes => ⟨closing, owes⟩)
        · exact .inl cancelled
      · exact .inr (.inl lost)

/-- An `abort` in which the event loop is goes on. -/
theorem runs_abort {id : Nat} (busy : page.jobs.head? = some (.abort id))
    {event : WebSocket.Event} (own : event = .abort id ∨ event = .call id .abort)
    : page.Runs event := by
  rcases own with rfl | rfl
  · exact ⟨(fun _ none => by cases none), (fun _ same => by cases same),
      .inr ⟨busy, (fun _ _ same => by cases same)⟩⟩
  · exact ⟨(fun _ none => by cases none), (fun _ same => by cases same),
      .inr ⟨busy, (fun _ _ same => by cases same; rfl)⟩⟩

/-- A socket that was handed over -/
def openedPage : Page :=
  let made := (({} : Page).websocket true none).select.poll (some (.ok 16))
  (made.resume 0 (.ok ())).work .hand 0 []

/-- A native socket that was aborted while nothing was called -/
def abortedSocket : WebSocket.State :=
  let begun := ({ maxMessageBytes := 16 } : WebSocket.State).begin 0 .abort
  let cancelled := begun.abort 0 .cancel (.ok none)
  let emptied := (cancelled.abort 0 (.tryLock .tx) (.ok none)).abort 0 (.clear .tx) (.ok none)
  let sink := emptied.abort 0 (.unlock .tx) (.ok none)
  ((sink.abort 0 (.tryLock .rx) (.ok none)).abort 0 (.clear .rx) (.ok none)).abort 0 (.unlock .rx)
    (.ok none)

/-- Its signal is aborted, and heard. -/
def heardPage : Page :=
  { ((openedPage.abortSignal.fire.work .cancel 0 [.deref]).work .deref 0 []) with
    socket := some abortedSocket, jobs := [] }

/-- The events of it -/
def heardEvents : List Event :=
  [.websocket true none, .select, .poll (some (.ok 16)), .resume 0, .work .hand 0, .abortSignal,
    .fire, .work .cancel 0, .work .deref 0, .native (.call 0 .abort), .native (.abort 0),
    .native (.abort 0), .native (.abort 0), .native (.abort 0), .native (.abort 0),
    .native (.abort 0), .native (.abort 0), .aborted 0]

theorem heardPage_run : Run Step { aborted := false } heardEvents heardPage := by
  have fresh {page : Page} (calls : page.calls 0 = none)
      (socket : ∀ socket, page.socket = some socket → socket.phase 0 = .uncalled)
      : page.Fresh 0 :=
    ⟨calls, socket⟩
  have abort {page : Page} {before after : WebSocket.State}
      (busy : page.jobs.head? = some (.abort 0)) (here : page.socket = some before)
      (step : WebSocket.Step before (.abort 0) after)
      : Step page (.native (.abort 0)) { page with socket := some after } :=
    ⟨before, after, here, runs_abort busy (.inl rfl), step, rfl⟩
  apply Run.cons
  · exact ⟨rfl, rfl, rfl⟩
  apply Run.cons
  · exact ⟨rfl, rfl⟩
  apply Run.cons
  · exact ⟨rfl, rfl⟩
  apply Run.cons
  · exact ⟨_, rfl, rfl, fresh rfl (fun _ here => by cases here; rfl), rfl⟩
  apply Run.cons
  · exact ⟨_, rfl, (fun _ same => by cases same), fresh rfl (fun _ here => by cases here; rfl), rfl⟩
  apply Run.cons
  · exact ⟨rfl, rfl⟩
  apply Run.cons
  · exact ⟨rfl, rfl, rfl⟩
  apply Run.cons
  · exact ⟨_, rfl, (fun _ same => by cases same), fresh rfl (fun _ here => by cases here; rfl), rfl⟩
  apply Run.cons
  · exact ⟨_, rfl, (fun _ same => by cases same), fresh rfl (fun _ here => by cases here; rfl), rfl⟩
  apply Run.cons
  · exact ⟨_, _, rfl, runs_abort rfl (.inr rfl), ⟨rfl, rfl⟩, rfl⟩
  apply Run.cons
  · exact abort rfl rfl ⟨_, _, rfl, rfl⟩
  apply Run.cons
  · exact abort rfl rfl ⟨_, _, rfl, rfl⟩
  apply Run.cons
  · exact abort rfl rfl ⟨_, _, rfl, rfl⟩
  apply Run.cons
  · exact abort rfl rfl ⟨_, _, rfl, rfl⟩
  apply Run.cons
  · exact abort rfl rfl ⟨_, _, rfl, rfl⟩
  apply Run.cons
  · exact abort rfl rfl ⟨_, _, rfl, rfl⟩
  apply Run.cons
  · exact abort rfl rfl ⟨_, _, rfl, rfl⟩
  apply Run.cons
  · exact ⟨_, _, _, rfl, rfl, rfl, rfl⟩
  exact .nil

theorem heard_while_open_aborted : heardPage.Heard :=
  heard_while_open heardPage_run ⟨rfl, rfl⟩ rfl

-----------------------------------------------------------------------------------------
-- After the signal
-----------------------------------------------------------------------------------------

/-- What holds of a page once its signal was heard; `earlier` are the calls made before, and
`handed` is whether the socket was handed over before.
-/
structure Page.Silenced (earlier : Nat → Option Method) (handed : Prop) (page : Page) : Prop where
  sees : page.sees = true
  called : page.stage ≠ .uncalled
  opened : page.stage = .opened → handed
  over_ : page.stage = .opened → page.lost = true ∨ page.Shut
  refused
    : ∀ id method socket, earlier id = none → page.calls id = some method
      → page.socket = some socket
      → (socket.phase id).Refused method.call socket.closing socket.cancellation

variable {earlier : Nat → Option Method} {handed : Prop}

/-- A page that rests with its signal aborted is silenced: what it called is called earlier. -/
theorem Page.Sound.silenced (sound : page.Sound) (quiet : page.Quiet)
    (signal : page.signal = true) (aborted : page.aborted = true)
    : page.Silenced page.calls (page.stage = .opened) := by
  have stands := sound.stands quiet.1
  unfold Page.Stands at stands
  refine ⟨Bool.and_eq_true_iff.mpr ⟨signal, aborted⟩, fun uncalled => ?_, id, fun opened => ?_,
    fun id method socket none some => ?_⟩
  · simp only [uncalled] at stands
    rw [signal] at stands
    cases stands.1
  · simp only [opened] at stands
    rcases stands signal with ⟨_, fires⟩ | over_
    · have firing := fires aborted
      rw [quiet.2] at firing
      cases firing
    · exact over_.symm
  · rw [none] at some
    cases some

/-- What the event loop does next, and what has cancelled `websocket`, do not matter here. -/
theorem Page.Silenced.jobs (silenced : page.Silenced earlier handed) (jobs : List Job)
    {listening firing cancellation : Bool}
    : ({ page with jobs, listening, firing, cancellation } : Page).Silenced earlier handed :=
  ⟨silenced.sees, silenced.called, silenced.opened, silenced.over_, silenced.refused⟩

/-- Each step after the signal was heard -/
theorem Step.silenced {event : Event} (step : Step page event next) (sound : page.Sound)
    (silenced : page.Silenced earlier handed)
    : next.Silenced earlier handed := by
  have aborted : page.aborted = true := (Bool.and_eq_true_iff.mp silenced.sees).2
  have uncalled {future : Future} (here : page.stage = .awaiting future) (id : Nat)
      : page.calls id = none := by
    by_contra made
    have opened := sound.called id made
    rw [here] at opened
    cases opened
  -- The native future of `websocket` goes on: there is no method to call yet.
  have waits {before after : Future} {socket : Option WebSocket.State}
      (here : page.stage = .awaiting before)
      : ({ page with stage := .awaiting after, socket } : Page).Silenced earlier handed := by
    refine ⟨silenced.sees, (fun same => by cases same), (fun same => by cases same),
      (fun same => by cases same), ?_⟩
    intro id method native none some
    cases (uncalled here id).symm.trans some
  cases event with
  | websocket signal refusal => exact absurd step.2.1 silenced.called
  | select =>
      obtain ⟨here, rfl⟩ := step
      exact waits here
  | poll answer =>
      obtain ⟨here, rfl⟩ := step
      cases answer with
      | none => exact waits here
      | some answer => cases answer <;> exact waits here
  | wake =>
      obtain ⟨here, rfl⟩ := step
      exact waits here
  | resume id =>
      obtain ⟨result, _, _, _, rfl⟩ := step
      cases result with
      | error error => exact silenced.jobs _
      | ok _ =>
          rw [Page.resume, if_pos silenced.sees]
          exact silenced.jobs _
  | abortSignal =>
      obtain ⟨_, rfl⟩ := step
      rw [Page.abortSignal, if_pos aborted]
      exact silenced
  | fire =>
      obtain ⟨_, _, rfl⟩ := step
      unfold Page.fire
      split <;> exact silenced.jobs _
  | work job id =>
      obtain ⟨jobs, busy, plain, fresh, rfl⟩ := step
      cases job with
      | cancel => exact silenced.jobs jobs
      | deref => exact silenced.jobs _
      | abort id => exact absurd rfl (plain id)
      | cleanup => exact silenced.jobs jobs
      | reject error =>
          exact ⟨silenced.sees, (fun same => by cases same), (fun same => by cases same),
            (fun same => by cases same), silenced.refused⟩
      | hand =>
          have doing := sound.doing
          rw [busy] at doing
          cases doing with
          | hand ready unseen listens made =>
              rw [silenced.sees] at unseen
              cases unseen
  | aborted id =>
      obtain ⟨jobs, _, _, _, _, _, rfl⟩ := step
      exact silenced.jobs jobs
  | call id call =>
      obtain ⟨socket, idle, opened, kept, here, fresh, other, rfl⟩ := step
      obtain ⟨native, is_, shut⟩ := (silenced.over_ opened).resolve_left (by simp [kept])
      rw [here] at is_
      cases is_
      have calls : WebSocket.Step socket (.call id call) (socket.begin id call) :=
        ⟨fresh.2 socket here, rfl⟩
      have locked := (sound.keeps socket here).known.locked
      refine ⟨silenced.sees, silenced.called, silenced.opened,
        fun _ => .inr ⟨_, rfl, calls.shut shut⟩, ?_⟩
      intro called method after none made some
      cases some
      simp only [Page.call, Function.update_apply] at made
      split at made
      · next same =>
          cases made
          rw [same, WebSocket.phase_begin]
          exact WebSocket.refused_start other (calls.shut shut)
      · exact calls.refused locked (silenced.refused called method socket none made here)
  | native event =>
      obtain ⟨before, after, here, runs, moves, rfl⟩ := step
      have locked := (sound.keeps before here).known.locked
      refine ⟨silenced.sees, silenced.called, silenced.opened, fun opened => ?_, ?_⟩
      · refine (silenced.over_ opened).imp_right (fun shut => ?_)
        obtain ⟨socket, is_, shut⟩ := shut
        rw [here] at is_
        cases is_
        exact ⟨after, rfl, moves.shut shut⟩
      · intro id method socket none made some
        cases some
        exact moves.refused locked (silenced.refused id method before none made here)
  | settle id later result =>
      obtain ⟨method, socket, _, made, _, here, _, _, rfl⟩ := step
      refine ⟨silenced.sees, silenced.called, silenced.opened, silenced.over_, ?_⟩
      intro called other native none settled some
      simp only [Page.settle, Function.update_apply] at settled
      split at settled
      · next same =>
          cases settled
          rw [same] at none ⊢
          exact silenced.refused id method native none made some
      · exact silenced.refused called other native none settled some
  | abort id =>
      obtain ⟨_, _, _, _, rfl⟩ := step
      exact silenced.jobs _
  | collect =>
      obtain ⟨_, _, _, rfl⟩ := step
      exact ⟨silenced.sees, silenced.called, silenced.opened, fun _ => .inl rfl, silenced.refused⟩
  | finalize id =>
      obtain ⟨_, _, _, rfl⟩ := step
      exact silenced.jobs _

/-- Only a call that was made before hands a message to the sink. -/
theorem Step.hands_earlier {id : Nat} {message : WebSocket.Message}
    (step : Step page (.native (.hand id message)) next) (sound : page.Sound)
    (silenced : page.Silenced earlier handed)
    : earlier id ≠ none := by
  intro none
  obtain ⟨before, after, here, ⟨_, _, actor⟩, moves, rfl⟩ := step
  obtain ⟨job, working, _, _⟩ := moves
  rcases actor with ⟨made, _⟩ | ⟨own, _⟩
  · obtain ⟨method, made⟩ := Option.ne_none_iff_exists'.mp made
    have refused := silenced.refused id method before none made here
    rw [working] at refused
    cases refused
  · -- The event loop is in a call of `abort`, which hands nothing over.
    rcases (sound.keeps before here).aborts id own with uncalled | fits
    · rw [working] at uncalled
      cases uncalled
    · rw [working] at fits
      cases job <;> cases fits

/-- After the signal was heard, by induction on the run -/
theorem Page.Silenced.run {events : List Event} (silenced : page.Silenced earlier handed)
    (sound : page.Sound) (later : Run Step page events next)
    : (next.Sound ∧ next.Silenced earlier handed)
      ∧ ∀ id message, .native (.hand id message) ∈ events → earlier id ≠ none := by
  induction later with
  | nil => exact ⟨⟨sound, silenced⟩, fun id message member => by cases member⟩
  | snoc front last ih =>
      obtain ⟨⟨sound, silenced⟩, hands⟩ := ih
      refine ⟨⟨last.sound sound, last.silenced sound silenced⟩, fun id message member => ?_⟩
      rcases List.mem_append.mp member with old | new
      · exact hands id message old
      · rw [List.mem_singleton] at new
        subst new
        exact last.hands_earlier sound silenced

/-- Once an abort signal is aborted and the event loop rests, in every continuation of every run:
a socket that was not handed over never is, only calls that were made before still hand messages to
the sink, and every call made later is barred from its work.
-/
theorem silent_once_heard {aborted : Bool} {past events : List Event}
    (run : Run Step { aborted } past page) (quiet : page.Quiet) (signal : page.signal = true)
    (heard : page.aborted = true) (later : Run Step page events next)
    : (next.stage = .opened → page.stage = .opened)
      ∧ (∀ id message, .native (.hand id message) ∈ events → page.calls id ≠ none)
      ∧ ∀ id method socket result, page.calls id = none → next.calls id = some method
        → next.socket = some socket
        → (socket.phase id = .returned result ∨ socket.phase id = .aborted result)
        → method.call.Barred result := by
  have sound := sound_run run
  obtain ⟨⟨_, silenced⟩, hands⟩ := (sound.silenced quiet signal heard).run sound later
  refine ⟨silenced.opened, hands, fun id method socket result none made here returned => ?_⟩
  have refused := silenced.refused id method socket none made here
  rcases returned with returned | returned
  · rw [returned] at refused
    exact refused
  · rw [returned] at refused
    exact refused

/-- A `close` is called on it. -/
def closedPage : Page :=
  let called := heardPage.call 1 (.close { code := 1000, reason := "" }) abortedSocket
  { called with
    socket := some
      (((abortedSocket.begin 1 (.close { code := 1000, reason := "" })).lookClose 1
        { code := 1000, reason := "" }).lookStill 1 { code := 1000, reason := "" }) }

theorem silent_once_heard_closed
    : (closedPage.stage = .opened → heardPage.stage = .opened)
      ∧ (∀ id message,
          .native (.hand id message)
              ∈ [Event.call 1 (.close { code := 1000, reason := "" }), .native (.look 1),
                .native (.lookStill 1)]
            → heardPage.calls id ≠ none)
      ∧ ∀ id method socket result, heardPage.calls id = none → closedPage.calls id = some method
        → closedPage.socket = some socket
        → (socket.phase id = .returned result ∨ socket.phase id = .aborted result)
        → method.call.Barred result := by
  have runs {page : Page} {event : WebSocket.Event} (made : page.calls event.actor ≠ none)
      (looks : event = .look 1 ∨ event = .lookStill 1)
      : page.Runs event := by
    rcases looks with rfl | rfl
    · exact ⟨(fun _ none => by cases none), (fun _ same => by cases same),
        .inl ⟨made, (fun _ _ same => by cases same)⟩⟩
    · exact ⟨(fun _ none => by cases none), (fun _ same => by cases same),
        .inl ⟨made, (fun _ _ same => by cases same)⟩⟩
  refine silent_once_heard heardPage_run ⟨rfl, rfl⟩ rfl rfl ?_
  refine .cons ⟨_, rfl, rfl, rfl, rfl, ⟨rfl, fun _ here => by cases here; rfl⟩,
    (fun same => by cases same), rfl⟩ ?_
  refine .cons ⟨_, _, rfl, runs (Option.some_ne_none _) (.inl rfl),
    .inr (.inr ⟨_, rfl, rfl⟩), rfl⟩ ?_
  exact .cons ⟨_, _, rfl, runs (Option.some_ne_none _) (.inr rfl), ⟨_, rfl, rfl⟩, rfl⟩ .nil

end Steps

end Tlsurl.Bindings.Socket
