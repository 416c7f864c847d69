import Tlsurl.Redirect.OriginBound

/-! When the history on the final response is complete.
The handler records a hop where it decides to follow at once, and the history is attached
only to a response that is no redirection: a deferred hop is never recorded, and a chain that
ends on a redirect response loses its history.
-/

namespace Tlsurl.Redirect

open Library

variable {World : Type}

/-- Entries that record all of `hops` in order, each leading to where the next one starts. -/
structure Records (hops : List (Hop World)) (entries : List HistoryEntry) : Prop where
  hops
    : List.Forall₂
        (fun hop entry => entry.status = hop.reply.status ∧ entry.headers = hop.reply.headers
          ∧ entry.uri = hop.request.uri)
        hops entries
  joined : entries.IsChain (fun entry next => entry.uri = next.previous)

/-- A response carries the complete history: nothing without a hop, else a record of all. -/
def Exchange.HistoryComplete (exchange : Exchange World) (res : Response) : Prop :=
  if exchange.hops = [] then res.history = none
  else ∃ entries, res.history = some entries ∧ Records exchange.hops entries

/-- The entry for one followed redirect. -/
def Hop.entry (previous : Uri) (hop : Hop World) : HistoryEntry where
  status := hop.reply.status
  uri := hop.request.uri
  previous := previous
  headers := hop.reply.headers

/-- Where a chain of hops from `first` has led. -/
def target (first : Uri) : List (Hop World) → Uri
  | [] => first
  | hop :: hops => target hop.request.uri hops

/-- The entries of the hops that were not deferred. -/
def recordedEntries (first : Uri) : List (Hop World) → List HistoryEntry
  | [] => []
  | hop :: hops =>
      (if hop.deferred then [] else [hop.entry first]) ++ recordedEntries hop.request.uri hops

/-- What the handler holds after these hops. -/
def recordedHistory (first : Uri) (hops : List (Hop World)) : Option (List HistoryEntry) :=
  match recordedEntries first hops with
  | [] => none
  | entries => some entries

-----------------------------------------------------------------------------------------
-- Recorded entries
-----------------------------------------------------------------------------------------

/-- One more hop is recorded from where the earlier ones led, by induction on those. -/
theorem recordedEntries_append (first : Uri) (hops : List (Hop World)) (hop : Hop World)
    : recordedEntries first (hops ++ [hop])
      = recordedEntries first hops
        ++ if hop.deferred then [] else [hop.entry (target first hops)] := by
  induction hops generalizing first with
  | nil => simp [recordedEntries, target]
  | cons earlier hops ih => simp [recordedEntries, target, ih]

/-- A deferred hop leaves the history alone. -/
theorem recordedHistory_deferred {first : Uri} {hops : List (Hop World)} {hop : Hop World}
    (deferred : hop.deferred = true)
    : recordedHistory first (hops ++ [hop]) = recordedHistory first hops := by
  simp [recordedHistory, recordedEntries_append, deferred]

/-- Following at once extends the history by the entry of the hop. -/
theorem recordedHistory_recorded {first : Uri} {hops : List (Hop World)} {hop : Hop World}
    {attempt : LayerAttempt} (immediate : hop.deferred = false)
    (status : attempt.status = hop.reply.status) (headers : attempt.headers = hop.reply.headers)
    (location : attempt.location = hop.request.uri)
    (previous : attempt.previous = target first hops)
    : recordedHistory first (hops ++ [hop]) = record (recordedHistory first hops) attempt := by
  simp only [recordedHistory, recordedEntries_append, immediate, record, Hop.entry, status,
    headers, location, previous]
  cases recordedEntries first hops <;> rfl

/-- There is one entry for each hop that was not deferred. -/
theorem length_recordedEntries (first : Uri) (hops : List (Hop World))
    : (recordedEntries first hops).length = hops.countP (fun hop => !hop.deferred) := by
  induction hops generalizing first with
  | nil => rfl
  | cons hop hops ih =>
      cases deferred : hop.deferred <;>
        simp [recordedEntries, deferred, ih, Nat.add_comm]

/-- Without a deferral the entries record all hops, by induction on the hops; the first entry
starts where the chain does.
-/
theorem recordedEntries_records {hops : List (Hop World)} (first : Uri)
    (immediate : ∀ hop ∈ hops, hop.deferred = false)
    : Records hops (recordedEntries first hops)
      ∧ ∀ entry ∈ (recordedEntries first hops).head?, entry.previous = first := by
  induction hops generalizing first with
  | nil => exact ⟨⟨.nil, .nil⟩, by simp [recordedEntries]⟩
  | cons hop hops ih =>
      obtain ⟨records, start⟩ := ih hop.request.uri
        (fun later member => immediate later (List.mem_cons_of_mem hop member))
      have recorded : hop.deferred = false := immediate hop List.mem_cons_self
      simp only [recordedEntries, recorded, Bool.false_eq_true, if_false, List.singleton_append]
      refine ⟨⟨.cons ⟨rfl, rfl, rfl⟩ records.hops, ?_⟩, by simp [Hop.entry]⟩
      rw [List.isChain_cons]
      exact ⟨fun entry next => (start entry next).symm, records.joined⟩

/-- What the handler holds after some hops records them all exactly when none was deferred:
the entries fall short by the deferred ones.
-/
theorem recordedHistory_records {first : Uri} {hops : List (Hop World)} (followed : hops ≠ [])
    : (∃ entries, recordedHistory first hops = some entries ∧ Records hops entries)
      ↔ ∀ hop ∈ hops, hop.deferred = false := by
  constructor
  · rintro ⟨entries, held, records⟩
    have recorded : recordedEntries first hops = entries := by
      rw [recordedHistory] at held
      split at held
      · cases held
      · exact Option.some.inj held
    have all := length_recordedEntries first hops
    rw [recorded, ← records.hops.length_eq, eq_comm, List.countP_eq_length] at all
    simpa using all
  · intro immediate
    have records := (recordedEntries_records first immediate).1
    refine ⟨_, ?_, records⟩
    rw [recordedHistory]
    split
    · next empty =>
        have none := records.hops.length_eq
        simp [empty, followed] at none
    · rfl

namespace Exchange

/-- The target of the hops is that of the last request. -/
theorem target_eq {exchange : Exchange World} {last : Request (Extensions World) Body}
    (latest : exchange.requests.getLast? = some last)
    : target exchange.first.uri exchange.hops = last.uri := by
  have along (first : Request (Extensions World) Body) (hops : List (Hop World))
      : (first :: hops.map Hop.request).getLast?.map Request.uri
        = some (target first.uri hops) := by
    induction hops generalizing first with
    | nil => rfl
    | cons hop hops ih => simpa [target] using ih hop.request
  have uri := along exchange.first exchange.hops
  unfold requests at latest
  simp only [latest, Option.map_some, Option.some.injEq] at uri
  exact uri.symm

-----------------------------------------------------------------------------------------
-- The history along a run
-----------------------------------------------------------------------------------------

/-- While the future is not ready, its handler holds the entries of the hops that were not
deferred. A pending action came with a redirect response, which carries no history.
-/
structure Recorded (exchange : Exchange World) : Prop where
  direct : exchange.output = none → exchange.future = .direct → exchange.hops = []
  held
    : exchange.output = none
      → ∀ pendingFuture policy request bodyRepr,
        exchange.future = .redirect pendingFuture policy request bodyRepr
        → policy.history = recordedHistory exchange.first.uri exchange.hops
          ∧ ∀ state, pendingFuture = some state
            → state.res.history = none ∧ isRedirectStatus exchange.lastReply.status = true

/-- A call holds no history and has followed nothing. -/
theorem start_recorded (policy : Policy World) (referer httpsOnly : Bool) (parsers : Parsers)
    (req : Request (Extensions World) Body)
    : (start (layer policy referer httpsOnly) parsers req).Recorded where
  direct _ _ := rfl
  held := by
    intro _ pendingFuture decided request bodyRepr future
    obtain ⟨loaded, found, rfl, -, rfl, -⟩ := start_redirect future
    have unfollowed : loaded.history = none :=
      (FollowRedirectPolicy.forRequest_some found).2.2.1
    refine ⟨?_, fun _ pending => by cases pending⟩
    rw [(FollowRedirectPolicy.onRequest_spec _ _).2.2.1, unfollowed]
    rfl

/-- A poll that follows keeps the record when the new hop is accounted for. -/
private theorem recorded_sent {parsers : Parsers} {ctx : Context World}
    {exchange : Exchange World} {request : Request (Extensions World) Body}
    {decided : FollowRedirectPolicy World} {head : Head World} {kept : BodyRepr}
    (sent : (exchange.future.poll parsers ctx).sent = some request)
    (next : (exchange.future.poll parsers ctx).next = .redirect none decided head kept)
    (history
      : decided.history
        = recordedHistory exchange.first.uri
            (exchange.hops
              ++ [⟨exchange.observe ctx, request, exchange.future.pending?.isSome⟩]))
    : (exchange.poll parsers ctx).Recorded := by
  have hops : (exchange.poll parsers ctx).hops = _ := poll_hops_of_some sent
  constructor
  · intro _ direct
    cases next.symm.trans direct
  · intro _ _ _ _ _ future
    cases next.symm.trans future
    exact ⟨by rw [hops]; exact history, by simp⟩

/-- One poll keeps the record, by cases on what the poll does. -/
theorem poll_recorded (parsers : Parsers) (ctx : Context World) (exchange : Exchange World)
    (running : exchange.output = none) (linked : exchange.Linked) (recorded : exchange.Recorded)
    : (exchange.poll parsers ctx).Recorded := by
  cases future : exchange.future with
  | direct =>
      have sent : (exchange.future.poll parsers ctx).sent = none := by rw [future]; rfl
      constructor
      · intro _ _
        rw [poll_hops_of_none sent]
        exact recorded.direct running future
      · intro _ _ _ _ _ later
        simp only [poll, future] at later
        cases later
  | redirect pendingFuture policy request bodyRepr =>
      obtain ⟨history, awaiting⟩ := recorded.held running _ _ _ _ future
      obtain ⟨last, latest, agree, _⟩ := linked.head running _ _ _ _ future
      have pending : exchange.future.pending? = pendingFuture := by rw [future]; rfl
      have ready {answer : Except BoxError Response}
          (result : (exchange.future.poll parsers ctx).result = some answer)
          : (exchange.poll parsers ctx).Recorded :=
        ⟨fun output => by simp [poll, result] at output,
          fun output => by simp [poll, result] at output⟩
      rw [future] at ready
      cases poll_cases parsers ctx pendingFuture policy request bodyRepr with
      | waits _ sent next unanswered _ =>
          rw [← future] at sent next
          have reply : exchange.observe ctx = exchange.lastReply := by
            unfold observe
            rw [pending]
            cases pendingFuture with
            | none => simp [unanswered rfl]
            | some state => rfl
          constructor
          · intro _ direct
            cases next.symm.trans direct
          · intro _ _ _ _ _ later
            cases next.symm.trans later
            rw [poll_hops_of_none sent]
            exact ⟨history, fun state same => by simpa [poll, reply] using awaiting state same⟩
      | fails result _ _ => exact ready result
      | finishes _ _ _ result _ => exact ready result
      | returns _ _ _ result _ => exact ready result
      | stops _ _ result _ => exact ready result
      | @defers state _ reply _ _ _ fresh inner redirects _ decision kept _ sent next =>
          rw [← future] at sent next
          have observed : exchange.observe ctx = reply := by
            simp [observe, pending, fresh, inner]
          constructor
          · intro _ direct
            cases next.symm.trans direct
          · intro _ _ _ _ _ later
            cases next.symm.trans later
            rw [poll_hops_of_none sent]
            refine ⟨(FollowRedirectPolicy.redirect_pending decision).trans history, ?_⟩
            intro other same
            cases same
            exact ⟨by rw [kept]; rfl, by simpa [poll, observed] using redirects⟩
      | @follows _ reply rewritten _ _ _ _ fresh inner _ head decision effect =>
          obtain ⟨_, _, _, _, _, next, sent, uri, _, same⟩ := handleAction_follow effect
          rw [← future] at sent next
          obtain ⟨_, rfl⟩ := head
          refine recorded_sent sent next ?_
          rw [same, (FollowRedirectPolicy.redirect_follow decision).2, history]
          refine (recordedHistory_recorded ?_ ?_ ?_ ?_ ?_).symm
          · simp [pending, fresh]
          · simp [observe, pending, fresh, inner, Reply.attempt]
          · simp [observe, pending, fresh, inner, Reply.attempt]
          · exact uri.symm
          · rw [target_eq latest]
            exact (rewrite_uri _ _ _).trans agree.1
      | resumes awaited _ effect =>
          obtain ⟨_, _, _, _, _, next, sent, _, _, same⟩ := handleAction_follow effect
          rw [← future] at sent next
          refine recorded_sent sent next ?_
          rw [same, history]
          exact (recordedHistory_deferred (by simp [pending, awaited])).symm

/-- In every reachable state the record is kept. -/
theorem run_recorded {parsers : Parsers} {policy : Policy World} {referer httpsOnly : Bool}
    {req : Request (Extensions World) Body} {polls exchange}
    (run
      : Run (Step parsers) (start (layer policy referer httpsOnly) parsers req) polls exchange)
    : exchange.Recorded := by
  refine run.invariant ?_ (start_recorded policy referer httpsOnly parsers req)
  rintro past before ctx after reached kept ⟨running, rfl⟩
  exact poll_recorded parsers ctx before running (run_linked reached) kept

/-- A final response carries what the handler holds after a non-redirect status, and nothing
when the chain ends on a redirect or no hop was followed.
-/
theorem poll_history {parsers : Parsers} {ctx : Context World} {exchange : Exchange World}
    (running : exchange.output = none) (recorded : exchange.Recorded) {res : Response}
    (output : (exchange.poll parsers ctx).output = some (.ok res))
    : let next := exchange.poll parsers ctx
      (isRedirectStatus next.lastReply.status = false
        ∧ res.history = recordedHistory next.first.uri next.hops)
      ∨ res.history = none
        ∧ (next.hops = [] ∨ isRedirectStatus next.lastReply.status = true) := by
  have result : (exchange.future.poll parsers ctx).result = some (.ok res) := output
  cases future : exchange.future with
  | direct =>
      have sent : (exchange.future.poll parsers ctx).sent = none := by rw [future]; rfl
      refine Or.inr ⟨?_, Or.inl ((poll_hops_of_none sent).trans (recorded.direct running future))⟩
      rw [future] at result
      simp only [ResponseFuture.poll, Option.map_eq_some_iff] at result
      obtain ⟨answer, _, answered⟩ := result
      cases answer with
      | error err => cases answered
      | ok reply => cases answered; rfl
  | redirect pendingFuture policy request bodyRepr =>
      obtain ⟨history, awaiting⟩ := recorded.held running _ _ _ _ future
      have pending : exchange.future.pending? = pendingFuture := by rw [future]; rfl
      rw [future] at result
      cases poll_cases parsers ctx pendingFuture policy request bodyRepr with
      | waits other => cases other.symm.trans result
      | fails other => cases other.symm.trans result
      | @finishes _ reply fresh inner final other sent =>
          rw [← future] at sent
          have observed : exchange.observe ctx = reply := by
            simp [observe, pending, fresh, inner]
          refine Or.inl ⟨by simpa [poll, observed] using final, ?_⟩
          rw [poll_hops_of_none sent]
          refine Eq.trans ?_ history
          cases other.symm.trans result
          unfold FollowRedirectPolicy.onResponse
          split
          · next held => exact held.symm
          · next held => exact held.symm
      | @returns _ reply fresh inner redirects other sent =>
          have observed : exchange.observe ctx = reply := by
            simp [observe, pending, fresh, inner]
          refine Or.inr ⟨?_, Or.inr (by simpa [poll, observed] using redirects)⟩
          cases other.symm.trans result
          rfl
      | @stops _ state awaited _ other sent =>
          have observed : exchange.observe ctx = exchange.lastReply := by
            simp [observe, pending, awaited]
          obtain ⟨bare, redirects⟩ := awaiting state awaited
          refine Or.inr ⟨?_, Or.inr (by simpa [poll, observed] using redirects)⟩
          cases other.symm.trans result
          exact bare
      | defers _ _ _ _ _ _ _ other => cases other.symm.trans result
      | follows _ _ _ _ _ effect =>
          obtain ⟨_, _, _, _, other, _⟩ := handleAction_follow effect
          cases other.symm.trans result
      | resumes _ _ effect =>
          obtain ⟨_, _, _, _, other, _⟩ := handleAction_follow effect
          cases other.symm.trans result

end Exchange

/-- The history on an `Ok` response is complete exactly when no redirect was followed, or the
chain ended with a status that is no redirection and no hop of it was deferred.
-/
theorem historyComplete_iff (parsers : Parsers) (policy : Policy World)
    (referer httpsOnly : Bool) (req : Request (Extensions World) Body)
    {polls : List (Context World)} {exchange : Exchange World} {res : Response}
    (run
      : Run (Exchange.Step parsers) (Exchange.start (layer policy referer httpsOnly) parsers req)
          polls exchange)
    (output : exchange.output = some (.ok res))
    : exchange.HistoryComplete res
      ↔ exchange.hops = []
        ∨ isRedirectStatus exchange.lastReply.status = false
          ∧ ∀ hop ∈ exchange.hops, hop.deferred = false := by
  unfold Exchange.HistoryComplete
  cases run with
  | nil => cases output
  | snoc earlier last =>
      obtain ⟨running, rfl⟩ := last
      have ended := Exchange.poll_history running (Exchange.run_recorded earlier) output
      generalize Exchange.poll parsers _ _ = exchange at ended
      split
      · next first =>
          refine iff_of_true ?_ (Or.inl first)
          rcases ended with ⟨_, history⟩ | ⟨history, _⟩
          · rw [history, first]
            rfl
          · exact history
      · next followed =>
          rw [or_iff_right followed]
          rcases ended with ⟨final, history⟩ | ⟨history, redirects⟩
          · rw [and_iff_right final, history]
            exact recordedHistory_records followed
          · refine iff_of_false ?_ ?_
            · rintro ⟨entries, held, _⟩
              cases history.symm.trans held
            · rintro ⟨final, _⟩
              rcases redirects with none | redirect
              · exact followed none
              · cases final.symm.trans redirect

/-- The equivalence on a chain of two hops that are followed at once. -/
theorem historyComplete_iff_limited
    : let exchange : Exchange Unit :=
        (Exchange.start (layer ⟨.limit 10⟩ false false) knownSites
          (getRoot Unit .http "a.test" .empty)).after knownSites
          [answers () 301 (some "https://a.test/"), silent ()
          , answers () 302 (some "http://b.test/"), answers () 200 none]
      ∃ res, exchange.output = some (.ok res)
        ∧ (exchange.HistoryComplete res
          ↔ exchange.hops = []
            ∨ isRedirectStatus exchange.lastReply.status = false
              ∧ ∀ hop ∈ exchange.hops, hop.deferred = false) :=
  ⟨_, rfl, historyComplete_iff knownSites _ false false _ (Exchange.run_after (by decide)) rfl⟩

/-- A deferred hop is missing from the history: the final response of a chain of one such hop
carries none.
-/
theorem deferred_hop_unrecorded
    : ¬ ∀ (World : Type) (parsers : Parsers) (policy : Policy World) (referer httpsOnly : Bool)
        (req : Request (Extensions World) Body) (polls : List (Context World))
        (exchange : Exchange World) (res : Response),
        Run (Exchange.Step parsers)
            (Exchange.start (layer policy referer httpsOnly) parsers req) polls exchange
        → exchange.output = some (.ok res)
        → exchange.HistoryComplete res := by
  intro always
  have complete := always Nat knownSites deferring false false
    (getRoot Nat .http "a.test" .empty)
    [answers 0 302 (some "https://a.test/"), silent 1, answers 1 200 none] _ _
    (Exchange.run_after (by decide)) rfl
  unfold Exchange.HistoryComplete at complete
  obtain ⟨entries, held, _⟩ := complete
  cases held

end Tlsurl.Redirect
