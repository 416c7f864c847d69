import Tlsurl.Redirect.PollCases

/-! Which schemes a redirect chain can reach.
The checks run when the policy answers at once; a pending action that resolves to follow is
followed without them, so the chain is safe exactly when no such answer needs them.
-/

namespace Tlsurl.Redirect

open Library

variable {World : Type}

/-- A pending action resolves to follow in this poll only for an allowed location. -/
def SafeResume (httpsOnly : Bool) (exchange : Exchange World) (ctx : Context World) : Prop :=
  ∀ state, exchange.future.pending? = some state → state.future ctx.world = some .follow
    → SchemeAllowed httpsOnly state.location

/-- Every request after the first goes to an allowed location. -/
def Exchange.SchemesAllowed (httpsOnly : Bool) (exchange : Exchange World) : Prop :=
  ∀ hop ∈ exchange.hops, SchemeAllowed httpsOnly hop.request.uri

/-- While the future is not ready, its handler enforces the configured `https_only`. -/
def Exchange.Enforces (httpsOnly : Bool) (exchange : Exchange World) : Prop :=
  exchange.output = none
  → ∀ pendingFuture policy request bodyRepr,
      exchange.future = .redirect pendingFuture policy request bodyRepr
      → policy.httpsOnly = httpsOnly

/-- The calling layer hands its `https_only` to the future it returns. -/
theorem Exchange.start_enforces (self : FollowRedirectPolicy World) (parsers : Parsers)
    (req : Request (Extensions World) Body)
    : (Exchange.start self parsers req).Enforces self.httpsOnly := by
  intro _ pendingFuture policy request bodyRepr future
  obtain ⟨loaded, found, -, -, rfl, -⟩ := Exchange.start_redirect future
  rw [(FollowRedirectPolicy.onRequest_spec _ _).2.1]
  exact (FollowRedirectPolicy.forRequest_some found).1

/-- One poll keeps the handler's setting. -/
theorem Exchange.poll_enforces {httpsOnly : Bool} (parsers : Parsers) (ctx : Context World)
    (exchange : Exchange World) (running : exchange.output = none)
    (enforces : exchange.Enforces httpsOnly)
    : (exchange.poll parsers ctx).Enforces httpsOnly := by
  intro ready pendingFuture' policy' request' bodyRepr' later
  simp only [Exchange.poll] at ready later
  cases future : exchange.future with
  | direct => simp [future, ResponseFuture.poll] at later
  | redirect pendingFuture policy request bodyRepr =>
      have setting : policy.httpsOnly = httpsOnly := enforces running _ _ _ _ future
      rw [future] at ready later
      cases poll_cases parsers ctx pendingFuture policy request bodyRepr with
      | waits _ _ next => simp_all
      | fails result => simp [result] at ready
      | finishes _ _ _ result => simp [result] at ready
      | returns _ _ _ result => simp [result] at ready
      | stops _ _ result => simp [result] at ready
      | defers _ _ _ _ _ decision _ _ _ next =>
          have kept := (FollowRedirectPolicy.redirect_ok decision).2
          simp_all
      | follows _ _ _ _ decision effect =>
          have kept := (FollowRedirectPolicy.redirect_ok decision).2
          obtain ⟨_, _, _, _, _, next, _, _, same, _⟩ := handleAction_follow effect
          simp_all
      | resumes _ _ effect =>
          obtain ⟨_, _, _, _, _, next, _, _, same, _⟩ := handleAction_follow effect
          simp_all

/-- One poll adds no hop and resumes none, or it adds one hop that is allowed exactly when a
pending action was not resumed for a location outside the checks.
-/
theorem Exchange.poll_hops {httpsOnly : Bool} (parsers : Parsers) (ctx : Context World)
    (exchange : Exchange World) (running : exchange.output = none)
    (enforces : exchange.Enforces httpsOnly)
    : ((exchange.poll parsers ctx).hops = exchange.hops ∧ SafeResume httpsOnly exchange ctx)
      ∨ ∃ hop, (exchange.poll parsers ctx).hops = exchange.hops ++ [hop]
        ∧ (SafeResume httpsOnly exchange ctx ↔ SchemeAllowed httpsOnly hop.request.uri) := by
  cases future : exchange.future with
  | direct =>
      refine Or.inl ⟨Exchange.poll_hops_of_none (by rw [future]; rfl), ?_⟩
      intro state awaited
      simp [future, ResponseFuture.pending?] at awaited
  | redirect pendingFuture policy request bodyRepr =>
      have setting : policy.httpsOnly = httpsOnly := enforces running _ _ _ _ future
      have pending : exchange.future.pending? = pendingFuture := by rw [future]; rfl
      have quiet (sent : (exchange.future.poll parsers ctx).sent = none)
          (unfollowed
            : ∀ state, pendingFuture = some state → state.future ctx.world ≠ some .follow)
          : ((exchange.poll parsers ctx).hops = exchange.hops
            ∧ SafeResume httpsOnly exchange ctx) := by
        refine ⟨Exchange.poll_hops_of_none sent, ?_⟩
        intro state awaited resolved
        exact absurd resolved (unfollowed state (pending ▸ awaited))
      rw [future] at quiet
      cases poll_cases parsers ctx pendingFuture policy request bodyRepr with
      | waits _ sent _ _ unresolved =>
          exact Or.inl (quiet sent (fun state awaited => by simp [unresolved state awaited]))
      | fails _ sent unfollowed => exact Or.inl (quiet sent unfollowed)
      | finishes fresh _ _ _ sent => exact Or.inl (quiet sent (by simp [fresh]))
      | returns fresh _ _ _ sent => exact Or.inl (quiet sent (by simp [fresh]))
      | stops awaited resolved _ sent =>
          refine Or.inl (quiet sent ?_)
          intro state same
          cases awaited.symm.trans same
          simp [resolved]
      | defers state fresh _ _ _ _ _ _ sent => exact Or.inl (quiet sent (by simp [fresh]))
      | follows fresh _ _ _ decision effect =>
          obtain ⟨_, _, _, _, _, _, sent, uri, _, _⟩ := handleAction_follow effect
          have allowed := (FollowRedirectPolicy.redirect_follow decision).1
          refine Or.inr ⟨_, Exchange.poll_hops_of_some (by rw [future]; exact sent), ?_⟩
          refine iff_of_true ?_ ?_
          · intro state awaited
            simp [pending, fresh] at awaited
          · rw [← setting]
            simpa [Request.withBody, uri, Reply.attempt] using allowed
      | @resumes _ _ state awaited resolved effect =>
          obtain ⟨_, _, _, _, _, _, sent, uri, _, _⟩ := handleAction_follow effect
          refine Or.inr ⟨_, Exchange.poll_hops_of_some (by rw [future]; exact sent), ?_⟩
          simp only [Request.withBody, uri]
          constructor
          · intro safe
            exact safe state (pending.trans awaited) resolved
          · intro allowed other same _
            cases (pending.trans awaited).symm.trans same
            exact allowed

/-- In every reachable state the handler enforces the configured `https_only`. -/
theorem Exchange.run_enforces {parsers : Parsers} {self : FollowRedirectPolicy World}
    {req : Request (Extensions World) Body} {polls exchange}
    (run : Run (Exchange.Step parsers) (Exchange.start self parsers req) polls exchange)
    : exchange.Enforces self.httpsOnly := by
  refine run.invariant ?_ (Exchange.start_enforces self parsers req)
  rintro past before ctx after _ kept ⟨running, rfl⟩
  exact Exchange.poll_enforces parsers ctx before running kept

/-- A chain stays on the allowed schemes exactly when, in every poll, a pending action
resolves to follow only for an allowed location: an unsafe resumption leaves its hop in the
log, and every other hop has passed the checks.
-/
theorem schemesAllowed_iff_resumes_safely (parsers : Parsers) (policy : Policy World)
    (referer httpsOnly : Bool) (req : Request (Extensions World) Body)
    {polls : List (Context World)} {exchange : Exchange World}
    (run
      : Run (Exchange.Step parsers) (Exchange.start (layer policy referer httpsOnly) parsers req)
          polls exchange)
    : exchange.SchemesAllowed httpsOnly
      ↔ Run (Guarded (SafeResume httpsOnly) (Exchange.Step parsers))
          (Exchange.start (layer policy referer httpsOnly) parsers req) polls exchange := by
  refine run.guarded_iff ?_ ?_ ?_
  · rintro before ctx one two ⟨_, rfl⟩ ⟨_, rfl⟩
    rfl
  · simp [Exchange.SchemesAllowed, Exchange.start]
  · rintro past before ctx after earlier ⟨running, rfl⟩
    have enforces : before.Enforces httpsOnly := Exchange.run_enforces earlier
    unfold Exchange.SchemesAllowed
    rcases Exchange.poll_hops parsers ctx before running enforces with
      ⟨same, safe⟩ | ⟨hop, more, safe⟩
    · rw [same]
      exact (and_iff_left safe).symm
    · rw [more, safe]
      simp only [List.mem_append, List.mem_singleton, or_imp, forall_and, forall_eq]

/-- The equivalence on a chain of one hop that is followed at once. -/
theorem schemesAllowed_iff_resumes_safely_limited
    : let start : Exchange Unit :=
        .start (layer ⟨.limit 10⟩ true false) knownSites (getRoot Unit .https "a.test" .empty)
      let polls := [answers () 302 (some "http://a.test/"), answers () 200 none]
      (start.after knownSites polls).SchemesAllowed false
        ↔ Run (Guarded (SafeResume false) (Exchange.Step knownSites)) start polls
            (start.after knownSites polls) :=
  schemesAllowed_iff_resumes_safely knownSites _ true false _ (Exchange.run_after (by decide))

/-- A deferred decision to follow is not checked: under `https_only` the layer follows an
`ftp` location.
-/
theorem deferred_follow_reaches_ftp
    : ¬ ∀ (World : Type) (parsers : Parsers) (policy : Policy World) (referer httpsOnly : Bool)
        (req : Request (Extensions World) Body) (polls : List (Context World))
        (exchange : Exchange World),
        Run (Exchange.Step parsers)
            (Exchange.start (layer policy referer httpsOnly) parsers req) polls exchange
        → exchange.SchemesAllowed httpsOnly := by
  intro always
  have allowed := always Nat knownSites deferring true true (getRoot Nat .https "a.test" .empty)
    [answers 0 302 (some "ftp://b.test/"), silent 1] _ (Exchange.run_after (by decide))
  revert allowed
  unfold Exchange.SchemesAllowed
  decide

end Tlsurl.Redirect
