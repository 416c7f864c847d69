import Tlsurl.Retry.Driver

/-! When a request outside the scope of its policy is sent again.
The scope is consulted only once a retry is under way, so it stops the second resend and every
later one, but not the first.
-/

namespace Tlsurl.Retry

open Library

variable {World Ext : Type}

/-- The classifier calls the outcome of an attempt retryable, and the budget, if there is one,
lets it be retried.
-/
def Policy.Grants (policy : Policy World Ext) (req : Req Ext) (outcome : Outcome World) : Prop :=
  policy.classifier.classify outcome.world req outcome.result = .retryable
  ∧ (policy.budget.isSome = true → outcome.withdraw = true)

/-- A first outcome that makes the layer resend whatever the scope: there is a clone to send,
and the retry is granted.
-/
def Policy.ResendsAfter (policy : Policy World Ext) (req : Req Ext) (first : Outcome World)
    : Prop :=
  0 < policy.maxRetriesPerRequest ∧ req.body.tryClone.isSome = true ∧ policy.Grants req first

/-- A clone of a body is the body. -/
theorem tryClone_eq {body cloned : Body} (some : body.tryClone = some cloned)
    : cloned = body := by
  cases body with
  | reusable chunk => cases some; rfl
  | boxed data exact => cases some

namespace RetryPolicy

variable {policy : Policy World Ext} {req : Req Ext}

/-- The first clone needs a retry left and a body that can be cloned, and is the request. -/
theorem cloneRequest_new
    : (new policy).cloneRequest req
      = if 0 < policy.maxRetriesPerRequest ∧ req.body.tryClone.isSome = true then some req
        else none := by
  by_cases retries : 0 < policy.maxRetriesPerRequest
  · have below : ¬ 0 ≥ policy.maxRetriesPerRequest := by omega
    cases cloned : req.body.tryClone with
    | none => simp [cloneRequest, new, cloned, below]
    | some body =>
        cases tryClone_eq cloned
        simp [cloneRequest, new, cloned, below, retries, Request.withBody]
  · have exhausted : 0 ≥ policy.maxRetriesPerRequest := by omega
    rw [if_neg (fun both => retries both.1)]
    simp [cloneRequest, new, exhausted]

/-- Outside the scope nothing is cloned once a retry was counted. -/
theorem cloneRequest_counted {self : RetryPolicy World Ext} (counted : 0 < self.retryCnt)
    (outside : self.scope.appliesTo req = false)
    : self.cloneRequest req = none := by
  simp [cloneRequest, counted, outside]

/-- A retry is granted by the classifier and the budget, and is counted. -/
theorem retry_new (policy : Policy World Ext) (req : Req Ext) (outcome : Outcome World)
    : (policy.Grants req outcome
        ∧ (new policy).retry req outcome = (true, { new policy with retryCnt := 1 }))
      ∨ (¬ policy.Grants req outcome ∧ (new policy).retry req outcome = (false, new policy)) := by
  cases action : policy.classifier.classify outcome.world req outcome.result with
  | success => exact Or.inr ⟨by simp [Policy.Grants, action], by simp [retry, new, action]⟩
  | retryable =>
      cases budget : policy.budget with
      | none =>
          refine Or.inl ⟨by simp [Policy.Grants, action, budget], ?_⟩
          simp [retry, new, action, budget]
      | some rate =>
          cases withdraw : outcome.withdraw <;>
            simp [Policy.Grants, retry, new, action, budget, withdraw]

end RetryPolicy

namespace Retrying

/-- Before the first outcome, one copy is sent and a clone may be held. After it, a second copy
is sent exactly if the first outcome made the layer resend, and none will follow.
-/
def Scoped (policy : Policy World Ext) (req : Req Ext) (outcomes : List (Outcome World))
    (self : Retrying World Ext)
    : Prop :=
  match outcomes with
  | [] => self = start (.new policy) req
  | first :: _ =>
      (self.sent = [req] ↔ ¬ policy.ResendsAfter req first)
      ∧ (self.result = none → self.request = none)

/-- The first outcome decides whether the request is sent again. -/
theorem start_scoped {policy : Policy World Ext} {req : Req Ext}
    (outside : policy.scope.appliesTo req = false) (outcome : Outcome World)
    : ((start (.new policy) req).complete outcome).Scoped policy req [outcome] := by
  simp only [Scoped, Policy.ResendsAfter, complete, start, RetryPolicy.cloneRequest_new]
  by_cases cloned : 0 < policy.maxRetriesPerRequest ∧ req.body.tryClone.isSome = true
  · obtain ⟨granted, again⟩ | ⟨refused, done⟩ :=
      RetryPolicy.retry_new policy req outcome
    · have counted
          : RetryPolicy.cloneRequest { RetryPolicy.new policy with retryCnt := 1 } req = none :=
        RetryPolicy.cloneRequest_counted Nat.one_pos outside
      simp [cloned, granted, again, counted]
    · simp [cloned, refused, done]
  · simp only [if_neg cloned]
    simpa [← and_assoc] using fun left right => absurd ⟨left, right⟩ cloned

/-- Later outcomes send nothing: no clone is held while an attempt is under way. -/
theorem complete_scoped {policy : Policy World Ext} {req : Req Ext} {first outcome : Outcome World}
    {rest : List (Outcome World)} {self : Retrying World Ext} (running : self.result = none)
    (kept : self.Scoped policy req (first :: rest))
    : (self.complete outcome).Scoped policy req (first :: rest ++ [outcome]) := by
  obtain ⟨sent, held⟩ := kept
  simp only [complete, held running]
  exact ⟨sent, by simp⟩

end Retrying

/-- A request outside the scope is sent exactly once if and only if the first outcome does not
make the layer resend.
-/
theorem sent_once_iff (policy : Policy World Ext) (req : Req Ext)
    (outside : policy.scope.appliesTo req = false)
    {outcomes : List (Outcome World)} {final : Retrying World Ext}
    (run : Run Retrying.Step (Retrying.start (.new policy) req) outcomes final)
    : final.sent = [req] ↔ ∀ first ∈ outcomes.head?, ¬ policy.ResendsAfter req first := by
  have kept : final.Scoped policy req outcomes := by
    apply run.history
    · intro past before outcome after earlier step
      obtain ⟨running, rfl⟩ := step
      cases past with
      | nil =>
          cases earlier
          exact Retrying.start_scoped outside outcome
      | cons first rest => exact Retrying.complete_scoped running earlier
    · rfl
  cases outcomes with
  | nil =>
      cases kept
      simp [Retrying.start]
  | cons first rest => simpa using kept.1

/-- A `GET` of the root page of `host`. -/
def getHost (host : String) : Req Unit where
  method := .get
  uri := { scheme := some .http, authority := some { host := ascii host }, path := ascii "/" }
  version := .http11
  headers := .empty
  extensions := ()
  body := .empty

/-- A policy for one host that retries an unavailable service. -/
def forOneHost : Policy Unit Unit :=
  (Policy.forHost (fun host => host = ascii "a.test")).classifyFn
    (fun _ rep => if rep.status = some 503 then .retryable else .success)

/-- The equivalence on a request outside the scope whose budget is exhausted. -/
theorem sent_once_iff_exhausted
    : let outcome : Outcome Unit := { result := .ok 503, world := (), withdraw := false }
      let final := (Retrying.start (.new forOneHost) (getHost "b.test")).complete outcome
      final.sent = [getHost "b.test"]
        ↔ ∀ first ∈ [outcome].head?, ¬ forOneHost.ResendsAfter (getHost "b.test") first :=
  sent_once_iff forOneHost (getHost "b.test") (by decide) (.cons ⟨rfl, rfl⟩ .nil)

/-- The first resend does not consult the scope: a request to another host that is answered
with 503 is sent twice.
-/
theorem out_of_scope_resent
    : ¬ ∀ (World Ext : Type) (policy : Policy World Ext) (req : Req Ext)
        (outcomes : List (Outcome World)) (final : Retrying World Ext),
        policy.scope.appliesTo req = false
        → Run Retrying.Step (Retrying.start (.new policy) req) outcomes final
        → final.sent = [req] := by
  intro always
  have once := always Unit Unit forOneHost (getHost "b.test")
    [{ result := .ok 503, world := (), withdraw := true }] _ (by decide)
    (.cons ⟨rfl, rfl⟩ .nil)
  have twice : [getHost "b.test", getHost "b.test"] = [getHost "b.test"] := once
  simp at twice

end Tlsurl.Retry
