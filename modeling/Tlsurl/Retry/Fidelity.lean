import Tlsurl.Retry.Scope

/-! How often a request is attempted, and what every attempt is given.
The inner service owns the request of an attempt and changes it as it likes; a resend is made
from the clone that the retry service holds beside it, so the changes never reach it.
-/

namespace Tlsurl.Retry

open Library

variable {World Ext : Type}

/-- The retry service and the request that the attempt under way has made its own. -/
structure Attempting (World Ext : Type) where
  retrying : Retrying World Ext
  owned : Req Ext

/-- A lower layer changes the request of the attempt, or the attempt has an outcome. -/
inductive Attempting.Event (World Ext : Type) where
  | mutate (change : Req Ext → Req Ext)
  | complete (outcome : Outcome World)

namespace Attempting

/-- A call of the retry service: the first attempt owns the request of the call. -/
def start (policy : RetryPolicy World Ext) (req : Req Ext) : Attempting World Ext where
  retrying := .start policy req
  owned := req

/-- What an event leads to. A resend hands its own request to the inner service. -/
def after (self : Attempting World Ext) : Event World Ext → Attempting World Ext
  | .mutate change => { self with owned := change self.owned }
  | .complete outcome =>
      let retrying := self.retrying.complete outcome
      { retrying
        owned :=
          if retrying.result.isNone then retrying.sent.getLast?.getD self.owned else self.owned }

/-- Events happen while there is no result. -/
def Step (self : Attempting World Ext) (event : Event World Ext) (next : Attempting World Ext)
    : Prop :=
  self.retrying.result = none ∧ next = self.after event

end Attempting

/-- A clone is made only while a retry is left, only of a body that can be cloned, and is the
request it was made of.
-/
theorem RetryPolicy.cloneRequest_some {self : RetryPolicy World Ext} {req cloned : Req Ext}
    (some : self.cloneRequest req = some cloned)
    : cloned = req ∧ self.retryCnt < self.maxRetriesPerRequest
      ∧ req.body.tryClone.isSome = true := by
  simp only [cloneRequest] at some
  split at some
  · cases some
  · split at some
    · cases some
    · next left =>
        obtain ⟨body, copied, rfl⟩ := Option.map_eq_some_iff.mp some
        cases tryClone_eq copied
        exact ⟨rfl, by omega, by simp [copied]⟩

/-- A decision to retry counts one retry and changes nothing else of the policy. -/
theorem RetryPolicy.retry_cases (self : RetryPolicy World Ext) (req : Req Ext)
    (outcome : Outcome World)
    : self.retry req outcome = (true, { self with retryCnt := self.retryCnt + 1 })
      ∨ self.retry req outcome = (false, self) := by
  unfold retry
  split
  · exact Or.inr rfl
  · split
    · exact Or.inl rfl
    · exact Or.inr rfl

namespace Retrying

/-- Every request sent is the first one, each resend was counted, the count never passes the
limit, and a clone held is the first request with a retry left for it.
-/
structure Faithful (policy : Policy World Ext) (req : Req Ext) (retrying : Retrying World Ext)
    : Prop where
  limit : retrying.policy.maxRetriesPerRequest = policy.maxRetriesPerRequest
  counted : retrying.sent.length = retrying.policy.retryCnt + 1
  bounded : retrying.policy.retryCnt ≤ policy.maxRetriesPerRequest
  same : ∀ sent ∈ retrying.sent, sent = req
  held
    : ∀ cloned, retrying.request = some cloned
      → cloned = req ∧ retrying.policy.retryCnt < policy.maxRetriesPerRequest
        ∧ req.body.tryClone.isSome = true
  uncloned : req.body.tryClone = none → retrying.sent = [req]

/-- A call has sent the request once and may hold a clone of it. -/
theorem start_faithful (policy : Policy World Ext) (req : Req Ext)
    : (start (.new policy) req).Faithful policy req where
  limit := rfl
  counted := rfl
  bounded := Nat.zero_le _
  same := by simp [start]
  held cloned some := RetryPolicy.cloneRequest_some some
  uncloned _ := rfl

/-- An outcome ends the attempts or resends the clone, by cases on the clone and the decision.
-/
theorem Faithful.complete {policy : Policy World Ext} {req : Req Ext}
    {self : Retrying World Ext} (faithful : self.Faithful policy req) (outcome : Outcome World)
    : (self.complete outcome).Faithful policy req := by
  unfold Retrying.complete
  cases request : self.request with
  | none => exact { faithful with held := by simp }
  | some cloned =>
      obtain ⟨rfl, left, cloneable⟩ := faithful.held cloned request
      rcases self.policy.retry_cases cloned outcome with again | done
      · simp only [again]
        have limit := faithful.limit
        constructor
        · exact faithful.limit
        · simp [faithful.counted]
        · exact left
        · intro sent member
          rcases List.mem_append.mp member with before | last
          · exact faithful.same sent before
          · exact List.mem_singleton.mp last
        · intro next some
          obtain ⟨same, remaining, copied⟩ := RetryPolicy.cloneRequest_some some
          exact ⟨same, limit ▸ remaining, copied⟩
        · intro none
          simp [none] at cloneable
      · simp only [done]
        exact { faithful with held := by simpa [request] using ⟨left, cloneable⟩ }

end Retrying

/-- What lower layers do to the request of an attempt reaches neither the clone nor the log. -/
theorem Attempting.Step.faithful {policy : Policy World Ext} {req : Req Ext}
    {self next : Attempting World Ext} {event : Event World Ext} (step : self.Step event next)
    (faithful : self.retrying.Faithful policy req)
    : next.retrying.Faithful policy req := by
  obtain ⟨-, rfl⟩ := step
  cases event with
  | mutate change => exact faithful
  | complete outcome => exact faithful.complete outcome

/-- One request is attempted at most once more than the policy allows retries, every attempt
gets the request as it was given, and a request whose body cannot be cloned is sent once.
-/
theorem retries_bounded_and_faithful (policy : Policy World Ext) (req : Req Ext)
    {events : List (Attempting.Event World Ext)} {final : Attempting World Ext}
    (run : Run Attempting.Step (Attempting.start (.new policy) req) events final)
    : final.retrying.sent.length ≤ 1 + policy.maxRetriesPerRequest
      ∧ (∀ sent ∈ final.retrying.sent, sent = req)
      ∧ (req.body.tryClone = none → final.retrying.sent = [req]) := by
  have faithful : final.retrying.Faithful policy req := by
    apply run.invariant
    · intro _ _ _ _ _ kept step
      exact step.faithful kept
    · exact Retrying.start_faithful policy req
  have counted := faithful.counted
  have bounded := faithful.bounded
  exact ⟨by omega, faithful.same, faithful.uncloned⟩

/-- The bound on a request that is answered with 503 after a lower layer has changed it. -/
theorem retries_bounded_and_faithful_changed
    : let final : Attempting Unit Unit :=
        ((Attempting.start (.new forOneHost) (getHost "a.test")).after
          (.mutate (fun req => { req with headers := .empty }))).after
            (.complete { result := .ok 503, world := (), withdraw := true })
      final.retrying.sent.length ≤ 1 + forOneHost.maxRetriesPerRequest
        ∧ (∀ sent ∈ final.retrying.sent, sent = getHost "a.test")
        ∧ ((getHost "a.test").body.tryClone = none
          → final.retrying.sent = [getHost "a.test"]) :=
  retries_bounded_and_faithful forOneHost (getHost "a.test")
    (.snoc (.snoc .nil ⟨rfl, rfl⟩) ⟨rfl, rfl⟩)

end Tlsurl.Retry
