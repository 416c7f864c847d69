import Tlsurl.Library.Run
import Tlsurl.Retry.Policy

/-! One request in `tower`'s retry service.
The service clones the request before the first call, asks the policy after each outcome while
it holds a clone, and clones again before it sends that clone.
-/

namespace Tlsurl.Retry

variable {World Ext : Type}

/-- The policy of this request, the clone held for a resend, the requests handed to the inner
service, oldest first, and the result once there is one.
-/
structure Retrying (World Ext : Type) where
  policy : RetryPolicy World Ext
  request : Option (Req Ext)
  sent : List (Req Ext)
  result : Option (Except StdError StatusCode) := none

namespace Retrying

/-- `Retry::call` -/
def start (policy : RetryPolicy World Ext) (req : Req Ext) : Retrying World Ext where
  policy := policy
  request := policy.cloneRequest req
  sent := [req]

/-- What the service does with the outcome of an attempt. -/
def complete (self : Retrying World Ext) (outcome : Outcome World) : Retrying World Ext :=
  match self.request with
  | none => { self with result := some outcome.result }
  | some req =>
      match self.policy.retry req outcome with
      | (false, policy) => { self with policy, result := some outcome.result }
      | (true, policy) =>
          { self with policy, request := policy.cloneRequest req, sent := self.sent ++ [req] }

/-- An attempt is under way until there is a result. -/
def Step (self : Retrying World Ext) (outcome : Outcome World) (next : Retrying World Ext)
    : Prop :=
  self.result = none ∧ next = self.complete outcome

end Retrying

end Tlsurl.Retry
