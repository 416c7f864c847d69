import Tlsurl.Http.Message

/-! Retry policies (`retry.rs`) and the policy that the retry layer runs
(`layer/retry.rs`, `layer/retry/classify.rs`, `layer/retry/scope.rs`).
Closures may read state of their own, which `World` stands for; whether the token bucket of a
budget grants a withdrawal is told to the policy.
-/

namespace Tlsurl.Retry

/-- What `http2::Error` reports about itself. -/
structure Http2Error where
  isGoAway : Bool
  isReset : Bool
  isRemote : Bool
  reason : Option UInt32
  deriving DecidableEq

/-- `http2::Reason::NO_ERROR` -/
def noError : UInt32 := 0

/-- `http2::Reason::REFUSED_STREAM` -/
def refusedStream : UInt32 := 7

/-- `dyn std::error::Error`: its view as an HTTP/2 error, and its source. -/
inductive StdError where
  | mk (http2 : Option Http2Error) (source : Option StdError)

/-- `Error::source` -/
def StdError.source : StdError → Option StdError
  | .mk _ source => source

/-- `downcast_ref::<http2::Error>` -/
def StdError.asHttp2 : StdError → Option Http2Error
  | .mk http2 _ => http2

/-- `is_retryable_error`: the HTTP/2 error is looked for two sources down. -/
def isRetryableError (err : StdError) : Bool :=
  match err.source with
  | none => false
  | some err =>
      match err.source.bind StdError.asHttp2 with
      | none => false
      | some err =>
          if err.isGoAway && err.isRemote && err.reason == some noError then true
          else if err.isReset && err.isRemote && err.reason == some refusedStream then true
          else false

/-- `layer::retry::Req` -/
abbrev Req (Ext : Type) := Request Ext Body

/-- `ReqRep`: a request and the status or error it came to. -/
structure ReqRep (Ext : Type) where
  req : Req Ext
  rep : Except StdError StatusCode

namespace ReqRep

variable {Ext : Type}

def method (self : ReqRep Ext) : Method := self.req.method

def uri (self : ReqRep Ext) : Uri := self.req.uri

def status (self : ReqRep Ext) : Option StatusCode := self.rep.toOption

def error (self : ReqRep Ext) : Option StdError :=
  match self.rep with
  | .ok _ => none
  | .error err => some err

end ReqRep

/-- `layer::retry::Action` -/
inductive Action where
  | success
  | retryable
  deriving DecidableEq

/-- `Classifier` -/
inductive Classifier (World Ext : Type) where
  | never
  | protocolNacks
  | dyn (classify : World → ReqRep Ext → Action)

/-- `Scoped` -/
inductive Scoped (Ext : Type) where
  | unscoped
  | dyn (appliesTo : Req Ext → Bool)

variable {World Ext : Type}

/-- `Classifier::classify` -/
def Classifier.classify (self : Classifier World Ext) (world : World) (req : Req Ext)
    (res : Except StdError StatusCode)
    : Action :=
  let reqRep : ReqRep Ext := ⟨req, res⟩
  match self with
  | .never => .success
  | .protocolNacks => if reqRep.error.any isRetryableError then .retryable else .success
  | .dyn classify => classify world reqRep

/-- `Scoped::applies_to` -/
def Scoped.appliesTo : Scoped Ext → Req Ext → Bool
  | .unscoped, _ => true
  | .dyn scope, req => scope req

/-- `retry::Policy`; the budget is the extra load it allows. -/
structure Policy (World Ext : Type) where
  budget : Option Rat
  classifier : Classifier World Ext
  maxRetriesPerRequest : Nat
  scope : Scoped Ext

namespace Policy

/-- `Policy::scoped` -/
def scopedTo (func : Req Ext → Bool) : Policy World Ext where
  budget := some (1 / 5)
  classifier := .never
  maxRetriesPerRequest := 2
  scope := .dyn func

/-- `Policy::no_budget` -/
def noBudget (self : Policy World Ext) : Policy World Ext := { self with budget := none }

/-- `Policy::never` -/
def never : Policy World Ext := (scopedTo (fun _ => false)).noBudget

/-- `Policy::for_host`; `host` compares itself with the host of a request. -/
def forHost (host : Str → Bool) : Policy World Ext := scopedTo (fun req => req.uri.host.any host)

/-- `Policy::max_extra_load`, or nothing where the assertions fail. -/
def maxExtraLoad (self : Policy World Ext) (extraPercent : Rat) : Option (Policy World Ext) :=
  if 0 ≤ extraPercent ∧ extraPercent ≤ 1000 then some { self with budget := some extraPercent }
  else none

/-- `Policy::max_retries_per_request` -/
def withMaxRetriesPerRequest (self : Policy World Ext) (max : Nat) : Policy World Ext :=
  { self with maxRetriesPerRequest := max }

/-- `Policy::classify_fn` -/
def classifyFn (self : Policy World Ext) (func : World → ReqRep Ext → Action)
    : Policy World Ext :=
  { self with classifier := .dyn func }

/-- `Policy::default` -/
def default : Policy World Ext where
  budget := none
  classifier := .protocolNacks
  maxRetriesPerRequest := 2
  scope := .unscoped

end Policy

/-- `RetryPolicy` -/
structure RetryPolicy (World Ext : Type) where
  budget : Option Rat
  classifier : Classifier World Ext
  maxRetriesPerRequest : Nat
  retryCnt : Nat
  scope : Scoped Ext

/-- What an attempt comes to: its result, the world that a closure sees then, and whether a
token could be withdrawn from the budget.
-/
structure Outcome (World : Type) where
  result : Except StdError StatusCode
  world : World
  withdraw : Bool

namespace RetryPolicy

/-- `RetryPolicy::new` -/
def new (policy : Policy World Ext) : RetryPolicy World Ext where
  budget := policy.budget
  classifier := policy.classifier
  maxRetriesPerRequest := policy.maxRetriesPerRequest
  retryCnt := 0
  scope := policy.scope

/-- `Policy::retry` of the retry layer: whether it returns a future. -/
def retry (self : RetryPolicy World Ext) (req : Req Ext) (outcome : Outcome World)
    : Bool × RetryPolicy World Ext :=
  match self.classifier.classify outcome.world req outcome.result with
  | .success => (false, self)
  | .retryable =>
      if (self.budget.map (fun _ => outcome.withdraw)).getD true then
        (true, { self with retryCnt := self.retryCnt + 1 })
      else (false, self)

/-- `Policy::clone_request` of the retry layer -/
def cloneRequest (self : RetryPolicy World Ext) (req : Req Ext) : Option (Req Ext) :=
  if self.retryCnt > 0 && !self.scope.appliesTo req then none
  else if self.retryCnt ≥ self.maxRetriesPerRequest then none
  else req.body.tryClone.map (fun body => req.withBody body)

end RetryPolicy

end Tlsurl.Retry
