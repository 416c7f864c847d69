import Tlsurl.Redirect.OriginBound

/-! The payload of a redirect chain: method, body bytes, and whether the body has been dropped.
The replayable body that the future keeps stands for the payload through taking, rewriting and
cloning.
-/

namespace Tlsurl

/-- The bytes that a body sends -/
def Body.bytes : Body → Str
  | .reusable chunk => chunk
  | .boxed data _ => data

/-- A declared exact size is the size, as `Body::size_hint` of `http_body` promises. -/
def Body.Sized : Body → Prop
  | .reusable _ => True
  | .boxed data exact => ∀ size, exact = some size → size = data.length

/-- Whether a body can be sent again: it is known to be empty, or can be cloned. -/
def Body.replays (body : Body) : Bool := body.exactSize = some 0 || body.tryClone.isSome

namespace Redirect

variable {World : Type}

/-- What a request of the chain carries -/
structure Payload where
  method : Method
  bytes : Str
  dropped : Bool := false
  deriving DecidableEq

/-- The rules of a redirect status -/
def Payload.after (payload : Payload) (status : StatusCode) : Payload :=
  if status = 301 ∨ status = 302 then
    if payload.method = .post then { method := .get, bytes := [], dropped := true } else payload
  else if status = 303 then
    { method := if payload.method = .head then .head else .get, bytes := [], dropped := true }
  else payload

/-- The payload of a request, after the redirects with these statuses -/
def payloadAfter {Ext : Type} (request : Request Ext Body) (statuses : List StatusCode) : Payload :=
  statuses.foldl Payload.after { method := request.method, bytes := request.body.bytes }

/-- The headers that describe a body -/
def payloadHeaders : List HeaderName :=
  ["content-type", "content-length", "content-encoding", "transfer-encoding"]

/-- A request head has the method, and describes no body that was dropped. -/
structure Payload.Heads {Ext B : Type} (payload : Payload) (request : Request Ext B) : Prop where
  method : request.method = payload.method
  described
    : payload.dropped = true → ∀ name ∈ payloadHeaders, request.headers.getAll name = []

/-- A request carries the payload: method and bytes, and neither a body nor a header for one once
the body was dropped.
-/
structure Payload.Sends {Ext : Type} (payload : Payload) (request : Request Ext Body) : Prop where
  head : payload.Heads request
  bytes : request.body.bytes = payload.bytes
  dropped : payload.dropped = true → request.body = .empty

/-- The kept body stands for the payload; `replays` tells whether the first body can be sent
again.
-/
def BodyRepr.Holds (payload : Payload) (replays : Bool) : BodyRepr → Prop
  | .some body =>
      payload.dropped = false ∧ replays = true ∧ body = .reusable payload.bytes
  | .empty => payload.dropped = true ∧ payload.bytes = []
  | .none => payload.dropped = false ∧ replays = false

/-- A body was taken to be sent: a chunk with the bytes of the payload. Only a body that was
dropped is still kept.
-/
structure Taken (payload : Payload) (replays : Bool) (body : Body) (kept : BodyRepr) : Prop where
  body : body = .reusable payload.bytes
  kept : kept = if payload.dropped then .empty else .none
  resends : payload.dropped = false → replays = true
  empty : payload.dropped = true → payload.bytes = []

-----------------------------------------------------------------------------------------
-- The kept body
-----------------------------------------------------------------------------------------

section Kept

variable {payload : Payload} {replays : Bool} {bodyRepr : BodyRepr} {body : Body}

theorem taken_of_take {kept : BodyRepr} (holds : bodyRepr.Holds payload replays)
    (took : bodyRepr.take = (some body, kept))
    : Taken payload replays body kept := by
  cases bodyRepr with
  | some stored =>
      obtain ⟨undropped, replays, rfl⟩ := holds
      cases took
      exact ⟨rfl, by rw [undropped]; rfl, fun _ => replays, fun dropped => by simp_all⟩
  | empty =>
      obtain ⟨dropped, empty⟩ := holds
      cases took
      exact ⟨by rw [empty]; rfl, by rw [dropped]; rfl, fun undropped => by simp_all, fun _ => empty⟩
  | none => cases took

/-- Nothing is kept of a body that neither was dropped nor can be sent again. -/
theorem take_none (holds : bodyRepr.Holds payload replays) (undropped : payload.dropped = false)
    (once : replays = false)
    : bodyRepr.take = (none, .none) := by
  cases bodyRepr with
  | some stored => simp [holds.2.1] at once
  | empty => simp [holds.1] at undropped
  | none => rfl

/-- A clone of the body that was taken is kept for the next redirect. -/
theorem Taken.holds {kept : BodyRepr} (taken : Taken payload replays body kept)
    : (kept.tryCloneFrom body).Holds payload replays := by
  obtain ⟨rfl, rfl, resends, empty⟩ := taken
  by_cases dropped : payload.dropped = true
  · rw [if_pos dropped]
    exact ⟨dropped, empty dropped⟩
  · have undropped : payload.dropped = false := by simpa using dropped
    rw [if_neg dropped]
    by_cases none : payload.bytes = []
    · simp only [BodyRepr.tryCloneFrom, Body.exactSize, none, List.length_nil, if_true]
      exact ⟨undropped, resends undropped, by rw [none]; rfl⟩
    · have size : payload.bytes.length ≠ 0 := fun none' => none (List.length_eq_zero_iff.mp none')
      simp only [BodyRepr.tryCloneFrom, Body.exactSize, Option.some.injEq, size, if_false,
        Body.tryClone]
      exact ⟨undropped, resends undropped, rfl⟩

/-- At the call a body is kept exactly if it can be sent again. -/
theorem holds_new {Ext : Type} {request : Request Ext Body} (sized : request.body.Sized)
    : (BodyRepr.none.tryCloneFrom request.body).Holds (payloadAfter request [])
        request.body.replays := by
  cases same : request.body with
  | reusable chunk =>
      have taken
          : Taken (payloadAfter request []) (Body.reusable chunk).replays (.reusable chunk)
              .none := by
        refine ⟨by simp [payloadAfter, same, Body.bytes], rfl, fun _ => ?_, fun dropped => ?_⟩
        · simp [Body.replays, Body.tryClone]
        · simp [payloadAfter] at dropped
      exact taken.holds
  | boxed data exact =>
      rw [same] at sized
      by_cases none : exact = some 0
      · have empty : data = [] := List.length_eq_zero_iff.mp (sized 0 none).symm
        simp only [BodyRepr.tryCloneFrom, Body.exactSize, none, if_true]
        exact ⟨rfl, by simp [Body.replays, Body.exactSize],
          by simp [payloadAfter, same, Body.bytes, empty, Body.empty]⟩
      · simp only [BodyRepr.tryCloneFrom, Body.exactSize, none, if_false, Body.tryClone]
        exact ⟨rfl, by simp [Body.replays, Body.exactSize, Body.tryClone, none]⟩

end Kept

-----------------------------------------------------------------------------------------
-- Rewriting
-----------------------------------------------------------------------------------------

section Rewriting

variable {payload : Payload} {replays : Bool}

/-- The headers that describe a body are dropped with it. -/
theorem getAll_dropPayloadHeaders {headers : HeaderMap} {name : HeaderName}
    (payload : name ∈ payloadHeaders)
    : (dropPayloadHeaders headers).getAll name = [] := by
  simp only [payloadHeaders, List.mem_cons, List.not_mem_nil, or_false] at payload
  rcases payload with rfl | rfl | rfl | rfl <;> simp [dropPayloadHeaders]

/-- Rewriting for a status follows the rules of the payload. -/
theorem rewrite_payload (status : StatusCode) {request : Head World} {bodyRepr : BodyRepr}
    (heads : payload.Heads request) (holds : bodyRepr.Holds payload replays)
    : (payload.after status).Heads (rewrite status request bodyRepr).1
      ∧ (rewrite status request bodyRepr).2.Holds (payload.after status) replays := by
  have method := heads.method
  unfold rewrite Payload.after
  split
  · split
    · next post =>
        rw [if_pos (method.trans post)]
        exact ⟨⟨rfl, fun _ _ name => getAll_dropPayloadHeaders name⟩, rfl, rfl⟩
    · next other =>
        rw [if_neg (fun post => other (method.symm.trans post))]
        exact ⟨heads, holds⟩
  · split
    · refine ⟨⟨?_, fun _ _ name => getAll_dropPayloadHeaders name⟩, rfl, rfl⟩
      rw [method]
      split <;> simp_all
    · exact ⟨heads, holds⟩

/-- Preparing a request adds no header that describes a body. -/
theorem Payload.Heads.onRequest {B : Type} (policy : FollowRedirectPolicy World)
    {request : Request (Extensions World) B} (heads : payload.Heads request)
    : payload.Heads (policy.onRequest request).2 where
  method := by
    unfold FollowRedirectPolicy.onRequest
    split <;> exact heads.method
  described dropped name member := by
    have absent := heads.described dropped name member
    simp only [payloadHeaders, List.mem_cons, List.not_mem_nil, or_false] at member
    have other : name ≠ "referer" := by
      rintro rfl
      simp at member
    rw [policy.getAll_onRequest request other]
    unfold removeSensitiveHeaders
    split
    · exact absent
    · split
      · simp [absent]
      · exact absent

/-- The request with the body that was taken carries the payload. -/
theorem Taken.sends {head : Head World} {body : Body} {kept : BodyRepr}
    (taken : Taken payload replays body kept) (heads : payload.Heads head)
    : payload.Sends (head.withBody body) where
  head := ⟨heads.method, heads.described⟩
  bytes := by
    rw [taken.body]
    rfl
  dropped dropped := by
    rw [taken.body, taken.empty dropped]
    rfl

end Rewriting

end Redirect

end Tlsurl
