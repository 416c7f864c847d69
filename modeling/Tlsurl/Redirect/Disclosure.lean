import Mathlib.Data.Multiset.Lattice
import Mathlib.Order.Lattice
import Tlsurl.Http.UrlText
import Tlsurl.Redirect.Referrer

/-! The referrer of a request as the Referrer Policy specification determines it.
A policy allows to disclose nothing, the origin or all of a source. Over a chain of requests the
least that any of them allows is what remains.
-/

namespace Tlsurl

/-- A tuple origin -/
structure Origin where
  scheme : Scheme
  host : Str
  port : UInt16
  deriving DecidableEq

/-- The default port of a scheme with tuple origins -/
def Scheme.defaultPort : Scheme → Option UInt16
  | .http => some 80
  | .https => some 443
  | .other name =>
      if name = ascii "ws" then some 80
      else if name = ascii "wss" then some 443
      else if name = ascii "ftp" then some 21
      else none

/-- The origin of the URL standard; an opaque one is `none`. -/
def originOf (scheme : Option Scheme) (host : Option Str) (port : Option UInt16)
    : Option Origin := do
  let scheme ← scheme
  let default ← scheme.defaultPort
  let host ← host
  some { scheme, host := host.map toAsciiLowercase, port := port.getD default }

def Url.origin (url : Url) : Option Origin := originOf (Scheme.parse url.scheme) url.host url.port

def Uri.origin (uri : Uri) : Option Origin := originOf uri.scheme uri.host uri.port

namespace Redirect

/-- What may be disclosed of a source, least first -/
inductive Disclosure where
  | nothing
  | origin
  | full
  deriving DecidableEq

namespace Disclosure

def rank : Disclosure → Nat
  | .nothing => 0
  | .origin => 1
  | .full => 2

instance : LinearOrder Disclosure :=
  LinearOrder.lift' rank (by
    intro left right same
    cases left <;> cases right <;> cases same <;> rfl)

instance : OrderTop Disclosure where
  top := .full
  le_top level := by cases level <;> decide

end Disclosure

/-- What a policy allows for a destination, given whether it has the origin of the source and
whether going there is a downgrade.
-/
def ReferrerPolicy.allows (policy : ReferrerPolicy) (same downgrade : Bool) : Disclosure :=
  match policy with
  | .noReferrer => .nothing
  | .noReferrerWhenDowngrade => if downgrade then .nothing else .full
  | .sameOrigin => if same then .full else .nothing
  | .origin => .origin
  | .strictOrigin => if downgrade then .nothing else .origin
  | .originWhenCrossOrigin => if same then .full else .origin
  | .strictOriginWhenCrossOrigin | .none =>
      if same then .full else if downgrade then .nothing else .origin
  | .unsafeUrl => .full

-----------------------------------------------------------------------------------------
-- Determining the referrer
-----------------------------------------------------------------------------------------

/-- A URL stripped for use as a referrer, with the origin-only flag -/
def referrerOrigin (url : Url) : Url :=
  { url with username := [], password := none, path := ascii "/", query := none, fragment := none }

/-- A URL stripped for use as a referrer, cut down to its origin when it is longer than 4096
bytes
-/
def referrerUrl (url : Url) : Url :=
  let bare := { url with username := [], password := none, fragment := none }
  if bare.asStr.length > 4096 then referrerOrigin url else bare

/-- Whether a URL has the tuple origin of a destination -/
def sameOriginAs (url : Url) (destination : Uri) : Bool :=
  url.origin.isSome && url.origin == destination.origin

/-- The schemes whose URLs are never used as a referrer -/
def localSchemes : List Str := [ascii "about", ascii "blob", ascii "data"]

/-- `determine request's referrer` of the Referrer Policy specification, for a notion of
`downgrade`
-/
def determine (downgrade : Url → Uri → Bool) (policy : ReferrerPolicy) (source : Url)
    (destination : Uri)
    : Option Url :=
  let url := referrerUrl source
  let origin := referrerOrigin source
  if localSchemes.contains source.scheme then none
  else match policy with
    | .noReferrer => none
    | .origin => some origin
    | .unsafeUrl => some url
    | .strictOrigin => if downgrade url destination then none else some origin
    | .strictOriginWhenCrossOrigin | .none =>
        if sameOriginAs url destination then some url
        else if downgrade url destination then none
        else some origin
    | .sameOrigin => if sameOriginAs url destination then some url else none
    | .originWhenCrossOrigin =>
        if sameOriginAs url destination then some url else some origin
    | .noReferrerWhenDowngrade => if downgrade url destination then none else some url

/-- The downgrade of the sources: from `https` to `http` -/
def schemeDowngrade (source : Url) (destination : Uri) : Bool :=
  source.scheme = ascii "https" && destination.scheme == some .http

/-- One request of a chain: the policy in force and the destination -/
structure Leg where
  policy : ReferrerPolicy
  destination : Uri

/-- The referrer after the requests of a chain: that of one request is the source of the next. -/
def referrerAlong (downgrade : Url → Uri → Bool) (source : Option Url) (legs : List Leg)
    : Option Url :=
  legs.foldl
    (fun current leg =>
      current.bind (fun source => determine downgrade leg.policy source leg.destination))
    source

/-- The part of a source that a level discloses -/
def Disclosure.reveal : Disclosure → Url → Option Url
  | .nothing, _ => none
  | .origin, url => some (referrerOrigin url)
  | .full, url => some (referrerUrl url)

/-- What one request allows to disclose of a source -/
def Leg.level (source : Url) (leg : Leg) : Disclosure :=
  leg.policy.allows (sameOriginAs source leg.destination) (schemeDowngrade source leg.destination)

-----------------------------------------------------------------------------------------
-- Stripped URLs
-----------------------------------------------------------------------------------------

section Stripping

variable {source url : Url} {level other : Disclosure} {destination : Uri}

@[simp] theorem referrerOrigin_referrerOrigin
    : referrerOrigin (referrerOrigin source) = referrerOrigin source := rfl

@[simp] theorem referrerOrigin_referrerUrl
    : referrerOrigin (referrerUrl source) = referrerOrigin source := by
  unfold referrerUrl
  simp only
  split <;> rfl

@[simp] theorem referrerUrl_referrerOrigin
    : referrerUrl (referrerOrigin source) = referrerOrigin source := by
  unfold referrerUrl
  simp only
  split <;> rfl

/-- Stripping is idempotent. -/
@[simp] theorem referrerUrl_referrerUrl
    : referrerUrl (referrerUrl source) = referrerUrl source := by
  conv_lhs => rw [referrerUrl]
  conv_rhs => rw [referrerUrl]
  unfold referrerUrl
  simp only
  split
  · split <;> rfl
  · rfl

theorem bare_referrerUrl : (referrerUrl source).Bare := by
  unfold referrerUrl
  simp only
  split <;> exact ⟨rfl, rfl, rfl⟩

theorem referrerOrigin_of_bare (bare : url.Bare) (root : url.path = ascii "/")
    (unqueried : url.query = none)
    : referrerOrigin url = url := by
  obtain ⟨scheme, username, password, host, port, path, query, fragment⟩ := url
  obtain ⟨username, password, fragment⟩ := bare
  simp only at username password fragment root unqueried
  subst username password fragment root unqueried
  rfl

/-- Scheme, host and port are kept. -/
theorem reveal_place (revealed : level.reveal source = some url)
    : url.scheme = source.scheme ∧ url.host = source.host ∧ url.port = source.port := by
  cases level with
  | nothing => cases revealed
  | origin => cases revealed; exact ⟨rfl, rfl, rfl⟩
  | full =>
      cases revealed
      unfold referrerUrl
      simp only
      split <;> exact ⟨rfl, rfl, rfl⟩

theorem reveal_isWeb (revealed : level.reveal source = some url) : url.isWeb = source.isWeb := by
  unfold Url.isWeb
  rw [(reveal_place revealed).1]

/-- What a request allows depends on the origin of the source only. -/
theorem level_of_reveal (revealed : level.reveal source = some url) (leg : Leg)
    : leg.level url = leg.level source := by
  obtain ⟨scheme, host, port⟩ := reveal_place revealed
  simp only [Leg.level, sameOriginAs, schemeDowngrade, Url.origin, scheme, host, port]

/-- Disclosing twice discloses the lesser of the two. -/
theorem reveal_reveal
    : (level.reveal source).bind other.reveal = (level ⊓ other).reveal source := by
  cases level <;> cases other <;> simp [Disclosure.reveal] <;> rfl

@[simp] theorem reveal_referrerUrl : level.reveal (referrerUrl source) = level.reveal source := by
  cases level <;> simp [Disclosure.reveal]

/-- What is revealed is stripped. -/
theorem referrerUrl_of_reveal (revealed : level.reveal source = some url)
    : referrerUrl url = url := by
  cases level with
  | nothing => cases revealed
  | origin => cases revealed; simp
  | full => cases revealed; simp

/-- A web URL is not local. -/
theorem not_local_of_isWeb (web : source.isWeb = true)
    : localSchemes.contains source.scheme = false := by
  simp only [Url.isWeb, Bool.or_eq_true, decide_eq_true_eq] at web
  rcases web with web | web <;> · rw [web]; decide

/-- The specification reveals what the policy allows. -/
theorem determine_eq (web : source.isWeb = true) (leg : Leg)
    : determine schemeDowngrade leg.policy source leg.destination
      = (leg.level source).reveal source := by
  have full : Disclosure.full.reveal source = some (referrerUrl source) := rfl
  have same : sameOriginAs (referrerUrl source) leg.destination
      = sameOriginAs source leg.destination := by
    obtain ⟨scheme, host, port⟩ := reveal_place full
    simp only [sameOriginAs, Url.origin, scheme, host, port]
  have downgrade : schemeDowngrade (referrerUrl source) leg.destination
      = schemeDowngrade source leg.destination := by
    simp only [schemeDowngrade, (reveal_place full).1]
  simp only [determine, not_local_of_isWeb web, Bool.false_eq_true, if_false, Leg.level, same,
    downgrade]
  generalize sameOriginAs source leg.destination = same
  generalize schemeDowngrade source leg.destination = downgrade
  cases leg.policy <;> cases same <;> cases downgrade <;> rfl

end Stripping

-----------------------------------------------------------------------------------------
-- Along a chain
-----------------------------------------------------------------------------------------

section Along

variable {source url : Url} {legs earlier : List Leg}

/-- The least that any request of a chain allows -/
def leastAllowed (source : Url) (legs : List Leg) : Disclosure :=
  (legs.map (Leg.level source) : Multiset Disclosure).inf

theorem leastAllowed_snoc (leg : Leg)
    : leastAllowed source (legs ++ [leg]) = leastAllowed source legs ⊓ leg.level source := by
  unfold leastAllowed
  rw [List.map_append, ← Multiset.coe_add, Multiset.inf_add]
  simp

/-- A longer chain discloses no more. -/
theorem leastAllowed_anti (source : Url) (shorter : earlier <+: legs)
    : leastAllowed source legs ≤ leastAllowed source earlier :=
  Multiset.inf_mono (Multiset.coe_subset.mpr (shorter.map _).subset)

@[simp] theorem referrerAlong_none (downgrade : Url → Uri → Bool) (legs : List Leg)
    : referrerAlong downgrade none legs = none := by
  induction legs with
  | nil => rfl
  | cons leg legs ih => exact ih

theorem referrerAlong_append (downgrade : Url → Uri → Bool) (source : Option Url)
    (earlier later : List Leg)
    : referrerAlong downgrade source (earlier ++ later)
      = referrerAlong downgrade (referrerAlong downgrade source earlier) later :=
  List.foldl_append

/-- The referrer of a chain is the source cut down to the least that any request allows, by
induction from the end of the chain.
-/
theorem referrerAlong_eq (web : source.isWeb = true) (stripped : referrerUrl source = source)
    (legs : List Leg)
    : referrerAlong schemeDowngrade (some source) legs
      = (leastAllowed source legs).reveal source := by
  induction legs using List.reverseRecOn with
  | nil => exact congrArg some stripped.symm
  | append_singleton legs leg ih =>
      rw [leastAllowed_snoc, ← reveal_reveal, ← ih, referrerAlong_append]
      cases current : referrerAlong schemeDowngrade (some source) legs with
      | none => rfl
      | some url =>
          have revealed := ih.symm.trans current
          have step := determine_eq ((reveal_isWeb revealed).trans web) leg
          rw [level_of_reveal revealed] at step
          exact step

/-- Stripping the source first makes no difference to the requests of a chain. -/
theorem referrerAlong_referrerUrl (web : source.isWeb = true) (nonempty : legs ≠ [])
    : referrerAlong schemeDowngrade (some (referrerUrl source)) legs
      = referrerAlong schemeDowngrade (some source) legs := by
  cases legs with
  | nil => exact absurd rfl nonempty
  | cons leg legs =>
      have full : Disclosure.full.reveal source = some (referrerUrl source) := rfl
      have stripped := determine_eq ((reveal_isWeb full).trans web) leg
      rw [level_of_reveal full] at stripped
      simp only [referrerAlong, List.foldl_cons, Option.bind_some, stripped, determine_eq web,
        reveal_referrerUrl]

/-- Once removed, a referrer stays removed. -/
theorem referrerAlong_removed {downgrade : Url → Uri → Bool} {source : Option Url}
    (shorter : earlier <+: legs) (removed : referrerAlong downgrade source earlier = none)
    : referrerAlong downgrade source legs = none := by
  obtain ⟨later, rfl⟩ := shorter
  rw [referrerAlong_append, removed, referrerAlong_none]

/-- Once cut down to its origin, a referrer stays as it is or is removed. -/
theorem referrerAlong_origin (web : source.isWeb = true) (stripped : referrerUrl source = source)
    (shorter : earlier <+: legs)
    (reduced : referrerAlong schemeDowngrade (some source) earlier = some url)
    (origin : referrerOrigin url = url)
    : referrerAlong schemeDowngrade (some source) legs = none
      ∨ referrerAlong schemeDowngrade (some source) legs = some url := by
  rw [referrerAlong_eq web stripped] at reduced ⊢
  have less := leastAllowed_anti source shorter
  generalize leastAllowed source legs = level at less ⊢
  generalize leastAllowed source earlier = before at less reduced
  cases level with
  | nothing => exact .inl rfl
  | origin =>
      cases before with
      | nothing => cases reduced
      | origin => exact .inr reduced
      | full =>
          cases reduced
          rw [referrerOrigin_referrerUrl] at origin
          exact .inr (congrArg some origin)
  | full =>
      cases before with
      | nothing => cases reduced
      | origin => exact absurd less (by decide)
      | full => exact .inr reduced

end Along

end Redirect

end Tlsurl
