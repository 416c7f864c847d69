import Tlsurl.Http.HeaderMap
import Tlsurl.Http.Url

/-! The referrer state that a redirect chain carries (`mod referrer` of `redirect.rs`). -/

namespace Tlsurl.Redirect

/-- The token policies of the Referrer Policy specification; `none` is no recognised token.
-/
inductive ReferrerPolicy where
  | none
  | noReferrer
  | noReferrerWhenDowngrade
  | sameOrigin
  | origin
  | strictOrigin
  | originWhenCrossOrigin
  | strictOriginWhenCrossOrigin
  | unsafeUrl
  deriving DecidableEq

namespace ReferrerPolicy

/-- The table `TOKENS` of `From<&str>`. -/
def tokens : List (Str × ReferrerPolicy) :=
  [ (ascii "no-referrer", .noReferrer),
    (ascii "no-referrer-when-downgrade", .noReferrerWhenDowngrade),
    (ascii "same-origin", .sameOrigin),
    (ascii "origin", .origin),
    (ascii "strict-origin", .strictOrigin),
    (ascii "origin-when-cross-origin", .originWhenCrossOrigin),
    (ascii "strict-origin-when-cross-origin", .strictOriginWhenCrossOrigin),
    (ascii "unsafe-url", .unsafeUrl) ]

/-- `From<&str>` -/
def ofToken (token : Str) : ReferrerPolicy :=
  match tokens.find? (fun entry => eqIgnoreAsciiCase token entry.1) with
  | some entry => entry.2
  | Option.none => .none

/-- ASCII whitespace that `str::trim` strips. -/
def isSpace (byte : UInt8) : Bool := byte == 32 || (9 ≤ byte && byte ≤ 13)

def trim (text : Str) : Str :=
  ((text.dropWhile isSpace).reverse.dropWhile isSpace).reverse

/-- `From<&HeaderMap>` keeps the last recognised token over all field values. -/
def ofHeaders (headers : HeaderMap) : ReferrerPolicy :=
  let values := (headers.getAll "referrer-policy").filterMap HeaderValue.toStr
  let all := values.flatMap (fun value => value.splitOn 44)
  all.foldl
    (fun policy token =>
      let parsed := ofToken (trim token)
      if parsed ≠ .none then parsed else policy)
    .none

end ReferrerPolicy

/-- `Referrer`: the current source and the policy in force. -/
structure Referrer where
  source : Option Url
  policy : ReferrerPolicy
  deriving DecidableEq

/-- `Referrer::default` -/
def Referrer.default : Referrer := ⟨Option.none, .strictOriginWhenCrossOrigin⟩

/-- `strip_to_origin_url` -/
def stripToOriginUrl (url : Url) : Url :=
  { url.clearPath with query := Option.none, fragment := Option.none }

/-- `parse_referrer`: an HTTP(S) referrer without credentials and fragment, cut down to its
origin when it is longer than 4096 bytes.
-/
def parseReferrer (parsers : Parsers) (value : HeaderValue) : Option Url := do
  let text ← value.toStr
  let source ← parsers.urlParse text
  let scheme ← Scheme.parse source.scheme
  if scheme ≠ .http ∧ scheme ≠ .https then Option.none
  else
    let source ← source.clearUsername
    let source ← source.clearPassword
    let source := { source with fragment := Option.none }
    some (if source.asStr.length > 4096 then stripToOriginUrl source else source)

/-- `same_origin` between the referrer source and the destination of the next request. -/
def referrerSameOrigin (source : Url) (sourceScheme : Scheme) (destination : Uri) : Bool :=
  let sameHost := match source.host, destination.host with
    | some source, some destination => eqIgnoreAsciiCase source destination
    | Option.none, Option.none => true
    | _, _ => false
  sameHost
    && destination.scheme == some sourceScheme
    && source.portOrKnownDefault == some destination.portOrDefault

namespace Referrer

/-- `Referrer::new` -/
def new (parsers : Parsers) (headers : HeaderMap) : Referrer :=
  { Referrer.default with source := (headers.get "referer").bind (parseReferrer parsers) }

/-- `Referrer::on_redirect` -/
def onRedirect (referrer : Referrer) (headers : HeaderMap) : Referrer :=
  match ReferrerPolicy.ofHeaders headers with
  | .none => referrer
  | policy => { referrer with policy }

/-- Whether the policy sends nothing, or else whether it strips the source to its origin. -/
def stripToOrigin (policy : ReferrerPolicy) (sameOrigin downgrade : Bool) : Option Bool :=
  match policy with
  | .noReferrer => Option.none
  | .noReferrerWhenDowngrade => if downgrade then Option.none else some false
  | .sameOrigin => if !sameOrigin then Option.none else some false
  | .strictOrigin => if downgrade then Option.none else some true
  | .strictOriginWhenCrossOrigin | .none =>
      if !sameOrigin && downgrade then Option.none else some !sameOrigin
  | .origin => some true
  | .originWhenCrossOrigin => some !sameOrigin
  | .unsafeUrl => some false

/-- `Referrer::apply` on the headers of a request to `destination`. The source is taken out
and put back only when a referrer is sent.
-/
def apply (referrer : Referrer) (headers : HeaderMap) (destination : Uri)
    : Referrer × HeaderMap :=
  let taken : Referrer := { referrer with source := Option.none }
  match referrer.source with
  | Option.none => (taken, headers.remove "referer")
  | some source =>
      let sensitive := (headers.get "referer").any HeaderValue.sensitive
      match Scheme.parse source.scheme with
      | Option.none => (taken, headers.remove "referer")
      | some sourceScheme =>
          let sameOrigin := referrerSameOrigin source sourceScheme destination
          let downgrade := sourceScheme == .https && destination.scheme == some .http
          match stripToOrigin referrer.policy sameOrigin downgrade with
          | Option.none => (taken, headers.remove "referer")
          | some strip =>
              let source := if strip then stripToOriginUrl source else source
              match HeaderValue.tryFrom source.asStr with
              | some value =>
                  ({ taken with source := some source },
                    headers.insert "referer" { value with sensitive })
              | Option.none => (taken, headers.remove "referer")

/-- Only the `Referer` field of the request changes. -/
theorem getAll_apply (referrer : Referrer) (headers : HeaderMap) (destination : Uri)
    {name : HeaderName} (other : name ≠ "referer")
    : (referrer.apply headers destination).2.getAll name = headers.getAll name := by
  unfold apply
  split
  · simp [other]
  · simp only
    split
    · simp [other]
    · split
      · simp [other]
      · split <;> simp [other]

end Referrer

end Tlsurl.Redirect
