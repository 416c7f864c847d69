import Tlsurl.Identity.Isolation

/-! Which protocols a TLS handshake offers (`tls.rs` and `tls/conn.rs`), and which version of HTTP
is spoken over what a server selects of them (`connect_to` of `layer/client.rs`).
-/

namespace Tlsurl.Tls

open Identity

-----------------------------------------------------------------------------------------
-- Protocols on the wire
-----------------------------------------------------------------------------------------

/-- `AlpnProtocol` -/
inductive AlpnProtocol where
  | http1
  | http2
  | http3
  deriving DecidableEq

namespace AlpnProtocol

/-- The identification sequence of a protocol -/
def bytes : AlpnProtocol → Str
  | .http1 => ascii "http/1.1"
  | .http2 => ascii "h2"
  | .http3 => ascii "h3"

/-- `AlpnProtocol::encode_sequence` -/
def encodeSequence (items : List AlpnProtocol) : Str :=
  items.flatMap (fun item => item.bytes.length.toUInt8 :: item.bytes)

/-- `AlpnProtocol::encode` -/
def encode (self : AlpnProtocol) : Str := encodeSequence [self]

theorem bytes_inj {left right : AlpnProtocol} (same : left.bytes = right.bytes) : left = right := by
  cases left <;> cases right <;> first | rfl | exact absurd same (by decide)

end AlpnProtocol

/-- How a server reads the names of protocols: each is not empty and follows its length. -/
def readProtocols (wire : Str) : Option (List Str) :=
  match wire with
  | [] => some []
  | length :: rest =>
      if length = 0 ∨ rest.length < length.toNat then none
      else (readProtocols (rest.drop length.toNat)).map (rest.take length.toNat :: ·)
  termination_by wire.length
  decreasing_by simp only [List.length_drop, List.length_cons]; omega

/-- A name that is read, and the rest -/
theorem readProtocols_append {name : Str} (nonempty : name ≠ []) (short : name.length < 256)
    (rest : Str)
    : readProtocols (name.length.toUInt8 :: (name ++ rest))
      = (readProtocols rest).map (name :: ·) := by
  have length : name.length.toUInt8.toNat = name.length := by
    simpa using Nat.mod_eq_of_lt short
  have positive : name.length.toUInt8 ≠ 0 := by
    intro zero
    have none : name.length = 0 := by rw [← length, zero]; rfl
    exact nonempty (List.eq_nil_of_length_eq_zero none)
  rw [readProtocols, length, if_neg]
  · simp
  · simpa using positive

/-- A server reads what is offered, by induction on the offer. -/
theorem readProtocols_encodeSequence (items : List AlpnProtocol)
    : readProtocols (AlpnProtocol.encodeSequence items) = some (items.map AlpnProtocol.bytes) := by
  induction items with
  | nil => simp [AlpnProtocol.encodeSequence, readProtocols]
  | cons item items ih =>
      have named : item.bytes ≠ [] ∧ item.bytes.length < 256 := by
        cases item <;> decide
      rw [AlpnProtocol.encodeSequence, List.flatMap_cons, List.cons_append,
        readProtocols_append named.1 named.2, ← AlpnProtocol.encodeSequence, ih]
      rfl

-----------------------------------------------------------------------------------------
-- Connectors
-----------------------------------------------------------------------------------------

/-- `HttpVersionPref` -/
inductive HttpVersionPref where
  | http1
  | http2
  | all
  deriving DecidableEq

/-- The protocol that `ClientBuilder::build` asks of the TLS connector -/
def HttpVersionPref.alpnProtocol : HttpVersionPref → Option AlpnProtocol
  | .http1 => some .http1
  | .http2 => some .http2
  | .all => none

/-- The protocols of `TlsConnectorBuilder::build`, from those of its `TlsOptions` -/
def alpnProtocols (pref : HttpVersionPref) (opts : Option (List AlpnProtocol))
    : Option (List AlpnProtocol) :=
  match pref.alpnProtocol with
  | some protocol => some [protocol]
  | none => opts

/-- The part of `setup_ssl2` on protocols: what is set, if anything; the protocols of the settings
are absent after `no_alpn`.
-/
def alpnProtos (settings : Option (List AlpnProtocol)) (version : Option Version) : Option Str :=
  match version with
  | some .http09 => some AlpnProtocol.http1.encode
  | some .http10 => some AlpnProtocol.http1.encode
  | some .http11 => some AlpnProtocol.http1.encode
  | some .http2 => some AlpnProtocol.http2.encode
  | some .http3 => some AlpnProtocol.http3.encode
  | none => settings.map AlpnProtocol.encodeSequence

/-- What a server can select: one of the names that it reads -/
def Selects (protos : Option Str) (selected : Str) : Prop :=
  ∃ wire names, protos = some wire ∧ readProtocols wire = some names ∧ selected ∈ names

-----------------------------------------------------------------------------------------
-- Versions
-----------------------------------------------------------------------------------------

/-- `http2_only` of `ClientBuilder::build` and the version of `connect_to` -/
def isVerH2 (pref : HttpVersionPref) (version : Option Version) : Bool :=
  if version = some .http2 then true else pref = .http2

/-- `TlsConn::connected` -/
def negotiatedH2 (selected : Option Str) : Bool :=
  selected.any (fun alpn => AlpnProtocol.http2.bytes = alpn)

/-- Whether `connect_to` speaks HTTP/2 over a connection -/
def isH2 (pref : HttpVersionPref) (version : Option Version) (selected : Option Str) : Bool :=
  isVerH2 pref version || negotiatedH2 selected

/-- The protocol of the version that is spoken -/
def spoken (pref : HttpVersionPref) (version : Option Version) (selected : Option Str)
    : AlpnProtocol :=
  if isH2 pref version selected then .http2 else .http1

/-- Every protocol that a server can select is the one that is then spoken. -/
def Agrees (pref : HttpVersionPref) (version : Option Version)
    (settings : Option (List AlpnProtocol))
    : Prop :=
  ∀ selected, Selects (alpnProtos settings version) selected
    → (spoken pref version (some selected)).bytes = selected

section Offers

variable {pref : HttpVersionPref} {version : Option Version} {selected : Str}

/-- A server selects one of the protocols that are offered. -/
theorem selects_encodeSequence {items : List AlpnProtocol}
    : Selects (some (AlpnProtocol.encodeSequence items)) selected
      ↔ ∃ item ∈ items, item.bytes = selected := by
  simp [Selects, readProtocols_encodeSequence]

theorem selects_encode {item : AlpnProtocol}
    : Selects (some item.encode) selected ↔ item.bytes = selected := by
  simp [AlpnProtocol.encode, selects_encodeSequence]

/-- HTTP/2 is spoken over whatever a server selects if it is asked for, and otherwise only where it
was selected.
-/
theorem bytes_spoken_iff {item : AlpnProtocol}
    : (spoken pref version (some item.bytes)).bytes = item.bytes
      ↔ if isVerH2 pref version then item = .http2 else item ≠ .http3 := by
  have same {left right : AlpnProtocol} : left.bytes = right.bytes ↔ left = right :=
    ⟨AlpnProtocol.bytes_inj, congrArg AlpnProtocol.bytes⟩
  simp only [spoken, isH2, negotiatedH2, Option.any_some, same]
  cases isVerH2 pref version <;> cases item <;> simp

/-- Where one protocol is offered, it is the one spoken unless HTTP/2 is spoken regardless. -/
theorem agrees_encode {item : AlpnProtocol}
    : (∀ selected, Selects (some item.encode) selected
        → (spoken pref version (some selected)).bytes = selected)
      ↔ if isVerH2 pref version then item = .http2 else item ≠ .http3 := by
  rw [← bytes_spoken_iff]
  simp only [selects_encode]
  exact ⟨fun always => always _ rfl, fun same selected chosen => chosen ▸ same⟩

end Offers

-----------------------------------------------------------------------------------------
-- Requests
-----------------------------------------------------------------------------------------

variable {M T : Type}

/-- For a request that is not refused, the version of HTTP that is spoken is always the one that
the server selected, unless HTTP/3 is the version that the request asks for or among the protocols
of the TLS options where these are in use, or the client is one for HTTP/2 only and the request asks
for another version.
-/
theorem spoken_agrees_iff (pref : HttpVersionPref) (opts : Option (List AlpnProtocol))
    {uri : Uri} {isConnect : Bool} {version : Version} {calls : List (BuilderCall M T)}
    {descriptor : ConnectionDescriptor M T}
    (accepted
      : HttpClient.descriptor (Identity.BuiltRequest.ofCalls uri isConnect version calls)
        = .ok descriptor)
    : let asked := lastOf BuilderCall.asksVersion calls
      Agrees pref descriptor.version (alpnProtocols pref opts)
        ↔ (asked = none → pref = .all → ∀ offered, opts = some offered → .http3 ∉ offered)
          ∧ asked ≠ some .http3
          ∧ (pref = .http2 → asked = none ∨ asked = some .http2) := by
  intro asked
  rw [descriptor_version accepted, show lastOf BuilderCall.asksVersion calls = asked from rfl,
    Agrees]
  match asked with
  | some .http09 | some .http10 | some .http11 | some .http2 | some .http3 =>
      simp only [alpnProtos, agrees_encode]
      cases pref <;> simp [isVerH2]
  | none =>
      cases pref with
      | http1 => exact agrees_encode.trans (by simp [isVerH2])
      | http2 => exact agrees_encode.trans (by simp [isVerH2])
      | all =>
          cases opts with
          | none => simp [alpnProtos, alpnProtocols, HttpVersionPref.alpnProtocol, Selects]
          | some offered =>
              simp only [alpnProtos, alpnProtocols, HttpVersionPref.alpnProtocol, Option.map_some,
                selects_encodeSequence, forall_exists_index, and_imp, forall_apply_eq_imp_iff₂,
                bytes_spoken_iff]
              simp only [isVerH2, reduceCtorEq, if_false, decide_false, Bool.false_eq_true,
                forall_const, Option.some.injEq, forall_eq', false_implies, and_true, ne_eq,
                not_false_eq_true]
              exact ⟨fun apart member => apart .http3 member rfl,
                fun absent item member same => absent (same ▸ member)⟩

/-- A request for HTTP/3 is not refused: h3 alone is offered, and HTTP/1.1 spoken over it. -/
theorem spoken_agrees_iff_http3
    : ¬ Agrees .all (some .http3) (alpnProtocols .all (some [.http2, .http1]))
      ∧ spoken .all (some .http3) (some AlpnProtocol.http3.bytes) = .http1 := by
  have asks := spoken_agrees_iff .all (some [.http2, .http1])
    (sampleDescriptor_made "a.test" [.version .http3])
  exact ⟨fun agrees => (asks.mp agrees).2.1 rfl, by decide⟩

end Tlsurl.Tls
