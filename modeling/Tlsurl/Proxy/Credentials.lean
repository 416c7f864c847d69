import Tlsurl.Http.UrlText
import Tlsurl.Proxy.Builder

/-! Whether the credentials of a SOCKS proxy survive being written into its URI.
They are percent-encoded, printed, parsed, split and decoded again. All bytes that a later step
treats specially are encoded, except for the percent sign.
-/

namespace Tlsurl.Proxy

open Identity Net

-----------------------------------------------------------------------------------------
-- Splitting
-----------------------------------------------------------------------------------------

/-- Text is split at the first delimiter, by induction on what is before it. -/
theorem splitOnce_append {delimiter : UInt8} {left : Str} (plain : delimiter ∉ left) (right : Str)
    : splitOnce delimiter (left ++ delimiter :: right) = some (left, right) := by
  induction left with
  | nil => simp [splitOnce]
  | cons byte rest ih =>
      have other : byte ≠ delimiter := fun same => plain (same ▸ List.mem_cons_self)
      rw [List.cons_append, splitOnce, if_neg other,
        ih (fun member => plain (List.mem_cons_of_mem _ member))]
      rfl

/-- Text without a delimiter is not split. -/
theorem splitOnce_none {delimiter : UInt8} {text : Str} (plain : delimiter ∉ text)
    : splitOnce delimiter text = none := by
  induction text with
  | nil => rfl
  | cons byte rest ih =>
      have other : byte ≠ delimiter := fun same => plain (same ▸ List.mem_cons_self)
      rw [splitOnce, if_neg other, ih (fun member => plain (List.mem_cons_of_mem _ member))]
      rfl

/-- Text is split at the last delimiter. -/
theorem rsplitOnce_append {delimiter : UInt8} {right : Str} (plain : delimiter ∉ right)
    (left : Str)
    : rsplitOnce delimiter (left ++ delimiter :: right) = some (left, right) := by
  have reversed : (left ++ delimiter :: right).reverse
      = right.reverse ++ delimiter :: left.reverse := by
    simp
  rw [rsplitOnce, reversed, splitOnce_append (by simpa using plain)]
  simp

theorem rsplitOnce_none {delimiter : UInt8} {text : Str} (plain : delimiter ∉ text)
    : rsplitOnce delimiter text = none := by
  rw [rsplitOnce, splitOnce_none (by simpa using plain)]
  rfl

-----------------------------------------------------------------------------------------
-- Userinfo
-----------------------------------------------------------------------------------------

/-- The bytes that `http` accepts before the `@` of an authority: unreserved characters,
sub-delimiters, percent signs and colons
-/
def isUserinfo (byte : UInt8) : Bool :=
  (48 ≤ byte && byte ≤ 57) || (65 ≤ byte && byte ≤ 90) || (97 ≤ byte && byte ≤ 122)
    || byte ∈ ascii "-._~!$&'()*+,;=%:"

/-- Bytes that `http` accepts as a user and a password -/
structure IsUserinfo (text : Str) : Prop where
  bytes : ∀ byte ∈ text, isUserinfo byte = true
  colons : text.count 58 ≤ 1

/-- What is encoded has only bytes of a userinfo, and no colon. -/
theorem encodeUserinfo_bytes (text : Str)
    : ∀ byte ∈ encodeUserinfo text, isUserinfo byte = true ∧ byte ≠ 58 := by
  have single : ∀ value : Fin 256,
      (percentEncodeByte userinfoSet (UInt8.ofFin value)).all
        (fun byte => isUserinfo byte && byte != 58) = true := by
    decide +kernel
  intro byte member
  obtain ⟨source, -, member⟩ := List.mem_flatMap.mp member
  have plain := List.all_eq_true.mp (single source.toFin) byte member
  simpa using plain

/-- Neither the percent sign nor a digit is in the set. -/
theorem userinfoSet_keepsEscapes : userinfoSet.KeepsEscapes := by
  have every : ∀ value : Fin 256,
      UInt8.ofFin value = 37 ∨ (toDigit 16 (UInt8.ofFin value)).isSome = true
        → userinfoSet.encodes (UInt8.ofFin value) = false := by
    decide +kernel
  exact fun byte => every byte.toFin

/-- The userinfo of credentials -/
def credentials (username password : Str) : Str :=
  encodeUserinfo username ++ ascii ":" ++ encodeUserinfo password

theorem credentials_isUserinfo (username password : Str)
    : IsUserinfo (credentials username password) where
  bytes := by
    intro byte member
    rw [credentials, List.mem_append, List.mem_append] at member
    rcases member with (user | colon) | pass
    · exact (encodeUserinfo_bytes username byte user).1
    · rw [List.mem_singleton.mp colon]
      decide
    · exact (encodeUserinfo_bytes password byte pass).1
  colons := by
    have none (text : Str) : (encodeUserinfo text).count 58 = 0 :=
      List.count_eq_zero.mpr (fun member => (encodeUserinfo_bytes text 58 member).2 rfl)
    have colon : (ascii ":").count 58 = 1 := by decide
    rw [credentials, List.count_append, List.count_append, none, none, colon]

/-- The credentials are split as they were put together. -/
theorem splitOnce_credentials (username password : Str)
    : splitOnce 58 (credentials username password)
      = some (encodeUserinfo username, encodeUserinfo password) := by
  rw [credentials, List.append_assoc]
  exact splitOnce_append (fun member => (encodeUserinfo_bytes username 58 member).2 rfl) _

-----------------------------------------------------------------------------------------
-- The URI with the credentials
-----------------------------------------------------------------------------------------

/-- The URI with another userinfo -/
def withUserinfo (uri : Uri) (authority : Authority) (userinfo : Str) : Uri :=
  { uri with authority := some { authority with userinfo := some userinfo } }

/-- What `http` documents of a URI that it has accepted: its host has no `@`; with another
userinfo, and with or without a port, it is accepted too and is read as it was written, unless it
is longer than URIs may be; and a URI is made of parts that have a scheme and an authority.
-/
structure Crates.Reads (crates : Crates) (maxLen : Nat) (uri : Uri) (authority : Authority)
    : Prop where
  noAt : 64 ∉ authority.host
  pieces
    : ∀ userinfo port, (∀ text ∈ userinfo, IsUserinfo text)
      → port = authority.port ∨ port = some 1080
      → crates.parseAuthority (asStr { userinfo, host := authority.host, port })
        = some { userinfo, host := authority.host, port }
  short
    : ∀ userinfo, IsUserinfo userinfo → (withUserinfo uri authority userinfo).toStr.length ≤ maxLen
      → crates.parse (withUserinfo uri authority userinfo).toStr
        = some (withUserinfo uri authority userinfo)
  long : ∀ text, maxLen < text.length → crates.parse text = none
  empty : crates.parse [] = none
  parts
    : ∀ whole : Uri, whole.scheme.isSome = true → whole.authority.isSome = true
      → crates.fromParts whole = some whole

section

variable {Net Path : Type} {nets : IpNets Net} {crates : Crates} {maxLen : Nat} {uri : Uri}
  {authority : Authority} {scheme : Scheme}

/-- What follows the userinfo has no `@`. -/
theorem at_not_mem_hostPort (noAt : 64 ∉ authority.host) : 64 ∉ hostPort authority := by
  intro member
  rcases List.mem_append.mp member with host | port
  · exact noAt host
  · cases given : authority.port with
    | none => simp [given] at port
    | some number =>
        rw [given] at port
        rcases List.mem_append.mp port with colon | digits
        · exact absurd colon (by decide)
        · exact (plain_decimal number.toNat 64 digits).2.2 (by decide)

/-- An authority is what follows its userinfo, with the userinfo before it. -/
theorem asStr_some {userinfo : Str} (given : authority.userinfo = some userinfo)
    : asStr authority = userinfo ++ 64 :: hostPort authority := by
  rw [asStr, given, List.append_assoc]
  rfl

theorem asStr_none (given : authority.userinfo = none) : asStr authority = hostPort authority := by
  rw [asStr, given, List.nil_append]

/-- The userinfo is set to the encoded credentials. -/
theorem setUserinfo_eq (reads : crates.Reads maxLen uri authority)
    (schemed : uri.scheme = some scheme) (hosted : uri.authority = some authority)
    {username : Str} (named : username ≠ []) (password : Str)
    : setUserinfo crates uri username (some password)
      = withUserinfo uri authority (credentials username password) := by
  have kept : hostAndPort authority = hostPort authority := by
    rw [hostAndPort]
    cases given : authority.userinfo with
    | none =>
        rw [asStr_none given, rsplitOnce_none (at_not_mem_hostPort reads.noAt)]
    | some userinfo =>
        rw [asStr_some given, rsplitOnce_append (at_not_mem_hostPort reads.noAt)]
  have text : encodeUserinfo username ++ ascii ":" ++ encodeUserinfo password ++ ascii "@"
        ++ hostPort authority
      = asStr { authority with userinfo := some (credentials username password) } := by
    rfl
  have read := reads.pieces (some (credentials username password)) authority.port
    (by rintro _ ⟨⟩; exact credentials_isUserinfo username password) (.inl rfl)
  have filled : username.isEmpty = false := by simpa using named
  rw [setUserinfo, hosted]
  simp only [filled, kept, text, read]
  rw [reads.parts _ (by simp [schemed]) rfl]
  rfl

/-- A SOCKS scheme is one that a proxy may have. -/
theorem proxyScheme_socks (socks : isSocksScheme scheme = true)
    : proxyScheme (some scheme) = some (scheme, true) := by
  have other : ¬ (scheme = .http ∨ scheme = .https) := by
    rintro (rfl | rfl)
    · exact absurd socks (by decide)
    · exact absurd socks (by decide)
  rw [proxyScheme, if_neg other, if_pos socks]

/-- The proxy that is read from the URI with the credentials -/
def socksIntercept (scheme : Scheme) (authority : Authority) (username password : Str)
    : Intercept where
  uri :=
    { scheme := some scheme
      authority := some { host := authority.host, port := some (authority.port.getD 1080) }
      path := ascii "/" }
  auth :=
    .raw (decodeUtf8Lossy (percentDecode (encodeUserinfo username)))
      (decodeUtf8Lossy (percentDecode (encodeUserinfo password)))
  extra := {}

/-- The port of the URI is completed. -/
theorem proxyAuthority_eq (reads : crates.Reads maxLen uri authority) {userinfo : Str}
    (accepted : IsUserinfo userinfo)
    : proxyAuthority crates true { authority with userinfo := some userinfo }
      = some
        { userinfo := some userinfo
          host := authority.host
          port := some (authority.port.getD 1080) } := by
  have inside : ∀ text ∈ some userinfo, IsUserinfo text := by
    rintro _ ⟨⟩
    exact accepted
  cases given : authority.port with
  | some port => rfl
  | none =>
      have text : asStr { authority with userinfo := some userinfo } ++ ascii ":1080"
          = asStr { userinfo := some userinfo, host := authority.host, port := some 1080 } := by
        have digits : ascii ":1080" = ascii ":" ++ decimal (1080 : UInt16).toNat := by decide
        rw [asStr, asStr, hostPort, hostPort, digits]
        simp [given]
      have read := reads.pieces (some userinfo) (some 1080) inside (.inr rfl)
      rw [← text, given] at read
      exact read

/-- What is printed is parsed to the proxy, unless it is too long. -/
theorem parseEnvUri_eq (reads : crates.Reads maxLen uri authority)
    (schemed : uri.scheme = some scheme) (socks : isSocksScheme scheme = true)
    (username password : Str)
    : parseEnvUri crates (withUserinfo uri authority (credentials username password)).toStr
      = if (withUserinfo uri authority (credentials username password)).toStr.length ≤ maxLen
        then some (socksIntercept scheme authority username password) else none := by
  have accepted := credentials_isUserinfo username password
  split
  next fits =>
    have port : some (authority.port.getD 1080) = authority.port
        ∨ some (authority.port.getD 1080) = some 1080 := by
      cases authority.port with
      | none => exact .inr rfl
      | some port => exact .inl rfl
    have hostRead := reads.pieces none (some (authority.port.getD 1080)) (by rintro _ ⟨⟩) port
    rw [asStr_none rfl] at hostRead
    have printed := @asStr_some
      { userinfo := some (credentials username password)
        host := authority.host
        port := some (authority.port.getD 1080) } (credentials username password) rfl
    have cut := rsplitOnce_append
      (@at_not_mem_hostPort
        { host := authority.host, port := some (authority.port.getD 1080) } reads.noAt)
      (credentials username password)
    rw [parseEnvUri, reads.short _ accepted fits]
    simp only [withUserinfo, schemed, proxyScheme_socks socks, proxyAuthority_eq reads accepted,
      Option.bind_eq_bind, Option.bind_some, printed]
    simp only [hostPort] at cut hostRead ⊢
    simp only [cut, hostRead, Option.bind_some, proxyUri, reads.parts, Option.isSome_some]
    simp only [proxyAuth, userAndPass, splitOnce_credentials, socksIntercept]
    rfl
  next tooLong =>
    rw [parseEnvUri, reads.long _ (Nat.lt_of_not_le tooLong)]
    rfl

-----------------------------------------------------------------------------------------
-- The matcher
-----------------------------------------------------------------------------------------

/-- An empty list has no entries. -/
theorem fromString_empty (slashed : nets.Slashed) : NoProxy.fromString nets "" = {} := by
  have noNet : nets.fromStr (utf8 "") = none := by
    cases read : nets.fromStr (utf8 "") with
    | none => rfl
    | some network => exact absurd (slashed read) (by decide)
  have pieces : parts "" = [""] := by decide
  have noAddress : parseIpAddr (utf8 "") = none := by decide
  have blank : trim "" = "" := by decide
  rw [NoProxy.fromString, pieces, List.foldl_cons, List.foldl_nil, NoProxy.push, noNet, noAddress,
    if_pos blank]

/-- A matcher of one proxy for all destinations intercepts what goes to an HTTP or HTTPS host. -/
theorem intercept_build (slashed : nets.Slashed) (reads : crates.Reads maxLen uri authority)
    (text : Str) (extra : Extra) {dst : Uri}
    (web : dst.isHttp = true ∨ dst.isHttps = true) (hosted : dst.host.isSome = true)
    : Matcher.intercept nets
        (Builder.build crates nets ({ all := text } : Builder Path) extra) dst
      = (parseEnvUri crates text).map (fun found => .proxy { found with extra }) := by
  have noProxy : parseEnvUri crates [] = none := by
    rw [parseEnvUri, reads.empty]
    rfl
  obtain ⟨host, host_eq⟩ := Option.isSome_iff_exists.mp hosted
  have included : NoProxy.contains nets {} host = false := by
    rw [NoProxy.contains]
    cases parseIpAddr (stripIpv6Brackets host) <;> rfl
  have built : Builder.build crates nets ({ all := text } : Builder Path) extra
      = { http := (parseEnvUri crates text).map (fun found => { found with extra })
          https := (parseEnvUri crates text).map (fun found => { found with extra }) } := by
    rw [Builder.build, fromString_empty slashed]
    simp [noProxy]
  rw [built, Matcher.intercept]
  simp only [host_eq, Option.bind_eq_bind, Option.bind_some, included, Bool.false_eq_true, if_false,
    Option.map_map]
  rcases web with http | https
  · rw [if_pos http]
    rfl
  · rw [if_pos https, ite_self]
    rfl

/-- The credentials survive configuration: whatever goes to an HTTP or HTTPS host is intercepted
with them and with the address of the proxy.
-/
def CredentialsSurvive (crates : Crates) (nets : IpNets Net) (Path : Type) (uri : Uri)
    (authority : Authority) (username password : String) : Prop :=
  ∃ proxy : Proxy Path, all uri = some proxy
    ∧ ∀ dst : Uri, dst.isHttp = true ∨ dst.isHttps = true → dst.host.isSome = true
      → ∃ intercept : Intercept,
        (intoMatcher crates nets
            (basicAuth crates proxy (utf8 username) (utf8 password))).intercept nets dst
          = some (.proxy intercept)
        ∧ intercept.rawAuth = some (utf8 username, utf8 password)
        ∧ intercept.uri.host = some authority.host
        ∧ intercept.uri.port = some (authority.port.getD 1080)

/-- What the configured proxy intercepts -/
theorem intercept_basicAuth (slashed : nets.Slashed) (reads : crates.Reads maxLen uri authority)
    (schemed : uri.scheme = some scheme) (socks : isSocksScheme scheme = true)
    (hosted : uri.authority = some authority) {username : Str} (named : username ≠ [])
    (password : Str) {dst : Uri} (web : dst.isHttp = true ∨ dst.isHttps = true)
    (dstHosted : dst.host.isSome = true)
    : (intoMatcher crates nets
          (basicAuth crates ({ scheme := .all uri } : Proxy Path) username password)).intercept
        nets dst
      = if (withUserinfo uri authority (credentials username password)).toStr.length ≤ maxLen
        then some (.proxy
          { socksIntercept scheme authority username password with
            extra := { auth := some (basicAuthHeader crates username (some password)) } })
        else none := by
  have set := setUserinfo_eq reads schemed hosted named password
  have whole := @intercept_build _ Path nets crates maxLen uri authority slashed reads
    (withUserinfo uri authority (credentials username password)).toStr
    { auth := some (basicAuthHeader crates username (some password)) } dst web dstHosted
  rw [parseEnvUri_eq reads schemed socks] at whole
  have configured
      : intoMatcher crates nets
          (basicAuth crates ({ scheme := .all uri } : Proxy Path) username password)
        = Builder.build crates nets
          ({ all := (withUserinfo uri authority (credentials username password)).toStr }
            : Builder Path)
          { auth := some (basicAuthHeader crates username (some password)) } := by
    rw [← set]
    rfl
  rw [configured, whole]
  split <;> rfl

/-- The credentials of a SOCKS proxy survive exactly if neither has a percent sign before two
hexadecimal digits and the URI with both, encoded, is no longer than URIs may be.
-/
theorem basicAuth_survives_iff (slashed : nets.Slashed)
    (reads : crates.Reads maxLen uri authority) (schemed : uri.scheme = some scheme)
    (socks : isSocksScheme scheme = true) (hosted : uri.authority = some authority)
    {username : String} (named : username ≠ "") (password : String)
    : CredentialsSurvive crates nets Path uri authority username password
      ↔ ¬ Escaped (utf8 username) ∧ ¬ Escaped (utf8 password)
        ∧ (withUserinfo uri authority
            (credentials (utf8 username) (utf8 password))).toStr.length ≤ maxLen := by
  have bytes : utf8 username ≠ [] := utf8_ne_nil named
  have accepted : all uri = some ({ scheme := .all uri } : Proxy Path) := by
    rw [all, Uri.intoUri, schemed, hosted]
    rfl
  have raw : (socksIntercept scheme authority (utf8 username) (utf8 password)).rawAuth
        = some (utf8 username, utf8 password)
      ↔ ¬ Escaped (utf8 username) ∧ ¬ Escaped (utf8 password) := by
    rw [← lossy_percentDecode_percentEncode_iff userinfoSet_keepsEscapes username,
      ← lossy_percentDecode_percentEncode_iff userinfoSet_keepsEscapes password]
    exact Option.some_inj.trans Prod.mk_inj
  have every {dst : Uri} (web : dst.isHttp = true ∨ dst.isHttps = true)
      (dstHosted : dst.host.isSome = true) :=
    @intercept_basicAuth _ Path nets crates maxLen uri authority scheme slashed reads schemed socks
      hosted _ bytes (utf8 password) dst web dstHosted
  constructor
  · rintro ⟨proxy, configured, survives⟩
    cases accepted.symm.trans configured
    obtain ⟨intercept, found, auth, -, -⟩ := survives
      { scheme := some .http, authority := some { host := [] }, path := [] } (.inl rfl) rfl
    rw [every (.inl rfl) rfl] at found
    split at found
    next fits =>
      cases found
      obtain ⟨user, pass⟩ := raw.mp auth
      exact ⟨user, pass, fits⟩
    next => cases found
  · rintro ⟨user, pass, fits⟩
    exact ⟨_, accepted, fun dst web dstHosted =>
      ⟨_, (every web dstHosted).trans (if_pos fits), raw.mpr ⟨user, pass⟩, rfl, rfl⟩⟩

end

-----------------------------------------------------------------------------------------
-- A concrete proxy
-----------------------------------------------------------------------------------------

/-- A proxy without a port -/
def loopbackAuthority : Authority where
  host := ascii "127.0.0.1"

def loopback : Uri where
  scheme := some (.other (ascii "socks5"))
  authority := some loopbackAuthority
  path := ascii "/"

/-- A digit of base64 -/
def base64Digit (digit : Nat) : UInt8 :=
  (if digit < 26 then 65 + digit
    else if digit < 52 then 71 + digit
    else if digit < 62 then digit - 4
    else if digit = 62 then 43
    else 47).toUInt8

/-- Base64 with padding -/
def base64 : Str → Str
  | [] => []
  | [first] =>
      [base64Digit (first.toNat / 4), base64Digit (first.toNat % 4 * 16), 61, 61]
  | [first, second] =>
      [base64Digit (first.toNat / 4), base64Digit (first.toNat % 4 * 16 + second.toNat / 16),
        base64Digit (second.toNat % 16 * 4), 61]
  | first :: second :: third :: rest =>
      base64Digit (first.toNat / 4)
        :: base64Digit (first.toNat % 4 * 16 + second.toNat / 16)
        :: base64Digit (second.toNat % 16 * 4 + third.toNat / 64)
        :: base64Digit (third.toNat % 64) :: base64 rest

example : base64 (ascii "alice:p@ss") = ascii "YWxpY2U6cEBzcw==" := by
  decide

/-- The host of this proxy, with or without the port of SOCKS -/
def parseLoopback (userinfo : Option Str) (text : Str) : Option Authority :=
  if text = ascii "127.0.0.1" then some { loopbackAuthority with userinfo }
  else if text = ascii "127.0.0.1:1080" then
    some { loopbackAuthority with userinfo, port := some 1080 }
  else none

/-- The crates on URIs of this proxy -/
def loopbackCrates : Crates where
  parse := fun text =>
    if 65534 < text.length ∨ text.take 9 ≠ ascii "socks5://" then none
    else match splitOnce 47 (text.drop 9) with
      | some (authority, []) =>
          match rsplitOnce 64 authority with
          | some (userinfo, rest) =>
              (parseLoopback (some userinfo) rest).map
                (fun authority => { loopback with authority := some authority })
          | none => none
      | _ => none
  parseAuthority := fun text =>
    match rsplitOnce 64 text with
    | some (userinfo, rest) => parseLoopback (some userinfo) rest
    | none => parseLoopback none text
  fromParts := some
  encodeBlock := base64

theorem loopback_reads : loopbackCrates.Reads 65534 loopback loopbackAuthority where
  noAt := by decide
  pieces userinfo port accepted given := by
    cases userinfo with
    | none => rcases given with rfl | rfl <;> decide
    | some userinfo =>
        rw [asStr_some rfl]
        have noAt : 64 ∉ loopbackAuthority.host := by decide
        have cut := rsplitOnce_append
          (@at_not_mem_hostPort { loopbackAuthority with userinfo, port } noAt) userinfo
        simp only [loopbackCrates] at cut ⊢
        simp only [cut]
        rcases given with rfl | rfl
        · rfl
        · rfl
  short userinfo accepted fits := by
    have plain : 47 ∉ userinfo ++ ascii "@127.0.0.1" := by
      intro member
      rcases List.mem_append.mp member with inside | after
      · exact absurd (accepted.bytes 47 inside) (by decide)
      · exact absurd after (by decide)
    have text : (withUserinfo loopback loopbackAuthority userinfo).toStr
        = ascii "socks5://" ++ ((userinfo ++ ascii "@127.0.0.1") ++ 47 :: []) := by
      have front : (Scheme.other (ascii "socks5")).asStr ++ ascii "://" = ascii "socks5://" := by
        decide
      have rest : ascii "@" ++ (ascii "127.0.0.1" ++ ([] ++ (ascii "/" ++ [])))
          = ascii "@127.0.0.1" ++ 47 :: [] := by
        decide
      simp only [Uri.toStr, withUserinfo, loopback, loopbackAuthority, front, List.append_assoc,
        rest]
    have whole : ¬ (65534 < (withUserinfo loopback loopbackAuthority userinfo).toStr.length
        ∨ (withUserinfo loopback loopbackAuthority userinfo).toStr.take 9 ≠ ascii "socks5://") := by
      rw [not_or, not_not, text]
      refine ⟨text ▸ Nat.not_lt.mpr fits, ?_⟩
      exact List.take_left' (by decide)
    have after : (withUserinfo loopback loopbackAuthority userinfo).toStr.drop 9
        = (userinfo ++ ascii "@127.0.0.1") ++ 47 :: [] := by
      rw [text]
      exact List.drop_left' (by decide)
    have cut : rsplitOnce 64 (userinfo ++ ascii "@127.0.0.1")
        = some (userinfo, ascii "127.0.0.1") :=
      rsplitOnce_append (by decide) userinfo
    refine (if_neg whole).trans ?_
    simp only [after, splitOnce_append plain, cut]
    rfl
  long text tooLong := if_pos (.inl tooLong)
  empty := by decide
  parts _ _ _ := rfl

/-- Without a percent sign nothing is decoded. -/
theorem not_escaped {text : Str} (plain : 37 ∉ text) : ¬ Escaped text := by
  rintro ⟨front, rest, rfl, -⟩
  exact plain (by simp)

/-- A password with delimiters and beyond ASCII survives. -/
theorem basicAuth_survives_alice
    : CredentialsSurvive loopbackCrates noNets Unit loopback loopbackAuthority "alice" "p@ß:/"
    :=
  (@basicAuth_survives_iff _ Unit noNets _ _ _ _ _ nofun loopback_reads rfl (by decide) rfl _
      (by decide) "p@ß:/").mpr
    ⟨not_escaped (by decide), not_escaped (by decide), by decide⟩

/-- A password that looks encoded is decoded once too often. -/
theorem basicAuth_decodes_password
    : ¬ CredentialsSurvive loopbackCrates noNets Unit loopback loopbackAuthority "alice"
        "100%41" := by
  rintro ⟨proxy, configured, survives⟩
  cases configured
  let dst : Uri :=
    { scheme := some .http, authority := some { host := ascii "a.de" }, path := ascii "/" }
  have web : dst.isHttp = true ∨ dst.isHttps = true := .inl rfl
  obtain ⟨intercept, found, auth, -, -⟩ := survives dst web rfl
  have actual := @intercept_basicAuth _ Unit noNets _ _ _ _ _ nofun loopback_reads rfl (by decide)
    rfl (utf8 "alice") (by decide) (utf8 "100%41") dst web rfl
  rw [if_pos (by decide)] at actual
  cases actual.symm.trans found
  exact absurd auth (by decide)

end Tlsurl.Proxy
