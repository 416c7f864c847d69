import Tlsurl.Http.HeaderEdits
import Tlsurl.Identity.Group
import Tlsurl.Library.Hashing

/-! Proxy matchers with their equality and hash (`proxy.rs` and `proxy/matcher.rs`).
Both are derived but for the hash of the extras, which iterates over the custom headers.
URIs, IP networks and socket paths hash as their crates have it.
-/

namespace Tlsurl.Proxy

open Library Identity

-----------------------------------------------------------------------------------------
-- Data
-----------------------------------------------------------------------------------------

/-- `Extra` -/
structure Extra where
  auth : Option HeaderValue := none
  misc : Option HeaderMap := none

/-- `Auth` -/
inductive Auth where
  | empty
  | basic (value : HeaderValue)
  | raw (user pass : Str)

/-- `Intercept` -/
structure Intercept where
  uri : Uri
  auth : Auth
  extra : Extra

/-- `Intercept::custom_headers` -/
def Intercept.customHeaders (self : Intercept) : Option HeaderMap := self.extra.misc

/-- `Ip`; a network is an `ipnet::IpNet`. -/
inductive Ip (Net : Type) where
  | address (address : IpAddr)
  | network (network : Net)

/-- `NoProxy` with its `IpMatcher` and its `DomainMatcher` -/
structure NoProxy (Net : Type) where
  ips : List (Ip Net) := []
  domains : List String := []

/-- `Matcher`; both types of this name, of which one boxes the other. -/
structure Matcher (Net Path : Type) where
  http : Option Intercept := none
  https : Option Intercept := none
  no : NoProxy Net := {}
  unix : Option Path := none

-----------------------------------------------------------------------------------------
-- Equality and hash
-----------------------------------------------------------------------------------------

/-- A slice of bytes is hashed with its length. -/
def sliceWrites (bytes : Str) : List Write := [.usize bytes.length, .bytes bytes]

/-- Values are equal if their bytes are. -/
instance : Hash HeaderValue where
  eq := fun left right => left.bytes = right.bytes
  writes := fun value => sliceWrites value.bytes

instance : LawfulHash HeaderValue where
  writes_eq same := congrArg sliceWrites (of_decide_eq_true same)

/-- A custom header is hashed by its name and its bytes. -/
def fieldWrites (field : HeaderName × Str) : List Write := .str field.1 :: sliceWrites field.2

/-- `Hash for Extra` -/
instance : Hash Extra where
  eq := fun left right =>
    Hash.eq left.auth right.auth && optionEq HeaderMap.eq left.misc right.misc
  writes := fun self =>
    Hash.writes self.auth
      ++ match self.misc with
        | some misc => misc.iterBytes.flatMap fieldWrites
        | none => [.u8 1]

instance : Hash Auth where
  eq
    | .empty, .empty => true
    | .basic left, .basic right => Hash.eq left right
    | .raw user pass, .raw other word => user = other && pass = word
    | _, _ => false
  writes
    | .empty => [.isize 0]
    | .basic value => .isize 1 :: Hash.writes value
    | .raw user pass => .isize 2 :: (sliceWrites user ++ sliceWrites pass)

instance : LawfulHash Auth where
  writes_eq {left right} same := by
    cases left with
    | empty =>
        cases right with
        | empty => rfl
        | basic _ | raw _ _ => cases same
    | basic value =>
        cases right with
        | basic other =>
            have alike : Hash.eq value other = true := same
            exact congrArg (Write.isize 1 :: ·) (LawfulHash.writes_eq alike)
        | empty | raw _ _ => cases same
    | raw user pass =>
        cases right with
        | raw other word =>
            obtain ⟨sameUser, samePass⟩ := Bool.and_eq_true_iff.mp same
            rw [of_decide_eq_true sameUser, of_decide_eq_true samePass]
        | empty | basic _ => cases same

instance : Hash IpAddr where
  eq := fun left right => left = right
  writes
    | .v4 address => [.isize 0, .u32 address]
    | .v6 address => [.isize 1, .u128 address]

instance : LawfulHash IpAddr where
  writes_eq same := by rw [of_decide_eq_true same]

section

variable {Net Path : Type} [Hash Net] [Hash Path] [Hash Uri]

instance : Hash Intercept where
  eq := fun left right =>
    Hash.eq left.uri right.uri && Hash.eq left.auth right.auth && Hash.eq left.extra right.extra
  writes := fun self =>
    Hash.writes self.uri ++ Hash.writes self.auth ++ Hash.writes self.extra

instance : Hash (Ip Net) where
  eq
    | .address left, .address right => Hash.eq left right
    | .network left, .network right => Hash.eq left right
    | _, _ => false
  writes
    | .address address => .isize 0 :: Hash.writes address
    | .network network => .isize 1 :: Hash.writes network

instance [LawfulHash Net] : LawfulHash (Ip Net) where
  writes_eq {left right} same := by
    cases left with
    | address address =>
        cases right with
        | address other =>
            have alike : Hash.eq address other = true := same
            exact congrArg (Write.isize 0 :: ·) (LawfulHash.writes_eq alike)
        | network _ => cases same
    | network network =>
        cases right with
        | network other =>
            have alike : Hash.eq network other = true := same
            exact congrArg (Write.isize 1 :: ·) (LawfulHash.writes_eq alike)
        | address _ => cases same

instance : Hash (NoProxy Net) where
  eq := fun left right => Hash.eq left.ips right.ips && Hash.eq left.domains right.domains
  writes := fun self => Hash.writes self.ips ++ Hash.writes self.domains

instance [LawfulHash Net] : LawfulHash (NoProxy Net) where
  writes_eq {left right} same := by
    obtain ⟨ips, domains⟩ := Bool.and_eq_true_iff.mp same
    exact congrArg₂ (· ++ ·) (LawfulHash.writes_eq ips) (LawfulHash.writes_eq domains)

instance : Hash (Matcher Net Path) where
  eq := fun left right =>
    Hash.eq left.http right.http && Hash.eq left.https right.https && Hash.eq left.no right.no
      && Hash.eq left.unix right.unix
  writes := fun self =>
    Hash.writes self.http ++ Hash.writes self.https ++ Hash.writes self.no
      ++ Hash.writes self.unix

end

-----------------------------------------------------------------------------------------
-- When equal matchers hash equally
-----------------------------------------------------------------------------------------

/-- The names of the custom headers, in the order in which they are iterated -/
def Extra.order (self : Extra) : Option (List HeaderName) := self.misc.map HeaderMap.names

/-- What custom headers write tells what is iterated, by induction on both. -/
theorem flatMap_fieldWrites_eq_iff {left right : List (HeaderName × Str)}
    : left.flatMap fieldWrites = right.flatMap fieldWrites ↔ left = right := by
  induction left generalizing right with
  | nil => cases right <;> simp [fieldWrites]
  | cons field rest ih =>
      cases right with
      | nil => simp [fieldWrites]
      | cons other others =>
          have length : (fieldWrites field).length = (fieldWrites other).length := rfl
          have first : fieldWrites field = fieldWrites other ↔ field = other := by
            constructor
            · intro same
              obtain ⟨name, slice⟩ := List.cons.inj same
              obtain ⟨-, bytes⟩ := List.cons.inj slice
              exact Prod.ext (Write.str.inj name) (Write.bytes.inj (List.cons.inj bytes).1)
            · rintro rfl
              rfl
          rw [List.flatMap_cons, List.flatMap_cons, append_writes_eq_iff length, first, ih,
            List.cons.injEq]

/-- Equal extras hash equally exactly if their custom headers are in the same order. -/
theorem Extra.hashes : HashesBy Extra.order := by
  intro left right same
  obtain ⟨auth, misc⟩ := left
  obtain ⟨otherAuth, otherMisc⟩ := right
  obtain ⟨sameAuth, sameMisc⟩ := Bool.and_eq_true_iff.mp same
  have auths : Hash.writes auth = Hash.writes otherAuth := LawfulHash.writes_eq sameAuth
  cases misc with
  | none =>
      cases otherMisc with
      | none =>
          have same : Hash.writes (Extra.mk auth none) = Hash.writes (Extra.mk otherAuth none) :=
            congrArg (· ++ [Write.u8 1]) auths
          exact ⟨congrArg List.length same, iff_of_true same rfl⟩
      | some _ => cases sameMisc
  | some headers =>
      cases otherMisc with
      | none => cases sameMisc
      | some others =>
          have alike : headers.eq others = true := sameMisc
          have len : headers.len = others.len :=
            of_decide_eq_true (Bool.and_eq_true_iff.mp alike).1
          have whole (auth : Option HeaderValue) (misc : HeaderMap)
              : Hash.writes (Extra.mk auth (some misc))
                = Hash.writes auth ++ misc.iterBytes.flatMap fieldWrites := rfl
          have threefold (fields : List (HeaderName × Str))
              : (fields.flatMap fieldWrites).length = 3 * fields.length := by
            rw [List.length_flatMap]
            simp [fieldWrites, sliceWrites, Nat.mul_comm]
          rw [whole, whole, auths]
          constructor
          · rw [List.length_append, List.length_append, threefold, threefold,
              HeaderMap.length_iterBytes, HeaderMap.length_iterBytes, len]
          · rw [List.append_cancel_left_eq, flatMap_fieldWrites_eq_iff,
              HeaderMap.iterBytes_eq_iff alike]
            simp only [Extra.order, Option.map_some, Option.some.injEq]

section

variable {Net Path : Type} [Hash Net] [Hash Path] [Hash Uri]

/-- The order of the custom headers of a proxy -/
def Intercept.order (self : Intercept) : Option (List HeaderName) :=
  self.customHeaders.map HeaderMap.names

theorem Intercept.hashes [LawfulHash Uri] : HashesBy Intercept.order := by
  intro left right same
  obtain ⟨parts, sameExtra⟩ := Bool.and_eq_true_iff.mp same
  obtain ⟨sameUri, sameAuth⟩ := Bool.and_eq_true_iff.mp parts
  obtain ⟨length, writes⟩ := Extra.hashes sameExtra
  have before : Hash.writes left.uri ++ Hash.writes left.auth
      = Hash.writes right.uri ++ Hash.writes right.auth :=
    congrArg₂ (· ++ ·) (LawfulHash.writes_eq sameUri) (LawfulHash.writes_eq sameAuth)
  have whole (self : Intercept) : Hash.writes self
      = Hash.writes self.uri ++ Hash.writes self.auth ++ Hash.writes self.extra := rfl
  rw [whole, whole, before]
  constructor
  · simp only [List.length_append, length]
  · rw [List.append_cancel_left_eq]
    exact writes

/-- The orders of the custom headers of both proxies -/
def Matcher.orders (self : Matcher Net Path)
    : Option (Option (List HeaderName)) × Option (Option (List HeaderName)) :=
  (self.http.map Intercept.order, self.https.map Intercept.order)

/-- Equal matchers hash equally exactly if their custom headers are in the same orders. -/
theorem Matcher.hashes [LawfulHash Uri] [LawfulHash Net] [LawfulHash Path]
    : HashesBy (@Matcher.orders Net Path) := by
  intro left right same
  obtain ⟨parts, sameUnix⟩ := Bool.and_eq_true_iff.mp same
  obtain ⟨proxies, sameNo⟩ := Bool.and_eq_true_iff.mp parts
  obtain ⟨sameHttp, sameHttps⟩ := Bool.and_eq_true_iff.mp proxies
  obtain ⟨httpLength, http⟩ := Intercept.hashes.option sameHttp
  obtain ⟨httpsLength, https⟩ := Intercept.hashes.option sameHttps
  have whole (self : Matcher Net Path) : Hash.writes self
      = Hash.writes self.http ++ Hash.writes self.https ++ Hash.writes self.no
        ++ Hash.writes self.unix := rfl
  rw [whole, whole, LawfulHash.writes_eq sameNo, LawfulHash.writes_eq sameUnix]
  constructor
  · simp only [List.length_append, httpLength, httpsLength]
  · rw [List.append_cancel_right_eq, List.append_cancel_right_eq,
      append_writes_eq_iff httpLength, http, https, Matcher.orders, Matcher.orders, Prod.mk.injEq]

end

end Tlsurl.Proxy
