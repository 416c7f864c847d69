import Tlsurl.Identity.Descriptor
import Tlsurl.Proxy.Matcher

/-! Hashes of groups and connection ids (`group.rs` and `conn/descriptor.rs`).
Those of groups are derived; an id computes the hash of its group once and then writes what it has
stored. Where equal proxy matchers hash differently, so do equal groups and equal ids.
-/

namespace Tlsurl.Identity

open Library

-----------------------------------------------------------------------------------------
-- Hashes
-----------------------------------------------------------------------------------------

instance : Hash GroupId where
  eq := fun left right => left = right
  writes
    | .borrowed name => [.isize 0, .str name]
    | .owned name => [.isize 1, .str name]
    | .number value => [.isize 2, .u64 value]

instance : Hash (BitVec 32) where
  eq := fun left right => left = right
  writes := fun address => [.u32 address]

instance : Hash (BitVec 128) where
  eq := fun left right => left = right
  writes := fun address => [.u128 address]

instance : Hash SocketBindOptions where
  eq := fun left right => left = right
  writes := fun self =>
    Hash.writes self.interface ++ Hash.writes self.ipv4Address ++ Hash.writes self.ipv6Address

section

variable {M : Type} [Hash M] [Hash Uri] [Hash Version]

mutual

/-- `Hash for Group` -/
def Group.writes : Group M → List Write
  | .mk entries => .usize entries.length :: entriesWrites entries

/-- The entries of the map, in the order of their keys -/
def entriesWrites : List (GroupKey × GroupVariant (Group M) M) → List Write
  | [] => []
  | (key, variant) :: rest => .isize key.discriminant :: (variant.writes ++ entriesWrites rest)

/-- `Hash for GroupVariant` -/
def GroupVariant.writes : GroupVariant (Group M) M → List Write
  | .request group => .isize 0 :: group.writes
  | .emulate group => .isize 1 :: group.writes
  | .named id => .isize 2 :: Hash.writes id
  | .uri uri => .isize 3 :: Hash.writes uri
  | .version version => .isize 4 :: Hash.writes version
  | .proxy matcher => .isize 5 :: Hash.writes matcher
  | .socketBind opts => .isize 6 :: Hash.writes opts

end

/-- The hash of an id's group, or one in place of zero -/
def ConnectionId.computedHash (hasher : Hasher) (self : ConnectionId M) : UInt64 :=
  let hash := hasher.hashOne self.group.writes
  if hash = 0 then 1 else hash

/-- `Hash for ConnectionId`: what is written, and the id with its hash stored. Only the computed
hash is ever stored, so it does not matter whether another thread stores it first.
-/
def ConnectionId.hashWith (hasher : Hasher) (self : ConnectionId M)
    : List Write × ConnectionId M :=
  if self.hash ≠ 0 then ([.u64 self.hash], self)
  else ([.u64 (self.computedHash hasher)], { self with hash := self.computedHash hasher })

/-- An id of a group after it was hashed a number of times -/
def ConnectionId.hashed (hasher : Hasher) (group : Group M) : Nat → ConnectionId M
  | 0 => { group }
  | times + 1 => ((ConnectionId.hashed hasher group times).hashWith hasher).2

-----------------------------------------------------------------------------------------
-- When equal groups hash equally
-----------------------------------------------------------------------------------------

mutual

/-- Equal groups hash equally exactly if their matchers, wherever they are, do; by induction on
the groups.
-/
theorem Group.writes_eq_iff [LawfulHash Uri] {finer : M → M → Bool} (told : HashesAs finer)
    (left right : Group M)
    (same : left.eq Hash.eq right = true)
    : left.writes.length = right.writes.length
      ∧ (left.writes = right.writes ↔ left.eq finer right = true) := by
  match left, right with
  | .mk left, .mk right =>
      obtain ⟨entries, length, writes⟩ := entriesWrites_eq_iff told left right same
      rw [Group.writes, Group.writes, Group.eq]
      refine ⟨congrArg Nat.succ length, ?_⟩
      rw [List.cons.injEq, Write.usize.injEq]
      exact (and_iff_right entries).trans writes

theorem entriesWrites_eq_iff [LawfulHash Uri] {finer : M → M → Bool} (told : HashesAs finer)
    (left right : List (GroupKey × GroupVariant (Group M) M))
    (same : entriesEq Hash.eq left right = true)
    : left.length = right.length
      ∧ (entriesWrites left).length = (entriesWrites right).length
      ∧ (entriesWrites left = entriesWrites right ↔ entriesEq finer left right = true) := by
  match left, right with
  | [], [] => exact ⟨rfl, rfl, iff_of_true rfl rfl⟩
  | [], _ :: _ => cases same
  | _ :: _, [] => cases same
  | (key, variant) :: left, (other, second) :: right =>
      simp only [entriesEq, Bool.and_eq_true, decide_eq_true_eq] at same
      obtain ⟨⟨rfl, first⟩, rest⟩ := same
      obtain ⟨length, writes⟩ := GroupVariant.writes_eq_iff told variant second first
      obtain ⟨entries, restLength, restWrites⟩ := entriesWrites_eq_iff told left right rest
      refine ⟨congrArg Nat.succ entries, ?_, ?_⟩
      · simp only [entriesWrites, List.length_cons, List.length_append, length, restLength]
      · simp only [entriesWrites, entriesEq, List.cons.injEq, true_and, Bool.and_eq_true,
          decide_true, append_writes_eq_iff length, writes, restWrites]

theorem GroupVariant.writes_eq_iff [LawfulHash Uri] {finer : M → M → Bool} (told : HashesAs finer)
    (left right : GroupVariant (Group M) M)
    (same : left.eq Hash.eq right = true)
    : left.writes.length = right.writes.length
      ∧ (left.writes = right.writes ↔ left.eq finer right = true) := by
  match left with
  | .request group =>
      match right with
      | .request other =>
          obtain ⟨length, writes⟩ := Group.writes_eq_iff told group other same
          exact ⟨congrArg Nat.succ length, by simp [GroupVariant.writes, GroupVariant.eq, writes]⟩
      | .emulate _ | .named _ | .uri _ | .version _ | .proxy _ | .socketBind _ =>
          simp [GroupVariant.eq] at same
  | .emulate group =>
      match right with
      | .emulate other =>
          obtain ⟨length, writes⟩ := Group.writes_eq_iff told group other same
          exact ⟨congrArg Nat.succ length, by simp [GroupVariant.writes, GroupVariant.eq, writes]⟩
      | .request _ | .named _ | .uri _ | .version _ | .proxy _ | .socketBind _ =>
          simp [GroupVariant.eq] at same
  | .proxy matcher =>
      match right with
      | .proxy other =>
          obtain ⟨length, writes⟩ := @told matcher other same
          exact ⟨congrArg Nat.succ length, by simp [GroupVariant.writes, GroupVariant.eq, writes]⟩
      | .request _ | .emulate _ | .named _ | .uri _ | .version _ | .socketBind _ =>
          simp [GroupVariant.eq] at same
  | .uri uri =>
      match right with
      | .uri other =>
          have alike : Hash.eq uri other = true := by simpa [GroupVariant.eq] using same
          have writes := congrArg (Write.isize 3 :: ·) (LawfulHash.writes_eq alike)
          exact ⟨congrArg List.length writes, iff_of_true writes same⟩
      | .request _ | .emulate _ | .named _ | .version _ | .proxy _ | .socketBind _ =>
          simp [GroupVariant.eq] at same
  | .named _ | .version _ | .socketBind _ =>
      cases right <;> simp [GroupVariant.eq] at same
      subst same
      exact ⟨rfl, by simp [GroupVariant.eq]⟩

end

-----------------------------------------------------------------------------------------
-- Ids
-----------------------------------------------------------------------------------------

/-- What an id has stored is the hash of its group, by induction on the times. -/
theorem ConnectionId.hashed_cases (hasher : Hasher) (group : Group M) (times : Nat)
    : (hashed hasher group times).group = group
      ∧ ((hashed hasher group times).hash = 0
        ∨ (hashed hasher group times).hash
          = (hashed hasher group times).computedHash hasher) := by
  induction times with
  | zero => exact ⟨rfl, .inl rfl⟩
  | succ times ih =>
      obtain ⟨same, stored⟩ := ih
      rw [ConnectionId.hashed, ConnectionId.hashWith]
      split
      · exact ⟨same, stored⟩
      · exact ⟨same, .inr rfl⟩

/-- Whatever it has stored, an id writes the hash of its group. -/
theorem ConnectionId.writes_hashed (hasher : Hasher) (group : Group M) (times : Nat)
    : ((hashed hasher group times).hashWith hasher).1
      = [.u64 (ConnectionId.computedHash hasher { group })] := by
  obtain ⟨same, stored⟩ := hashed_cases hasher group times
  have computed
      : (hashed hasher group times).computedHash hasher
        = ConnectionId.computedHash hasher { group } := by
    rw [ConnectionId.computedHash, ConnectionId.computedHash, same]
  rw [ConnectionId.hashWith]
  split
  next cached => rw [stored.resolve_left cached, computed]
  next => rw [computed]

/-- All hashers give two groups the same hash for an id exactly if they make the same writes. -/
theorem ConnectionId.computedHash_eq_iff (left right : Group M)
    : (∀ hasher : Hasher,
        ConnectionId.computedHash hasher { group := left }
          = ConnectionId.computedHash hasher { group := right })
      ↔ left.writes = right.writes := by
  constructor
  · intro same
    by_contra different
    have told := same (Hasher.telling right.writes)
    simp only [ConnectionId.computedHash, Hasher.hashOne_telling, if_neg different] at told
    exact absurd told (by decide)
  · intro same hasher
    rw [ConnectionId.computedHash, ConnectionId.computedHash, same]

/-- The hash of an id in a map -/
def ConnectionId.hashIn (map hasher : Hasher) (self : ConnectionId M) : UInt64 :=
  map.hashOne (self.hashWith hasher).1

/-- However often they were hashed before, all hashers give the ids of two groups the same hash
exactly if the groups make the same writes.
-/
theorem ConnectionId.hashIn_eq_iff (left right : Group M)
    : (∀ (map hasher : Hasher) (times others : Nat),
        (hashed hasher left times).hashIn map hasher
          = (hashed hasher right others).hashIn map hasher)
      ↔ left.writes = right.writes := by
  rw [← computedHash_eq_iff]
  simp only [hashIn, writes_hashed]
  constructor
  · intro same hasher
    have written := Hasher.hashOne_eq_iff.mp (fun map => same map hasher 0 0)
    exact Write.u64.inj (List.cons.inj written).1
  · intro same map hasher _ _
    rw [same hasher]

end

-----------------------------------------------------------------------------------------
-- Keys
-----------------------------------------------------------------------------------------

section Keys

variable {Net Path V : Type} [Hash Net] [LawfulHash Net] [Hash Path] [LawfulHash Path]
  [Hash Uri] [LawfulHash Uri] [Hash Version] [Inhabited V]

open Proxy (Matcher)

/-- Equal matchers hash equally exactly if their custom headers are in the same orders. Ids of
equal groups hash equally, and find what the other has stored, exactly if this holds of all matchers
in them.
-/
theorem equal_keys_hash_equally_iff
    : (∀ left right : Matcher Net Path, Hash.eq left right = true →
        ((∀ hasher : Hasher,
            hasher.hashOne (Hash.writes left) = hasher.hashOne (Hash.writes right))
          ↔ left.orders = right.orders))
      ∧ ∀ left right : Group (Matcher Net Path), left.eq Hash.eq right = true →
        ((∀ (map hasher : Hasher) (times others : Nat),
            (ConnectionId.hashed hasher left times).hashIn map hasher
              = (ConnectionId.hashed hasher right others).hashIn map hasher)
          ↔ left.eq (alikeBy Matcher.orders) right = true)
        ∧ ((∀ (map hasher : Hasher) (times others : Nat) (value : V) (slot : UInt64 → Nat)
              (table : HashTable (ConnectionId (Matcher Net Path)) V),
            let key := ConnectionId.hashed hasher left times
            let stored := ConnectionId.hashed hasher right others
            HashTable.get? ((stored.hashIn map hasher, stored, value) :: table) slot
              (ConnectionId.eq Hash.eq) (key.hashIn map hasher) key = some value)
          ↔ left.eq (alikeBy Matcher.orders) right = true) := by
  refine ⟨fun left right same => ?_, fun left right same => ?_⟩
  · rw [Hasher.hashOne_eq_iff]
    exact (Proxy.Matcher.hashes same).2
  · have told := (Group.writes_eq_iff Proxy.Matcher.hashes.alike left right same).2
    have hashes := (ConnectionId.hashIn_eq_iff left right).trans told
    have equal (hasher : Hasher) (times others : Nat)
        : (ConnectionId.hashed hasher left times).eq Hash.eq
            (ConnectionId.hashed hasher right others) = true := by
      rw [ConnectionId.eq, (ConnectionId.hashed_cases hasher left times).1,
        (ConnectionId.hashed_cases hasher right others).1]
      exact same
    refine ⟨hashes, Iff.trans ⟨fun finds => ?_, fun alike => ?_⟩ hashes⟩
    · intro map hasher times others
      exact (HashTable.get?_cons_iff (equal hasher times others) _ _ default).mp
        (finds map hasher times others default)
    · intro map hasher times others value
      exact (HashTable.get?_cons_iff (equal hasher times others) _ _ value).mpr
        (alike map hasher times others)

end Keys

section Sample

/-- What a hasher is fed with, as bytes -/
def writeBytes : Write → List UInt8
  | .u8 value => [value]
  | .u32 value => littleEndian 4 value.toNat
  | .u64 value => littleEndian 8 value.toNat
  | .u128 value => littleEndian 16 value.toNat
  | .usize value => littleEndian 8 value
  | .isize value => littleEndian 8 value.toNat
  | .str text => text.toUTF8.toList ++ [255]
  | .bytes bytes => bytes
where
  littleEndian (count number : Nat) : List UInt8 :=
    (List.range count).map (fun index => UInt8.ofNat (number / 256 ^ index))

/-- The hasher FNV-1a -/
def fnv : Hasher where
  State := UInt64
  init := 0xcbf29ce484222325
  write := fun state write =>
    (writeBytes write).foldl (fun hash byte => (hash ^^^ byte.toUInt64) * 0x100000001b3) state
  finish := id

local instance : Hash Version where
  eq := fun left right => left = right
  writes
    | .http09 => [.isize 0]
    | .http10 => [.isize 1]
    | .http11 => [.isize 2]
    | .http2 => [.isize 3]
    | .http3 => [.isize 4]

/-- `Proxy::http("http://proxy.test").custom_http_headers(headers)` -/
def sampleMatcher (headers : HeaderMap) : Proxy.Matcher IpAddr String where
  http := some
    { uri :=
        { scheme := some .http
          authority := some { host := ascii "proxy.test" }
          path := ascii "/" }
      auth := .empty
      extra := { misc := some headers } }

/-- Two custom headers -/
def sampleHeaders : HeaderMap :=
  (HeaderMap.empty.insert "x-a" { bytes := ascii "1" }).insert "x-b" { bytes := ascii "2" }

/-- The same, set the other way around -/
def reorderedHeaders : HeaderMap :=
  (HeaderMap.empty.insert "x-b" { bytes := ascii "2" }).insert "x-a" { bytes := ascii "1" }

/-- The same in the first order, with a value marked as sensitive -/
def markedHeaders : HeaderMap :=
  (HeaderMap.empty.insert "x-a" { bytes := ascii "1", sensitive := true }).insert "x-b"
    { bytes := ascii "2" }

/-- The group of a connection through a proxy with these headers -/
def sampleGroup (headers : HeaderMap) : Group (Proxy.Matcher IpAddr String) :=
  Group.default.proxy (some (sampleMatcher headers))

theorem equal_keys_hash_equally_iff_marked
    : (∀ hasher : Hasher,
        hasher.hashOne (Hash.writes (sampleMatcher sampleHeaders))
          = hasher.hashOne (Hash.writes (sampleMatcher markedHeaders)))
      ∧ ¬∀ (map hasher : Hasher) (times others : Nat),
          (ConnectionId.hashed hasher (sampleGroup sampleHeaders) times).hashIn map hasher
            = (ConnectionId.hashed hasher (sampleGroup reorderedHeaders) others).hashIn map
                hasher :=
  ⟨((equal_keys_hash_equally_iff (V := Nat)).1 _ _ (by decide +kernel)).mpr (by decide +kernel),
    fun same => absurd
      (((equal_keys_hash_equally_iff (V := Nat)).2 _ _ (by decide +kernel)).1.mp same)
      (by decide +kernel)⟩

theorem equal_keys_hash_apart
    : (Hash.eq (sampleMatcher sampleHeaders) (sampleMatcher reorderedHeaders) = true
        ∧ fnv.hashOne (Hash.writes (sampleMatcher sampleHeaders))
          ≠ fnv.hashOne (Hash.writes (sampleMatcher reorderedHeaders)))
      ∧ (sampleGroup sampleHeaders).eq Hash.eq (sampleGroup reorderedHeaders) = true
      ∧ (ConnectionId.hashed fnv (sampleGroup sampleHeaders) 0).hashIn fnv fnv
        ≠ (ConnectionId.hashed fnv (sampleGroup reorderedHeaders) 0).hashIn fnv fnv := by
  decide +kernel

end Sample

end Tlsurl.Identity
