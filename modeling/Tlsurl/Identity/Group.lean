import Mathlib.Order.Basic
import Mathlib.Order.Nat
import Tlsurl.Http.Message
import Tlsurl.Library.SortedMap

/-! Request groups (`group.rs`) and the socket options that are part of them (`conn/net.rs`).
A group is an ordered map whose values may be groups again.
-/

namespace Tlsurl.Identity

open Library

-----------------------------------------------------------------------------------------
-- Socket options
-----------------------------------------------------------------------------------------

/-- `std::net::IpAddr` -/
inductive IpAddr where
  | v4 (address : BitVec 32)
  | v6 (address : BitVec 128)
  deriving DecidableEq

/-- `SocketBindOptions` -/
structure SocketBindOptions where
  interface : Option String := none
  ipv4Address : Option (BitVec 32) := none
  ipv6Address : Option (BitVec 128) := none
  deriving DecidableEq

namespace SocketBindOptions

/-- `set_interface` -/
def setInterface (self : SocketBindOptions) (interface : String) : SocketBindOptions :=
  { self with interface := some interface }

/-- `set_local_address` -/
def setLocalAddress (self : SocketBindOptions) (localAddress : Option IpAddr)
    : SocketBindOptions :=
  match localAddress with
  | some (.v4 address) => { self with ipv4Address := some address }
  | some (.v6 address) => { self with ipv6Address := some address }
  | none => self

/-- `set_local_addresses` -/
def setLocalAddresses (self : SocketBindOptions) (ipv4Address : Option (BitVec 32))
    (ipv6Address : Option (BitVec 128))
    : SocketBindOptions :=
  { self with
    ipv4Address := ipv4Address.or self.ipv4Address
    ipv6Address := ipv6Address.or self.ipv6Address }

end SocketBindOptions

-----------------------------------------------------------------------------------------
-- Groups
-----------------------------------------------------------------------------------------

/-- `GroupKey`, in the order of its declaration. -/
inductive GroupKey where
  | request
  | emulate
  | named
  | uri
  | version
  | proxy
  | socketBind

/-- The place of a key in the order. -/
def GroupKey.discriminant : GroupKey → Nat
  | .request => 0
  | .emulate => 1
  | .named => 2
  | .uri => 3
  | .version => 4
  | .proxy => 5
  | .socketBind => 6

theorem GroupKey.discriminant_injective : Function.Injective GroupKey.discriminant := by
  intro key other same
  cases key <;> cases other <;> first | rfl | cases same

instance : LinearOrder GroupKey :=
  LinearOrder.lift' GroupKey.discriminant GroupKey.discriminant_injective

/-- `GroupId`; a borrowed and an owned string differ. -/
inductive GroupId where
  | borrowed (name : String)
  | owned (name : String)
  | number (value : UInt64)
  deriving DecidableEq

/-- `GroupVariant` over the type of groups and that of proxy matchers. -/
inductive GroupVariant (G M : Type) where
  | request (group : G)
  | emulate (group : G)
  | named (id : GroupId)
  | uri (uri : Uri)
  | version (version : Version)
  | proxy (matcher : M)
  | socketBind (opts : Option SocketBindOptions)

/-- `Group`; the entries of the map are in the order of their keys. -/
inductive Group (M : Type) where
  | mk (entries : List (GroupKey × GroupVariant (Group M) M))

namespace Group

variable {M : Type}

/-- The map of a group -/
def entries : Group M → List (GroupKey × GroupVariant (Group M) M)
  | .mk entries => entries

/-- `Group::default` -/
def default : Group M := .mk []

/-- `Group::new` -/
def new (name : GroupId) : Group M := .mk [(.named, .named name)]

/-- `Group::extend` -/
def extend (self : Group M) (id : GroupKey) (entry : Option (GroupVariant (Group M) M))
    : Group M :=
  match entry with
  | some entry => .mk (SortedMap.insert id entry self.entries)
  | none => self

/-- `Group::uri` -/
def uri (self : Group M) (uri : Uri) : Group M := self.extend .uri (some (.uri uri))

/-- `Group::version` -/
def version (self : Group M) (version : Option Version) : Group M :=
  self.extend .version (version.map .version)

/-- `Group::proxy` -/
def proxy (self : Group M) (proxy : Option M) : Group M := self.extend .proxy (proxy.map .proxy)

/-- `Group::socket_bind` -/
def socketBind (self : Group M) (opts : Option SocketBindOptions) : Group M :=
  self.extend .socketBind (some (.socketBind opts))

/-- `Group::request` -/
def request (self : Group M) (group : Group M) : Group M :=
  self.extend .request (some (.request group))

/-- `Group::emulate` -/
def emulate (self : Group M) (group : Group M) : Group M :=
  self.extend .emulate (some (.emulate group))

end Group

-----------------------------------------------------------------------------------------
-- Equality
-----------------------------------------------------------------------------------------

section Equality

variable {M : Type} [Hash Uri]

-- The derived equality, where `same` compares matchers.
mutual

/-- `PartialEq for Group` -/
def Group.eq (same : M → M → Bool) : Group M → Group M → Bool
  | .mk left, .mk right => entriesEq same left right

/-- Maps are equal if they have equal entries in the same order. -/
def entriesEq (same : M → M → Bool)
    : List (GroupKey × GroupVariant (Group M) M) → List (GroupKey × GroupVariant (Group M) M)
      → Bool
  | [], [] => true
  | (key, variant) :: left, (other, second) :: right =>
      key = other && variant.eq same second && entriesEq same left right
  | _, _ => false

/-- `PartialEq for GroupVariant` -/
def GroupVariant.eq (same : M → M → Bool)
    : GroupVariant (Group M) M → GroupVariant (Group M) M → Bool
  | .request left, .request right => left.eq same right
  | .emulate left, .emulate right => left.eq same right
  | .named left, .named right => left = right
  | .uri left, .uri right => Hash.eq left right
  | .version left, .version right => left = right
  | .proxy left, .proxy right => same left right
  | .socketBind left, .socketBind right => left = right
  | _, _ => false

end

end Equality

section Representatives

variable {M : Type}

-- A group with representatives of its URIs.
mutual

def Group.mapUri (represent : Uri → Uri) : Group M → Group M
  | .mk entries => .mk (mapUris represent entries)

def mapUris (represent : Uri → Uri)
    : List (GroupKey × GroupVariant (Group M) M) → List (GroupKey × GroupVariant (Group M) M)
  | [] => []
  | (key, variant) :: rest => (key, variant.mapUri represent) :: mapUris represent rest

def GroupVariant.mapUri (represent : Uri → Uri)
    : GroupVariant (Group M) M → GroupVariant (Group M) M
  | .request group => .request (group.mapUri represent)
  | .emulate group => .emulate (group.mapUri represent)
  | .named id => .named id
  | .uri uri => .uri (represent uri)
  | .version version => .version version
  | .proxy matcher => .proxy matcher
  | .socketBind opts => .socketBind opts

end

mutual

/-- Represented by themselves, groups stay as they are; by induction on the groups. -/
theorem Group.mapUri_id (group : Group M) : group.mapUri (fun uri => uri) = group := by
  match group with
  | .mk entries => exact congrArg Group.mk (mapUris_id entries)

theorem mapUris_id (entries : List (GroupKey × GroupVariant (Group M) M))
    : mapUris (fun uri => uri) entries = entries := by
  match entries with
  | [] => rfl
  | (key, variant) :: rest => rw [mapUris, variant.mapUri_id, mapUris_id rest]

theorem GroupVariant.mapUri_id (variant : GroupVariant (Group M) M)
    : variant.mapUri (fun uri => uri) = variant := by
  match variant with
  | .request group => exact congrArg GroupVariant.request group.mapUri_id
  | .emulate group => exact congrArg GroupVariant.emulate group.mapUri_id
  | .named _ | .uri _ | .version _ | .proxy _ | .socketBind _ => rfl

end

variable [Hash Uri] [DecidableEq M] {represent : Uri → Uri}

mutual

/-- Where equal URIs have the same representative and equal matchers are the same, groups are equal
if they are the same with these representatives; by induction on the groups.
-/
theorem Group.eq_iff
    (represents : ∀ left right, Hash.eq left right = true ↔ represent left = represent right)
    (left right : Group M)
    : left.eq (fun first second => first = second) right = true
      ↔ left.mapUri represent = right.mapUri represent := by
  match left, right with
  | .mk left, .mk right =>
      rw [Group.eq, Group.mapUri, Group.mapUri, Group.mk.injEq]
      exact entriesEq_iff represents left right

theorem entriesEq_iff
    (represents : ∀ left right, Hash.eq left right = true ↔ represent left = represent right)
    (left right : List (GroupKey × GroupVariant (Group M) M))
    : entriesEq (fun first second => first = second) left right = true
      ↔ mapUris represent left = mapUris represent right := by
  match left, right with
  | [], [] => simp [entriesEq]
  | [], _ :: _ => simp [entriesEq, mapUris]
  | _ :: _, [] => simp [entriesEq, mapUris]
  | (key, variant) :: left, (other, second) :: right =>
      simp only [entriesEq, mapUris, Bool.and_eq_true, decide_eq_true_eq, List.cons.injEq,
        Prod.mk.injEq, variant.eq_iff represents second, entriesEq_iff represents left right]

theorem GroupVariant.eq_iff
    (represents : ∀ left right, Hash.eq left right = true ↔ represent left = represent right)
    (left right : GroupVariant (Group M) M)
    : left.eq (fun first second => first = second) right = true
      ↔ left.mapUri represent = right.mapUri represent := by
  match left with
  | .request group =>
      match right with
      | .request other => simp [GroupVariant.eq, GroupVariant.mapUri, group.eq_iff represents other]
      | .emulate _ | .named _ | .uri _ | .version _ | .proxy _ | .socketBind _ =>
          simp [GroupVariant.eq, GroupVariant.mapUri]
  | .emulate group =>
      match right with
      | .emulate other => simp [GroupVariant.eq, GroupVariant.mapUri, group.eq_iff represents other]
      | .request _ | .named _ | .uri _ | .version _ | .proxy _ | .socketBind _ =>
          simp [GroupVariant.eq, GroupVariant.mapUri]
  | .uri uri =>
      cases right <;> simp [GroupVariant.eq, GroupVariant.mapUri, represents]
  | .named _ | .version _ | .proxy _ | .socketBind _ =>
      cases right <;> simp [GroupVariant.eq, GroupVariant.mapUri]

end

end Representatives

/-- Being the same is the derived equality for URIs that are equal only if they are the same. -/
instance {M : Type} [DecidableEq M] : DecidableEq (Group M) := fun left right =>
  letI : Hash Uri := { eq := fun left right => left = right, writes := Uri.writes }
  decidable_of_iff (left.eq (fun first second => first = second) right = true) (by
    have represents (first second : Uri)
        : Hash.eq first second = true ↔ (fun uri : Uri => uri) first = (fun uri => uri) second :=
      decide_eq_true_iff
    rw [Group.eq_iff represents, left.mapUri_id, right.mapUri_id])

-----------------------------------------------------------------------------------------
-- What a group holds
-----------------------------------------------------------------------------------------

namespace Group

variable {M : Type}

/-- The representative of a group and all groups equal to it: the one with the authorities of its
URIs in lower case
-/
def lower (self : Group M) : Group M := self.mapUri Uri.lower

/-- Groups are equal if they have the same representative. -/
theorem eq_iff_lower [DecidableEq M] (left right : Group M)
    : left.eq (fun first second => first = second) right = true ↔ left.lower = right.lower :=
  eq_iff Uri.hash_eq_iff left right

/-- What the group has for a key -/
def find (self : Group M) (key : GroupKey) : Option (GroupVariant (Group M) M) :=
  SortedMap.get? self.entries key

theorem find_lower (self : Group M) (key : GroupKey)
    : self.lower.find key = (self.find key).map (GroupVariant.mapUri Uri.lower) := by
  obtain ⟨entries⟩ := self
  show SortedMap.get? (mapUris Uri.lower entries) key = _
  induction entries with
  | nil => rfl
  | cons entry rest ih =>
      obtain ⟨place, variant⟩ := entry
      show List.lookup key ((place, _) :: mapUris Uri.lower rest)
        = (List.lookup key ((place, variant) :: rest)).map _
      rw [List.lookup_cons, List.lookup_cons]
      cases key == place with
      | true => rfl
      | false => exact ih

/-- The entries are in the order of their keys. -/
def Ordered (self : Group M) : Prop := SortedMap.Sorted self.entries

theorem ordered_default : (default : Group M).Ordered := SortedMap.sorted_nil

theorem Ordered.extend {self : Group M} (ordered : self.Ordered) (id : GroupKey)
    (entry : Option (GroupVariant (Group M) M))
    : (self.extend id entry).Ordered := by
  cases entry with
  | none => exact ordered
  | some entry => exact SortedMap.sorted_insert ordered id entry

theorem Ordered.lower {self : Group M} (ordered : self.Ordered) : self.lower.Ordered := by
  obtain ⟨entries⟩ := self
  have keys : (mapUris Uri.lower entries).map Prod.fst = entries.map Prod.fst := by
    clear ordered
    induction entries with
    | nil => rfl
    | cons entry rest ih => exact congrArg (entry.1 :: ·) ih
  have sorted : (entries.map Prod.fst).Pairwise (· < ·) := List.pairwise_map.mpr ordered
  rw [← keys] at sorted
  exact List.pairwise_map.mp sorted

/-- A criterion is added to a group or replaces the one before. -/
theorem find_extend {self : Group M} (ordered : self.Ordered) (id key : GroupKey)
    (entry : Option (GroupVariant (Group M) M))
    : (self.extend id entry).find key = if key = id then entry.or (self.find key)
        else self.find key := by
  cases entry with
  | none => simp [Group.extend]
  | some entry => exact SortedMap.get?_insert ordered id key entry

/-- Ordered groups are equal if they hold the same. -/
theorem ext_find {left right : Group M} (orderedLeft : left.Ordered)
    (orderedRight : right.Ordered) (alike : ∀ key, left.find key = right.find key)
    : left = right := by
  match left, right with
  | .mk left, .mk right =>
      rw [Group.mk.injEq]
      exact SortedMap.ext_get? orderedLeft orderedRight alike

end Group

end Tlsurl.Identity
