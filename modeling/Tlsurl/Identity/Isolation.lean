import Tlsurl.Identity.Descriptor
import Tlsurl.Pool.Keys
import Tlsurl.Tls.SingleUse

/-! What separates connections.
The combination of a request is read off the calls on its builder, without the groups that the
source builds from them. Two ids are equal if and only if the combinations are, so the pool and
the session cache keep combinations apart.
-/

namespace Tlsurl.Identity

open Library

variable {M T : Type}

-----------------------------------------------------------------------------------------
-- Combinations
-----------------------------------------------------------------------------------------

/-- The last of what the calls ask for -/
def lastOf {Said : Type} (asks : BuilderCall M T → Option Said) (calls : List (BuilderCall M T))
    : Option Said :=
  calls.foldl (fun before call => (asks call).or before) none

@[simp] theorem lastOf_nil {Said : Type} (asks : BuilderCall M T → Option Said)
    : lastOf asks [] = none :=
  rfl

@[simp] theorem lastOf_snoc {Said : Type} (asks : BuilderCall M T → Option Said)
    (calls : List (BuilderCall M T)) (call : BuilderCall M T)
    : lastOf asks (calls ++ [call]) = (asks call).or (lastOf asks calls) := by
  simp [lastOf, List.foldl_append]

namespace BuilderCall

def asksGroup : BuilderCall M T → Option (Group M)
  | .group chosen => some chosen
  | _ => none

def asksEmulation : BuilderCall M T → Option (Emulation M T)
  | .emulation chosen => some chosen
  | _ => none

def asksProxy : BuilderCall M T → Option M
  | .proxy matcher => some matcher
  | _ => none

def asksVersion : BuilderCall M T → Option Version
  | .version chosen => some chosen
  | _ => none

/-- How a call changes the socket options; the first such call starts from the defaults. -/
def bind (before : Option SocketBindOptions) : BuilderCall M T → Option SocketBindOptions
  | .localAddress address => some ((before.getD {}).setLocalAddress address)
  | .localAddresses ipv4Address ipv6Address =>
      some ((before.getD {}).setLocalAddresses ipv4Address ipv6Address)
  | .interface name => some ((before.getD {}).setInterface name)
  | _ => before

end BuilderCall

/-- Everything that must be equal for requests to share a connection -/
structure Combination (M : Type) where
  scheme : Option Scheme
  authority : Option Authority
  version : Option Version
  proxy : Option M
  socketBind : Option SocketBindOptions
  group : Option (Group M)
  emulation : Option (Group M)

/-- The combination of a base URI and the calls on a builder -/
def Combination.of (base : Uri) (calls : List (BuilderCall M T)) : Combination M where
  scheme := base.scheme
  authority := base.authority
  version := lastOf BuilderCall.asksVersion calls
  proxy := lastOf BuilderCall.asksProxy calls
  socketBind := calls.foldl BuilderCall.bind none
  group := lastOf BuilderCall.asksGroup calls
  emulation := (lastOf BuilderCall.asksEmulation calls).map Emulation.group

/-- Combinations are equal part by part; URIs as `http` compares them. -/
structure Combination.Same [DecidableEq M] (left right : Combination M) : Prop where
  scheme : left.scheme = right.scheme
  authority : optionEq Authority.eq left.authority right.authority = true
  version : left.version = right.version
  proxy : left.proxy = right.proxy
  socketBind : left.socketBind = right.socketBind
  group
    : optionEq (Group.eq (fun first second => first = second)) left.group right.group = true
  emulation
    : optionEq (Group.eq (fun first second => first = second)) left.emulation right.emulation
      = true

-----------------------------------------------------------------------------------------
-- The options that the calls leave
-----------------------------------------------------------------------------------------

/-- The options are what the calls ask for. -/
structure RequestOptions.Reflects (opts : RequestOptions M T) (calls : List (BuilderCall M T))
    : Prop where
  ordered : opts.group.Ordered
  found
    : ∀ key, opts.group.find key = match key with
        | .request => (lastOf BuilderCall.asksGroup calls).map .request
        | .emulate =>
            (lastOf BuilderCall.asksEmulation calls).map (fun emulation => .emulate emulation.group)
        | _ => none
  version : opts.version = lastOf BuilderCall.asksVersion calls
  proxy : opts.proxy = lastOf BuilderCall.asksProxy calls
  tlsOptions
    : opts.tlsOptions = (lastOf BuilderCall.asksEmulation calls).bind Emulation.tlsOptions
  socketBind : opts.socketBindOptions = calls.foldl BuilderCall.bind none

namespace BuiltRequest

/-- The options that `HttpClient::request` takes out of the request -/
def opts (request : BuiltRequest M T) : RequestOptions M T := request.options.getD {}

theorem opts_withOptions (request : BuiltRequest M T)
    (change : RequestOptions M T → RequestOptions M T)
    : (request.withOptions change).opts = change request.opts :=
  rfl

/-- A call leaves what the calls ask for. -/
theorem call_reflects {request : BuiltRequest M T} {calls : List (BuilderCall M T)}
    (reflects : request.opts.Reflects calls) (call : BuilderCall M T)
    : (request.call call).opts.Reflects (calls ++ [call]) := by
  obtain ⟨ordered, found, version, proxy, tlsOptions, socketBind⟩ := reflects
  cases call with
  | group group =>
      refine ⟨ordered.extend .request (some (.request group)), fun key => ?_, ?_, ?_, ?_, ?_⟩
      · show (request.opts.group.request group).find key = _
        rw [Group.request, Group.find_extend ordered, found]
        cases key <;> simp [BuilderCall.asksGroup, BuilderCall.asksEmulation]
      all_goals simpa [BuilderCall.asksVersion, BuilderCall.asksProxy,
        BuilderCall.asksEmulation, BuilderCall.bind]
  | emulation emulation =>
      refine ⟨ordered.extend .emulate (some (.emulate emulation.group)), fun key => ?_, ?_, ?_, ?_,
        ?_⟩
      · show (request.opts.group.emulate emulation.group).find key = _
        rw [Group.emulate, Group.find_extend ordered, found]
        cases key <;> simp [BuilderCall.asksGroup, BuilderCall.asksEmulation]
      · simpa [BuilderCall.asksVersion]
      · simpa [BuilderCall.asksProxy]
      · simp [BuilderCall.asksEmulation, BuiltRequest.call, BuiltRequest.emulation,
          opts_withOptions]
      · simpa [BuilderCall.bind]
  | proxy matcher =>
      refine ⟨ordered, fun key => ?_, ?_, ?_, ?_, ?_⟩
      · exact (found key).trans (by simp [BuilderCall.asksGroup, BuilderCall.asksEmulation])
      · simpa [BuilderCall.asksVersion]
      · simp [BuilderCall.asksProxy, BuiltRequest.call, BuiltRequest.setProxy, opts_withOptions]
      · simpa [BuilderCall.asksEmulation]
      · simpa [BuilderCall.bind]
  | version chosen =>
      refine ⟨ordered, fun key => ?_, ?_, ?_, ?_, ?_⟩
      · exact (found key).trans (by simp [BuilderCall.asksGroup, BuilderCall.asksEmulation])
      · simp [BuilderCall.asksVersion, BuiltRequest.call, BuiltRequest.setVersion,
          opts_withOptions]
      · simpa [BuilderCall.asksProxy]
      · simpa [BuilderCall.asksEmulation]
      · simpa [BuilderCall.bind]
  | localAddress _ | localAddresses _ _ | interface _ =>
      refine ⟨ordered, fun key => ?_, ?_, ?_, ?_, ?_⟩
      · exact (found key).trans (by simp [BuilderCall.asksGroup, BuilderCall.asksEmulation])
      · simpa [BuilderCall.asksVersion]
      · simpa [BuilderCall.asksProxy]
      · simpa [BuilderCall.asksEmulation]
      · rw [List.foldl_append, ← socketBind]
        rfl

/-- After any calls the options are what they ask for, by induction on the calls. -/
theorem ofCalls_reflects (uri : Uri) (isConnect : Bool) (version : Version)
    (calls : List (BuilderCall M T))
    : (ofCalls uri isConnect version calls).opts.Reflects calls := by
  induction calls using List.reverseRecOn with
  | nil => exact ⟨Group.ordered_default, fun key => by cases key <;> rfl, rfl, rfl, rfl, rfl⟩
  | append_singleton calls call ih =>
      have step
          : ofCalls uri isConnect version (calls ++ [call])
            = (ofCalls uri isConnect version calls).call call := by
        simp [ofCalls, List.foldl_append]
      rw [step]
      exact call_reflects ih call

end BuiltRequest

-----------------------------------------------------------------------------------------
-- The id of a descriptor
-----------------------------------------------------------------------------------------

/-- A base URI is its scheme and authority. -/
theorem normalizeUri_base {uri base : Uri} {isConnect : Bool}
    (normal : normalizeUri uri isConnect = some base)
    : ∃ scheme authority, base = buildBaseUri scheme authority := by
  unfold normalizeUri at normal
  split at normal
  · next scheme authority _ _ => exact ⟨scheme, authority, (Option.some.inj normal).symm⟩
  · next authority _ _ =>
      split at normal
      · exact ⟨_, authority, (Option.some.inj normal).symm⟩
      · cases normal
  · cases normal

/-- A descriptor is made of the base URI and the options. -/
theorem HttpClient.descriptor_ok {request : BuiltRequest M T}
    {descriptor : ConnectionDescriptor M T}
    (made : HttpClient.descriptor request = .ok descriptor)
    : ∃ scheme authority,
        descriptor = .new (buildBaseUri scheme authority) request.opts.group request.opts.proxy
          request.opts.version request.opts.tlsOptions request.opts.socketBindOptions := by
  have described
      : ∃ base, normalizeUri request.uri request.isConnect = some base
          ∧ descriptor = .new base request.opts.group request.opts.proxy request.opts.version
              request.opts.tlsOptions request.opts.socketBindOptions := by
    unfold HttpClient.descriptor at made
    cases normal : normalizeUri request.uri request.isConnect with
    | none =>
        simp only [normal] at made
        split at made
        · split at made <;> cases made
        · cases made
        · cases made
        · cases made
    | some base =>
        simp only [normal] at made
        refine ⟨base, rfl, ?_⟩
        split at made
        · split at made
          · cases made
          · exact (Except.ok.inj made).symm
        · exact (Except.ok.inj made).symm
        · exact (Except.ok.inj made).symm
        · cases made
  obtain ⟨base, normal, rfl⟩ := described
  obtain ⟨scheme, authority, rfl⟩ := normalizeUri_base normal
  exact ⟨scheme, authority, rfl⟩

/-- The group of a new descriptor holds what the options do, and the rest of the identity. -/
theorem find_new {group : Group M} (ordered : group.Ordered) (uri : Uri) (proxy : Option M)
    (version : Option Version) (tlsOptions : Option T) (socketBind : Option SocketBindOptions)
    : (ConnectionDescriptor.new uri group proxy version tlsOptions socketBind).id.group.Ordered
      ∧ ∀ key,
          (ConnectionDescriptor.new uri group proxy version tlsOptions socketBind).id.group.find key
          = match key with
            | .uri => some (.uri uri)
            | .version => (version.map .version).or (group.find .version)
            | .proxy => (proxy.map .proxy).or (group.find .proxy)
            | .socketBind => some (.socketBind socketBind)
            | key => group.find key := by
  have withUri : (group.uri uri).Ordered := ordered.extend .uri (some (.uri uri))
  have withVersion : ((group.uri uri).version version).Ordered :=
    withUri.extend .version (version.map .version)
  have withProxy : (((group.uri uri).version version).proxy proxy).Ordered :=
    withVersion.extend .proxy (proxy.map .proxy)
  refine ⟨withProxy.extend .socketBind (some (.socketBind socketBind)), fun key => ?_⟩
  show ((((group.uri uri).version version).proxy proxy).socketBind socketBind).find key = _
  rw [Group.socketBind, Group.find_extend withProxy, Group.proxy, Group.find_extend withVersion,
    Group.version, Group.find_extend withUri, Group.uri, Group.find_extend ordered]
  cases key <;> simp

namespace Combination

/-- The base URI of a combination -/
def base (self : Combination M) : Uri where
  scheme := self.scheme
  authority := self.authority
  path := ascii "/"

/-- What the group of an id holds for a combination -/
def find (self : Combination M) : GroupKey → Option (GroupVariant (Group M) M)
  | .request => self.group.map .request
  | .emulate => self.emulation.map .emulate
  | .named => none
  | .uri => some (.uri self.base)
  | .version => self.version.map .version
  | .proxy => self.proxy.map .proxy
  | .socketBind => some (.socketBind self.socketBind)

/-- What the representative of the group holds -/
theorem map_find (self : Combination M) (key : GroupKey)
    : (self.find key).map (GroupVariant.mapUri Uri.lower)
      = match key with
        | .request => (self.group.map Group.lower).map .request
        | .emulate => (self.emulation.map Group.lower).map .emulate
        | .named => none
        | .uri => some (.uri self.base.lower)
        | .version => self.version.map .version
        | .proxy => self.proxy.map .proxy
        | .socketBind => some (.socketBind self.socketBind) := by
  cases key <;> simp [find, Function.comp_def, GroupVariant.mapUri, Group.lower]

/-- Each part of a combination is found under its own key. -/
theorem same_iff [DecidableEq M] (left right : Combination M)
    : left.Same right
      ↔ ∀ key, (left.find key).map (GroupVariant.mapUri Uri.lower)
        = (right.find key).map (GroupVariant.mapUri Uri.lower) := by
  simp only [map_find]
  constructor
  · intro ⟨scheme, authority, version, proxy, socketBind, group, emulation⟩ key
    have authority := (optionEq_iff Authority.eq_iff _ _).mp authority
    have group := (optionEq_iff Group.eq_iff_lower _ _).mp group
    have emulation := (optionEq_iff Group.eq_iff_lower _ _).mp emulation
    cases key <;>
      simp only [scheme, authority, version, proxy, socketBind, group, emulation, base, Uri.lower]
  · intro alike
    have sameBase := alike .uri
    have sameBind := alike .socketBind
    simp only [base, Uri.lower, Option.some.injEq, GroupVariant.uri.injEq, Uri.mk.injEq,
      GroupVariant.socketBind.injEq] at sameBase sameBind
    exact {
      scheme := sameBase.1
      authority := (optionEq_iff Authority.eq_iff _ _).mpr sameBase.2.1
      version := Option.map_injective (fun _ _ => GroupVariant.version.inj) (alike .version)
      proxy := Option.map_injective (fun _ _ => GroupVariant.proxy.inj) (alike .proxy)
      socketBind := sameBind
      group := (optionEq_iff Group.eq_iff_lower _ _).mpr
        (Option.map_injective (fun _ _ => GroupVariant.request.inj) (alike .request))
      emulation := (optionEq_iff Group.eq_iff_lower _ _).mpr
        (Option.map_injective (fun _ _ => GroupVariant.emulate.inj) (alike .emulate)) }

end Combination

/-- The id of a descriptor holds the combination, whatever the order of the calls. -/
theorem find_id {uri : Uri} {isConnect : Bool} {version : Version}
    {calls : List (BuilderCall M T)} {descriptor : ConnectionDescriptor M T}
    (made : HttpClient.descriptor (.ofCalls uri isConnect version calls) = .ok descriptor)
    : descriptor.id.group.Ordered
      ∧ ∀ key, descriptor.id.group.find key
        = (Combination.of descriptor.uri calls).find key := by
  obtain ⟨scheme, authority, rfl⟩ := HttpClient.descriptor_ok made
  obtain ⟨ordered, found, asked, proxy, _, socketBind⟩ :=
    BuiltRequest.ofCalls_reflects uri isConnect version calls
  rw [asked, proxy, socketBind]
  obtain ⟨orderedId, foundId⟩ := find_new ordered (buildBaseUri scheme authority)
    (lastOf BuilderCall.asksProxy calls) (lastOf BuilderCall.asksVersion calls)
    (BuiltRequest.ofCalls uri isConnect version calls).opts.tlsOptions
    (calls.foldl BuilderCall.bind none)
  refine ⟨orderedId, fun key => ?_⟩
  rw [foundId]
  cases key
    <;> simp [found, Combination.find, Combination.of, Combination.base, Function.comp_def,
      ConnectionDescriptor.new, buildBaseUri]

/-- The descriptor carries the TLS options of the last emulation. -/
theorem descriptor_tlsOptions {uri : Uri} {isConnect : Bool} {version : Version}
    {calls : List (BuilderCall M T)} {descriptor : ConnectionDescriptor M T}
    (made : HttpClient.descriptor (.ofCalls uri isConnect version calls) = .ok descriptor)
    : descriptor.tlsOptions
      = (lastOf BuilderCall.asksEmulation calls).bind Emulation.tlsOptions := by
  obtain ⟨scheme, authority, rfl⟩ := HttpClient.descriptor_ok made
  exact (BuiltRequest.ofCalls_reflects uri isConnect version calls).tlsOptions

/-- The descriptor carries the version that was asked for last. -/
theorem descriptor_version {uri : Uri} {isConnect : Bool} {version : Version}
    {calls : List (BuilderCall M T)} {descriptor : ConnectionDescriptor M T}
    (made : HttpClient.descriptor (.ofCalls uri isConnect version calls) = .ok descriptor)
    : descriptor.version = lastOf BuilderCall.asksVersion calls := by
  obtain ⟨scheme, authority, rfl⟩ := HttpClient.descriptor_ok made
  exact (BuiltRequest.ofCalls_reflects uri isConnect version calls).version

/-- Two ids have the same key exactly if the combinations are equal. -/
theorem id_key_eq_iff [DecidableEq M] {firstUri secondUri : Uri} {firstConnect secondConnect : Bool}
    {firstVersion secondVersion : Version} {firstCalls secondCalls : List (BuilderCall M T)}
    {first second : ConnectionDescriptor M T}
    (madeFirst
      : HttpClient.descriptor (.ofCalls firstUri firstConnect firstVersion firstCalls) = .ok first)
    (madeSecond
      : HttpClient.descriptor (.ofCalls secondUri secondConnect secondVersion secondCalls)
        = .ok second)
    : first.id.key = second.id.key
      ↔ (Combination.of first.uri firstCalls).Same (.of second.uri secondCalls) := by
  obtain ⟨orderedFirst, foundFirst⟩ := find_id madeFirst
  obtain ⟨orderedSecond, foundSecond⟩ := find_id madeSecond
  rw [Combination.same_iff]
  simp only [← foundFirst, ← foundSecond, ← Group.find_lower]
  constructor
  · intro same key
    exact congrArg (fun group => group.find key) same
  · exact Group.ext_find orderedFirst.lower orderedSecond.lower

/-- Two ids are equal if and only if base URI, version, proxy, socket options and groups are, in
whatever order the builders were called. So in every run of the pool, whose keys are ids, a
connection opened for one request goes to a checkout of another only if these are equal; and in
every run of the session cache, so does a session put for one and popped for another.
-/
theorem connection_ids_isolate [DecidableEq M] {firstUri secondUri : Uri}
    {firstConnect secondConnect : Bool} {firstVersion secondVersion : Version}
    {firstCalls secondCalls : List (BuilderCall M T)} {first second : ConnectionDescriptor M T}
    (madeFirst
      : HttpClient.descriptor (.ofCalls firstUri firstConnect firstVersion firstCalls) = .ok first)
    (madeSecond
      : HttpClient.descriptor (.ofCalls secondUri secondConnect secondVersion secondCalls)
        = .ok second)
    : (first.id.eq (fun left right => left = right) second.id = true
        ↔ (Combination.of first.uri firstCalls).Same (.of second.uri secondCalls))
      ∧ (∀ (config : Pool.Config) (timerIsEmpty : Bool) (events : List (Pool.Event (Group M)))
          (state next : Pool.State (Group M)) (id : Nat) (value : Pool.ConnId)
          (idleSince : Option Pool.Time) (checkout : Pool.Checkout (Group M)),
        Run Pool.Step (Pool.State.new config timerIsEmpty) events state
        → Pool.Step state (.poll id (.ok value idleSince)) next
        → state.checkouts.get? id = some checkout → checkout.key = second.id.key
        → Pool.openedFor state.conns value = some first.id.key
        → (Combination.of first.uri firstCalls).Same (.of second.uri secondCalls))
      ∧ ∀ (Session : Type) [DecidableEq Session] (capacity : Nat)
          (protocolVersion : Session → Tls.TlsVersion)
          (events : List (Tls.Inner.Event Session (Group M)))
          (inner : Tls.Inner Session (Group M) capacity) (session : Session),
        Run (Tls.Inner.Step protocolVersion) .new events inner
        → (inner.pop protocolVersion second.id.key).1 = some session
        → (∀ key, .put key session ∈ events → key = first.id.key)
        → (Combination.of first.uri firstCalls).Same (.of second.uri secondCalls) := by
  have isolated := id_key_eq_iff madeFirst madeSecond
  refine ⟨(Group.eq_iff_lower _ _).trans isolated, ?_, ?_⟩
  · intro config timerIsEmpty events state next id value idleSince checkout run step found asks
      opened
    obtain ⟨polled, foundPolled, keyed⟩ := step.poll_opened (Pool.run_keyed run)
    cases found.symm.trans foundPolled
    have same := opened.symm.trans keyed
    exact isolated.mp (Option.some.inj same |>.trans asks)
  · intro Session _ capacity protocolVersion events inner session run popped opened
    have isStored := Tls.Inner.stored_of_pop popped
    have wasPut := Tls.Inner.run_stored run second.id.key session isStored
    exact isolated.mp (opened _ wasPut).symm

/-- `https://a.test/`, for a host as it is written -/
def sampleTarget (host : String) : Uri := buildBaseUri .https { host := ascii host }

/-- Calls that choose two groups and a version -/
def sampleCalls : List (BuilderCall Nat Nat) :=
  [.group (.new (.number 1)), .emulation (.build (some 3) (.new (.number 2))), .version .http3]

/-- The calls in another order, with a version that is overwritten -/
def reorderedCalls : List (BuilderCall Nat Nat) :=
  [.version .http11, .emulation (.build (some 3) (.new (.number 2))), .version .http3
  , .group (.new (.number 1))]

/-- The descriptor of a request -/
def sampleDescriptor (host : String) (calls : List (BuilderCall Nat Nat))
    : ConnectionDescriptor Nat Nat :=
  let opts := (BuiltRequest.ofCalls (sampleTarget host) false .http11 calls).opts
  .new (sampleTarget host) opts.group opts.proxy opts.version opts.tlsOptions
    opts.socketBindOptions

theorem sampleDescriptor_made (host : String) (calls : List (BuilderCall Nat Nat))
    : HttpClient.descriptor (.ofCalls (sampleTarget host) false .http11 calls)
      = .ok (sampleDescriptor host calls) := by
  have kept (request : BuiltRequest Nat Nat) (calls : List (BuilderCall Nat Nat))
      : (calls.foldl BuiltRequest.call request).uri = request.uri
        ∧ (calls.foldl BuiltRequest.call request).isConnect = request.isConnect
        ∧ (calls.foldl BuiltRequest.call request).version = request.version := by
    induction calls generalizing request with
    | nil => exact ⟨rfl, rfl, rfl⟩
    | cons call rest ih =>
        obtain ⟨uri, isConnect, version⟩ := ih (request.call call)
        refine ⟨uri.trans ?_, isConnect.trans ?_, version.trans ?_⟩ <;> cases call <;> rfl
  obtain ⟨uri, isConnect, version⟩ := kept ⟨sampleTarget host, false, .http11, none⟩ calls
  rw [HttpClient.descriptor, BuiltRequest.ofCalls, uri, isConnect, version]
  rfl

/-- Neither the order of the calls nor the case of the host makes another combination. -/
theorem connection_ids_isolate_reordered
    : (sampleDescriptor "a.test" sampleCalls).id.eq (fun left right => left = right)
        (sampleDescriptor "A.test" reorderedCalls).id = true := by
  have isolate :=
    connection_ids_isolate (sampleDescriptor_made "a.test" sampleCalls)
      (sampleDescriptor_made "A.test" reorderedCalls)
  exact isolate.1.mpr ⟨rfl, by decide, rfl, rfl, rfl, by decide, by decide⟩

end Tlsurl.Identity
