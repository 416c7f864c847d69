import Tlsurl.Route.Resolve

/-! The address that a SOCKS proxy is asked to reach, beside the one that the direct connector dials
first.
-/

namespace Tlsurl.Route

open Identity Library Net Proxy

-----------------------------------------------------------------------------------------
-- What is dialed and asked for
-----------------------------------------------------------------------------------------

variable {C E : Type}

/-- `ip:port` of an address -/
def endpoint (addr : SocketAddr) : IpAddr × UInt16 := (addr.ip, addr.port)

/-- What the direct connector dials first -/
def dialedFirst (call : Except (ConnectError E) (List (Log C E))) : Option (IpAddr × UInt16) :=
  match call with
  | .error _ => none
  | .ok log => (attempted log).head?.map (fun attempt => endpoint attempt.2)

/-- What a SOCKS proxy is asked to reach by its address -/
def askedFor (call : Except (SocksError E) TargetAddr) : Option (IpAddr × UInt16) :=
  match call with
  | .ok (.ip addr) => some (endpoint addr)
  | _ => none

/-- The addresses that the resolver returns for the host of a URI -/
def resolved (resolver : Resolver E) (dst : Uri) : List SocketAddr :=
  match dst.host with
  | none => []
  | some host =>
      match resolver (stripIpv6Brackets host) with
      | .error _ => []
      | .ok addrs => addrs

/-- The addresses of a host for the direct connector, which does not ask the resolver for an IP
literal
-/
def candidates (resolver : Resolver E) (dst : Uri) : List SocketAddr :=
  match dst.host.bind (fun host => tryParse (stripIpv6Brackets host) 0) with
  | some literal => literal
  | none => resolved resolver dst

/-- The URI has what the direct connector requires of it. -/
def Accepted (options : DialOptions) (dst : Uri) : Prop :=
  dst.host ≠ none ∧ dst.scheme ≠ none ∧ (options.enforceHttp = true → dst.scheme = some .http)

instance (options : DialOptions) (dst : Uri) : Decidable (Accepted options dst) :=
  inferInstanceAs (Decidable (_ ∧ _ ∧ _))

/-- The first of the addresses of the family that the socket is bound to, if it is to one -/
def firstAdmitted (options : DialOptions) (addrs : List SocketAddr) : Option SocketAddr :=
  match options.happyEyeballsTimeout, options.socketBind.ipv4Address,
    options.socketBind.ipv6Address with
  | some _, some _, none => addrs.find? SocketAddr.isIpv4
  | some _, none, some _ => addrs.find? SocketAddr.isIpv6
  | _, _, _ => addrs.head?

/-- The port of the URI, or else that of a resolved address unless it is zero, or else the default
of the scheme
-/
def rulePort (dst : Uri) (addr : SocketAddr) : UInt16 :=
  match dst.port with
  | some port => port
  | none => if addr.port ≠ 0 then addr.port else dst.portOrDefault

-----------------------------------------------------------------------------------------
-- The direct connector
-----------------------------------------------------------------------------------------

/-- The first attempt of a launch is at the first of the remaining addresses. -/
theorem launchNext_first (setup : Setup E) (state : ConnectingTcpState E)
    : (attempted (state.launchNext (C := C) setup).2.2).head?.map Prod.snd
      = state.remaining.head? := by
  rw [ConnectingTcpState.launchNext, ← state.length_remaining]
  rcases state.next_addr with ⟨ends, empty⟩ | ⟨useFallback, chosen, addr, preferred, fallback,
    nextFallback, chooses, takes, first⟩
  · rw [empty]
    rfl
  · rw [first, List.length_cons, ConnectingTcpState.launchLoop, chooses]
    dsimp only
    rw [takes]
    dsimp only
    cases setup state.nextAttemptOrder addr with
    | none => rfl
    | some error => rfl

/-- A race dials the first of the remaining addresses. -/
theorem start_first (setup : Setup E) (state : ConnectingTcpState E)
    (unlaunched : state.attempts = [])
    : (attempted (Race.start (C := C) setup state).log).head?.map Prod.snd
      = state.remaining.head? := by
  rw [← launchNext_first (C := C) setup state, Race.start, Race.enter, unlaunched]
  rcases state.launchNext (C := C) setup with ⟨launched, after, log⟩
  cases launched with
  | true => rfl
  | false => rfl

/-- Addresses in a row are dialed from the first on. -/
theorem connectRemote_first (setup : Setup E) (order : Nat) (addrs : List SocketAddr)
    : (attempted (connectRemote (C := C) setup order addrs)).head?.map Prod.snd
      = addrs.head? := by
  cases addrs with
  | nil => rfl
  | cons addr rest =>
      rw [connectRemote]
      cases setup order addr with
      | none => rfl
      | some error => rfl

/-- Either way to connect dials the first of the remaining addresses. -/
theorem connect_first (setup : Setup E) (families : ConnectingTcpState E)
    (unlaunched : families.attempts = []) (preferredFirst : families.nextFallback = false)
    : (attempted (connect (C := C) setup families)).head?.map Prod.snd
      = families.remaining.head? := by
  by_cases sequential : families.fallback = none
      ∧ (families.happyEyeballsTimeout = none ∨ families.preferred.length ≤ 1)
  · rw [connect, if_pos sequential, connectRemote_first, ConnectingTcpState.remaining,
      preferredFirst, sequential.1, Option.getD_none, alternate_nil_right]
    rfl
  · rw [connect, if_neg sequential]
    exact start_first setup families unlaunched

/-- The families are dialed in turn. -/
theorem remaining_new (addrs : List SocketAddr) (localAddrIpv4 : Option (BitVec 32))
    (localAddrIpv6 : Option (BitVec 128)) (delay : Nat)
    : (ConnectingTcpState.new (E := E) addrs localAddrIpv4 localAddrIpv6 (some delay)).remaining
      = alternate (splitByPreference addrs localAddrIpv4 localAddrIpv6).1
          (splitByPreference addrs localAddrIpv4 localAddrIpv6).2 := by
  simp only [ConnectingTcpState.new, ConnectingTcpState.remaining]
  cases (splitByPreference addrs localAddrIpv4 localAddrIpv6).2 with
  | nil => rfl
  | cons addr rest => rfl

/-- The family of the first address is preferred. -/
theorem preferred_first (addrs : List SocketAddr) (preferred : SocketAddr → Bool)
    (prefers : ∀ addr, addrs.head? = some addr → preferred addr = true)
    : (alternate (addrs.partition preferred).1 (addrs.partition preferred).2).head?
      = addrs.head? := by
  rw [List.partition_eq_filter_filter]
  cases addrs with
  | nil => simp
  | cons addr rest => simp [prefers addr rfl]

/-- At first there are no attempts, and the preferred family comes first. -/
theorem new_unlaunched (addrs : List SocketAddr) (localAddrIpv4 : Option (BitVec 32))
    (localAddrIpv6 : Option (BitVec 128)) (delay : Option Nat)
    : (ConnectingTcpState.new (E := E) addrs localAddrIpv4 localAddrIpv6 delay).attempts = []
      ∧ (ConnectingTcpState.new (E := E) addrs localAddrIpv4 localAddrIpv6 delay).nextFallback
        = false := by
  cases delay with
  | none => exact ⟨rfl, rfl⟩
  | some delay => exact ⟨rfl, rfl⟩

/-- The first of the families that are dialed is the first address that is admitted. -/
theorem remaining_new_first (options : DialOptions) (addrs : List SocketAddr)
    : (ConnectingTcpState.new (E := E) addrs options.socketBind.ipv4Address
        options.socketBind.ipv6Address options.happyEyeballsTimeout).remaining.head?
      = firstAdmitted options addrs := by
  have bound (family : SocketAddr → Bool)
      : (alternate (addrs.filter family) []).head? = addrs.find? family := by
    rw [alternate_nil_right, List.head?_filter]
  have either := preferred_first addrs
    (fun addr => addr.isIpv6 = (addrs.head?.map SocketAddr.isIpv6).getD false)
    (by intro addr first; simp [first])
  obtain ⟨⟨nodelay, interface, ipv4, ipv6⟩, enforceHttp, timeout⟩ := options
  cases timeout with
  | none =>
      show (alternate addrs []).head? = addrs.head?
      rw [alternate_nil_right]
  | some timeout =>
      rw [remaining_new]
      cases ipv4 with
      | none =>
          cases ipv6 with
          | none => exact either
          | some ipv6 => exact bound SocketAddr.isIpv6
      | some ipv4 =>
          cases ipv6 with
          | none => exact bound SocketAddr.isIpv4
          | some ipv6 => exact either

theorem firstAdmitted_nil (options : DialOptions) : firstAdmitted options [] = none := by
  unfold firstAdmitted
  split <;> rfl

/-- Setting ports changes no family, so the same address is the first. -/
theorem firstAdmitted_setPort (options : DialOptions) (addrs : List SocketAddr) (port : UInt16)
    (explicit : Bool)
    : firstAdmitted options (addrs.map fun addr => setPort addr port explicit)
      = (firstAdmitted options addrs).map fun addr => setPort addr port explicit := by
  have kept {family : SocketAddr → Bool}
      (same : ∀ addr port, family (addr.setPort port) = family addr)
      : family ∘ (setPort · port explicit) = family := by
    funext addr
    rw [Function.comp, setPort]
    split
    · exact same addr port
    · rfl
  unfold firstAdmitted
  split
  · rw [List.find?_map, kept SocketAddr.isIpv4_setPort]
  · rw [List.find?_map, kept SocketAddr.isIpv6_setPort]
  · rw [List.head?_map]

/-- What `set_port` leaves of a resolved address -/
theorem endpoint_setPort (dst : Uri) (addr : SocketAddr)
    : endpoint (setPort addr dst.portOrDefault dst.port.isSome) = (addr.ip, rulePort dst addr) := by
  cases explicit : dst.port with
  | some port => simp [setPort, endpoint, rulePort, Uri.portOrDefault, explicit]
  | none =>
      by_cases zero : addr.port = 0
      · simp [setPort, endpoint, rulePort, explicit, zero]
      · simp [setPort, endpoint, rulePort, explicit, zero]

/-- An accepted URI has a host, and the port is that of SOCKS. -/
theorem getHostPort_of_accepted {options : DialOptions} {dst : Uri}
    (accepted : Accepted options dst)
    : ∃ host, dst.host = some host
        ∧ getHostPort (E := E) options dst = .ok (host, dst.portOrDefault) := by
  obtain ⟨hosted, absolute, enforced⟩ := accepted
  obtain ⟨host, named⟩ := Option.ne_none_iff_exists'.mp hosted
  refine ⟨host, named, ?_⟩
  have allowed : ¬ (options.enforceHttp = true ∧ dst.scheme ≠ some .http) :=
    fun ⟨enforces, foreign⟩ => foreign (enforced enforces)
  have absolute : ¬ (options.enforceHttp = false ∧ dst.scheme = none) :=
    fun ⟨_, bare⟩ => absolute bare
  rw [getHostPort, if_neg allowed, if_neg absolute, named]
  cases ported : dst.port with
  | some port => simp [Uri.portOrDefault, ported]
  | none => simp [Uri.portOrDefault, ported, Uri.isHttps]

/-- Another URI is refused. -/
theorem getHostPort_of_not_accepted {options : DialOptions} {dst : Uri}
    (refused : ¬ Accepted options dst)
    : ∃ error, getHostPort (E := E) options dst = .error error := by
  by_cases foreign : options.enforceHttp = true ∧ dst.scheme ≠ some .http
  · exact ⟨_, by rw [getHostPort, if_pos foreign]⟩
  · by_cases bare : options.enforceHttp = false ∧ dst.scheme = none
    · exact ⟨_, by rw [getHostPort, if_neg foreign, if_pos bare]⟩
    · cases named : dst.host with
      | none => exact ⟨_, by rw [getHostPort, if_neg foreign, if_neg bare, named]⟩
      | some host =>
          refine absurd ⟨by simp [named], fun none => ?_, fun enforced => ?_⟩ refused
          · cases enforced : options.enforceHttp with
            | true => exact foreign ⟨enforced, by simp [none]⟩
            | false => exact bare ⟨enforced, none⟩
          · exact not_not.mp fun other => foreign ⟨enforced, other⟩

/-- A literal is given the port at once. -/
theorem tryParse_port (host : Str) (port : UInt16) (explicit : Bool)
    : tryParse host port
      = (tryParse host 0).map (fun addrs => addrs.map fun addr => setPort addr port explicit) := by
  unfold tryParse
  cases parseIpv4Addr host with
  | some addr => simp [setPort, SocketAddr.port, SocketAddr.setPort]
  | none =>
      cases parseIpv6Addr host with
      | some addr => simp [setPort, SocketAddr.port, SocketAddr.setPort]
      | none => rfl

/-- The addresses of an accepted URI are the candidates with their ports set, unless the resolver
fails.
-/
theorem dialAddrs_of_accepted {options : DialOptions} (resolver : Resolver E) {dst : Uri}
    (accepted : Accepted options dst)
    : dialAddrs options resolver dst
        = .ok ((candidates resolver dst).map
            fun addr => setPort addr dst.portOrDefault dst.port.isSome)
      ∨ candidates resolver dst = [] ∧ ∃ error, dialAddrs options resolver dst = .error error := by
  obtain ⟨host, named, read⟩ := getHostPort_of_accepted (E := E) accepted
  have literal := tryParse_port (stripIpv6Brackets host) dst.portOrDefault dst.port.isSome
  cases parsed : tryParse (stripIpv6Brackets host) 0 with
  | some addrs =>
      rw [parsed, Option.map_some] at literal
      left
      simp [dialAddrs, read, candidates, named, parsed, literal, bind, Except.bind]
  | none =>
      rw [parsed, Option.map_none] at literal
      cases answer : resolver (stripIpv6Brackets host) with
      | error error =>
          right
          simp [dialAddrs, read, candidates, resolved, named, parsed, literal, answer, bind,
            Except.bind]
      | ok addrs =>
          left
          simp [dialAddrs, read, candidates, resolved, named, parsed, literal, answer, bind,
            Except.bind]

/-- What is dialed first is the first admitted candidate of an accepted URI, at the port of the
rule.
-/
theorem dialedFirst_call (options : DialOptions) (resolver : Resolver E) (setup : Setup E)
    (dst : Uri)
    : dialedFirst (HttpConnector.call (C := C) options resolver setup dst)
      = if Accepted options dst then
          (firstAdmitted options (candidates resolver dst)).map
            fun addr => (addr.ip, rulePort dst addr)
        else none := by
  by_cases accepted : Accepted options dst
  · rw [if_pos accepted]
    rcases dialAddrs_of_accepted resolver accepted with addrs | ⟨empty, error, failed⟩
    · have unlaunched := new_unlaunched (E := E)
        ((candidates resolver dst).map fun addr => setPort addr dst.portOrDefault dst.port.isSome)
        options.socketBind.ipv4Address options.socketBind.ipv6Address options.happyEyeballsTimeout
      rw [HttpConnector.call, addrs]
      show (attempted (connect setup _)).head?.map (fun attempt => endpoint attempt.2) = _
      rw [← Function.comp_def endpoint Prod.snd, ← Option.map_map,
        connect_first setup _ unlaunched.1 unlaunched.2, remaining_new_first,
        firstAdmitted_setPort, Option.map_map]
      exact congrArg (Option.map · _) (funext (endpoint_setPort dst))
    · rw [HttpConnector.call, failed, empty, firstAdmitted_nil]
      rfl
  · obtain ⟨error, failed⟩ := getHostPort_of_not_accepted (E := E) accepted
    rw [if_neg accepted, HttpConnector.call, dialAddrs, failed]
    rfl

/-- What a SOCKS proxy is asked for is the first address that is resolved, at the port of the URI or
the default.
-/
theorem askedFor_call (resolver : Resolver E) (dst : Uri)
    : askedFor (SocksConnector.call resolver .local (.ok ()) dst)
      = (resolved resolver dst).head?.map fun addr => (addr.ip, dst.portOrDefault) := by
  cases named : dst.host with
  | none => simp [SocksConnector.call, resolved, named, askedFor]
  | some host =>
      cases answer : resolver (stripIpv6Brackets host) with
      | error error => simp [SocksConnector.call, resolved, named, answer, askedFor]
      | ok addrs =>
          cases addrs with
          | nil => simp [SocksConnector.call, resolved, named, answer, askedFor]
          | cons addr rest =>
              simp [SocksConnector.call, resolved, named, answer, askedFor, endpoint]

-----------------------------------------------------------------------------------------
-- Both
-----------------------------------------------------------------------------------------

/-- The first address resolved has the IP of the first that is admitted, whose port is zero or the
default unless the URI has one; and a URI that is not accepted resolves to nothing.
-/
structure PortsAgree (options : DialOptions) (resolver : Resolver E) (dst : Uri) : Prop where
  sameIp
    : Accepted options dst
      → (firstAdmitted options (candidates resolver dst)).map SocketAddr.ip
        = (resolved resolver dst).head?.map SocketAddr.ip
  plainPort
    : Accepted options dst → dst.port = none
      → ∀ addr, firstAdmitted options (candidates resolver dst) = some addr
        → addr.port = 0 ∨ addr.port = dst.portOrDefault
  refused : ¬ Accepted options dst → resolved resolver dst = []

/-- The two ports are the same exactly if the resolved one does not count. -/
theorem portOrDefault_eq_rulePort (dst : Uri) (addr : SocketAddr)
    : dst.portOrDefault = rulePort dst addr
      ↔ (dst.port = none → addr.port = 0 ∨ addr.port = dst.portOrDefault) := by
  cases ported : dst.port with
  | some port => simp [rulePort, Uri.portOrDefault, ported]
  | none =>
      by_cases zero : addr.port = 0
      · simp [rulePort, ported, zero]
      · simp [rulePort, ported, zero, eq_comm]

/-- Two endpoints are the same exactly if their addresses have one IP and the dialed port is plain,
by cases on what there is.
-/
theorem endpoints_same_iff (dst : Uri) (first dialed : Option SocketAddr)
    : first.map (fun addr => (addr.ip, dst.portOrDefault))
        = dialed.map (fun addr => (addr.ip, rulePort dst addr))
      ↔ dialed.map SocketAddr.ip = first.map SocketAddr.ip
        ∧ (dst.port = none → ∀ addr, dialed = some addr
          → addr.port = 0 ∨ addr.port = dst.portOrDefault) := by
  cases first with
  | none =>
      cases dialed with
      | none => simp
      | some dialed => simp
  | some addr =>
      cases dialed with
      | none => simp
      | some dialed =>
          have ports := portOrDefault_eq_rulePort dst dialed
          simp only [Option.map_some, Option.some.injEq, Prod.mk.injEq, ports, forall_eq']
          exact and_congr_left' eq_comm

/-- An address that is dialed is one of the candidates. -/
theorem firstAdmitted_mem {options : DialOptions} {addrs : List SocketAddr} {addr : SocketAddr}
    (first : firstAdmitted options addrs = some addr)
    : addr ∈ addrs := by
  unfold firstAdmitted at first
  split at first
  · exact List.mem_of_find?_eq_some first
  · exact List.mem_of_find?_eq_some first
  · exact List.mem_of_head? first

/-- A SOCKS proxy is asked for what the direct connector dials first exactly if the first resolved
address is admitted and has no port of its own that counts. What is dialed always follows the rule.
-/
theorem resolver_ports_agree_iff (options : DialOptions) (dns : DnsResolverWithOverrides E)
    (setup : Setup E) (dst : Uri)
    : let dialed := dialedFirst (HttpConnector.call (C := C) options dns.resolve setup dst)
      (askedFor (SocksConnector.call dns.resolve .local (.ok ()) dst) = dialed
        ∧ ∀ ip port, dialed = some (ip, port)
          → ∃ addr ∈ candidates dns.resolve dst, ip = addr.ip ∧ port = rulePort dst addr)
      ↔ PortsAgree options dns.resolve dst := by
  intro dialed
  have dials : dialed = _ := dialedFirst_call options dns.resolve setup dst
  have follows : ∀ ip port, dialed = some (ip, port)
      → ∃ addr ∈ candidates dns.resolve dst, ip = addr.ip ∧ port = rulePort dst addr := by
    intro ip port same
    rw [dials] at same
    split at same
    · obtain ⟨addr, first, same⟩ := Option.map_eq_some_iff.mp same
      cases same
      exact ⟨addr, firstAdmitted_mem first, rfl, rfl⟩
    · cases same
  rw [and_iff_left follows, askedFor_call, dials]
  by_cases accepted : Accepted options dst
  · rw [if_pos accepted, endpoints_same_iff]
    exact ⟨fun ⟨sameIp, plainPort⟩ => ⟨fun _ => sameIp, fun _ => plainPort, (absurd accepted ·)⟩,
      fun agree => ⟨agree.sameIp accepted, agree.plainPort accepted⟩⟩
  · rw [if_neg accepted, Option.map_eq_none_iff, List.head?_eq_none_iff]
    exact ⟨fun empty => ⟨(absurd · accepted), (absurd · accepted), fun _ => empty⟩,
      fun agree => agree.refused accepted⟩

/-- An override with a port of its own -/
def portedDns : DnsResolverWithOverrides Unit where
  dnsResolver := fun _ => .error ()
  overrides := AList.singleton (ascii "a.test") [.v4 0x7F000001#32 8080]

/-- A URI without a port -/
def portlessUri : Uri :=
  { scheme := some .http, authority := some { host := ascii "a.test" }, path := ascii "/" }

/-- The direct connector keeps the port of the override, a SOCKS proxy is asked for the default. -/
theorem override_port_lost_over_socks
    : let dialed := dialedFirst
        (HttpConnector.call (C := Unit) {} portedDns.resolve (fun _ _ => none) portlessUri)
      let asked := askedFor (SocksConnector.call portedDns.resolve .local (.ok ()) portlessUri)
      dialed = some (.v4 0x7F000001#32, 8080) ∧ asked = some (.v4 0x7F000001#32, 80)
      ∧ asked ≠ dialed := by
  decide

end Tlsurl.Route
