import Tlsurl.Failure.Connect

/-! Which code a caller is told when a connection fails.
A route stops at a step. Whether the error of the step can still be seen depends on the leg of the
route that the step belongs to: a SOCKS proxy hides what failed on the way to it.
-/

namespace Tlsurl.Failure

open Identity Library Net Proxy Route

variable {Net Path T α : Type}

-----------------------------------------------------------------------------------------
-- Legs
-----------------------------------------------------------------------------------------

/-- The steps of the routes by what they do -/
inductive StepKind where
  | build
  | opening
  | socks
  | tunnel
  | handshake
  | nodelay
  deriving DecidableEq

def kindOf : Route.Step Path T → StepKind
  | .build _ => .build
  | .tcp _ _ => .opening
  | .unix _ => .opening
  | .socks _ _ _ _ _ => .socks
  | .tunnel _ _ _ => .tunnel
  | .handshake _ _ => .handshake
  | .nodelay _ => .nodelay

/-- Whether a tunnel was asked for -/
def tunnelled (history : List (Route.Step Path T)) : Bool :=
  history.any (fun step => kindOf step = .tunnel)

/-- The part of a route that a step belongs to: the way to a SOCKS proxy and through it, the way
to a proxy of HTTP or a socket and through it, or what is done for the target itself
-/
inductive Leg where
  | socks
  | proxy
  | target
  deriving DecidableEq

/-- The leg of a step on the route to a URI, after a tunnel or not -/
def leg (uri : Uri) (intercepted : Option (Intercepted Path)) (tunnelled : Bool)
    (kind : StepKind)
    : Leg :=
  match intercepted with
  | none => .target
  | some (.unix _) => if uri.isHttps && !tunnelled then .proxy else .target
  | some (.proxy proxy) =>
      if (ConnectorService.socksScheme proxy.uri).isSome then
        if kind = .opening ∨ kind = .socks then .socks else .target
      else if uri.isHttps then if tunnelled ∨ kind = .build then .target else .proxy
      else .proxy

/-- What a step of a kind may fail with: an exchange with a proxy has an error of its own type, the
other steps none of these; and no error of the client is behind any of them.
-/
def Raises : StepKind → Cause → Prop
  | .socks, own => own.ofSocks = true
  | .tunnel, own => own.ofTunnel = true ∧ own.shows Cause.connects = false
  | _, own => own.ofProxy = false ∧ own.shows Cause.connects = false

/-- A world whose steps fail with what they may fail with -/
def Honest (world : List (Route.Step Path T) → Route.Step Path T → Option Cause) : Prop :=
  ∀ earlier step own, world earlier step = some own → Raises (kindOf step) own

-----------------------------------------------------------------------------------------
-- Codes
-----------------------------------------------------------------------------------------

/-- The code of a step that failed on a leg with an error of its own -/
def codeAt (place : Leg) (own : Cause) : String :=
  if place = .socks then "REQUEST"
  else if own.shows Cause.timed then "TIMEOUT"
  else if own.shows Cause.resolves then "DNS"
  else if place = .target then "CONNECT"
  else "REQUEST"

/-- The error of the core for a connection that failed -/
def connectError (uri : Uri) (cause : Cause) : Core.Error :=
  coreError (pendingError uri (clientError .connect cause))

/-- What a leg makes of the error of a step -/
def Told : Leg → Cause → Cause → Prop
  | .socks, _, cause => cause.ofSocks = true
  | .proxy, own, cause =>
      cause.ofProxy = true ∧ cause.shows Cause.connects = false
        ∧ cause.shows Cause.timed = own.shows Cause.timed
        ∧ cause.shows Cause.resolves = own.shows Cause.resolves
  | .target, own, cause =>
      cause = own ∧ own.ofProxy = false ∧ own.shows Cause.connects = false

/-- A `SocksError` shows nothing of what it holds. -/
theorem ofSocks_shows {cause : Cause} (socks : cause.ofSocks = true)
    : cause.shows Cause.timed = false ∧ cause.shows Cause.resolves = false
      ∧ cause.shows Cause.connects = false := by
  cases cause with
  | socks failure => exact ⟨rfl, rfl, rfl⟩
  | socksOver failure held => exact ⟨rfl, rfl, rfl⟩
  | _ => cases socks

/-- The code of a failed connection, by what can be seen of its error -/
theorem connectError_code (uri : Uri) (cause : Cause)
    : (connectError uri cause).code
      = if cause.shows Cause.timed then "TIMEOUT"
        else if cause.shows Cause.resolves then "DNS"
        else if !cause.ofProxy || cause.shows Cause.connects then "CONNECT"
        else "REQUEST" := by
  have pending : pendingError uri (clientError .connect cause)
      = { kind := .request, source := clientError .connect cause, uri := some uri } := rfl
  have behind (test : Cause → Bool) (kind : ErrorKind)
      : (Cause.client kind cause).shows test
        = (test (.client kind cause) || cause.shows test) := rfl
  rw [connectError, coreError, pending]
  simp only [errorCode, Error.isTimeout, Error.isBuilder, Error.isTls, Error.isDns,
    Error.isConnect, clientError, behind, Cause.timed, Cause.resolves, Cause.connects,
    Bool.false_or]
  cases cause.ofProxy <;> simp

theorem Told.code {place : Leg} {own cause : Cause} (told : Told place own cause) (uri : Uri)
    : (connectError uri cause).code = codeAt place own := by
  rw [connectError_code]
  cases place with
  | socks =>
      have hidden := ofSocks_shows told
      have proxied : cause.ofProxy = true := by simp [Cause.ofProxy, show cause.ofSocks from told]
      simp [codeAt, hidden, proxied]
  | proxy =>
      obtain ⟨proxied, alone, timed, resolves⟩ := told
      simp [codeAt, proxied, alone, timed, resolves]
  | target =>
      obtain ⟨rfl, proxied, alone⟩ := told
      simp [codeAt, proxied]

theorem told_target {own : Cause}
    (raised : own.ofProxy = false ∧ own.shows Cause.connects = false)
    : Told .target own own :=
  ⟨rfl, raised⟩

/-- An error that is not one of a proxy, inside a `ProxyConnect` -/
theorem told_proxyConnect {own : Cause} (alone : own.shows Cause.connects = false)
    : Told .proxy own (.proxyConnect own) :=
  ⟨rfl, alone, rfl, rfl⟩

theorem told_connectFailed {own : Cause} (alone : own.shows Cause.connects = false)
    : Told .proxy own (.tunnelOver .connectFailed own) :=
  ⟨rfl, alone, rfl, rfl⟩

theorem told_tunnel {own : Cause}
    (raised : own.ofTunnel = true ∧ own.shows Cause.connects = false)
    : Told .proxy own own :=
  ⟨by simp [Cause.ofProxy, raised.1], raised.2, rfl, rfl⟩

-----------------------------------------------------------------------------------------
-- Where the parts of the routes fail
-----------------------------------------------------------------------------------------

section Parts

variable {world : List (Route.Step Path T) → Route.Step Path T → Option Cause}
variable {kinds : List StepKind} {before : Bool}

/-- A part fails at a step of one of these kinds, with the error of this step. -/
def FailsAt (world : List (Route.Step Path T) → Route.Step Path T → Option Cause)
    (kinds : List StepKind) (before : Bool) (error : Route.BoxError Cause)
    (history : List (Route.Step Path T))
    : Prop :=
  ∃ step earlier own, history = step :: earlier ∧ world earlier step = some own
    ∧ error = .step own ∧ kindOf step ∈ kinds ∧ tunnelled earlier = before

/-- A part that asks for no tunnel and fails at a step of one of these kinds -/
def Part (world : List (Route.Step Path T) → Route.Step Path T → Option Cause)
    (kinds : List StepKind) (run : Route.Connecting Path T Cause α)
    : Prop :=
  ∀ before, Traced.Settles (fun history => tunnelled history = before) run
    (fun _ history => tunnelled history = before) (FailsAt world kinds before)

theorem tunnelled_cons {step : Route.Step Path T} {history : List (Route.Step Path T)}
    (other : kindOf step ≠ .tunnel)
    : tunnelled (step :: history) = tunnelled history := by
  simp [tunnelled, other]

theorem part_pure (value : α) : Part world kinds (pure value) :=
  fun _ => .pure (fun _ start => start)

theorem part_perform {step : Route.Step Path T} (kind : kindOf step ∈ kinds)
    (other : kindOf step ≠ .tunnel)
    : Part world kinds (Traced.perform (plain world) step) := by
  intro before
  apply Traced.Settles.perform
  · intro history start
    exact (tunnelled_cons other).trans start
  · intro history error start failed
    obtain ⟨own, raised, same⟩ := Option.map_eq_some_iff.mp failed
    exact ⟨step, history, own, rfl, raised, same.symm, kind, start⟩

theorem Part.bind {β : Type} {first : Route.Connecting Path T Cause α}
    {second : α → Route.Connecting Path T Cause β} (one : Part world kinds first)
    (two : ∀ value, Part world kinds (second value))
    : Part world kinds (first >>= second) :=
  fun before => (one before).bind _ (fun value => two value before)

theorem transport_part (self : Transport Path) (dst : Uri) (opening : .opening ∈ kinds)
    : Part world kinds (self.call (T := T) (plain world) dst) := by
  cases self with
  | http connector => exact part_perform opening (by simp [kindOf])
  | unix path => exact part_perform opening (by simp [kindOf])

theorem secure_part (self : HttpsConnector Path T) (uri : Uri) (handshake : .handshake ∈ kinds)
    : Part world kinds (self.secure (plain world) uri) := by
  rw [HttpsConnector.secure]
  split
  · exact part_pure _
  · exact (part_perform handshake (by simp [kindOf])).bind (fun _ => part_pure _)

theorem callUri_part (self : HttpsConnector Path T) (uri : Uri) (opening : .opening ∈ kinds)
    (handshake : .handshake ∈ kinds)
    : Part world kinds (self.callUri (plain world) uri) := by
  rw [HttpsConnector.callUri]
  refine (transport_part self.http uri opening).bind (fun _ => ?_)
  split
  · exact (part_perform handshake (by simp [kindOf])).bind (fun _ => part_pure _)
  · exact part_pure _

theorem call_part {M : Type} (self : HttpsConnector Path T) (descriptor : ConnectionDescriptor M T)
    (opening : .opening ∈ kinds) (handshake : .handshake ∈ kinds)
    : Part world kinds (self.call (plain world) descriptor) :=
  (transport_part self.http descriptor.uri opening).bind
    (fun _ => secure_part self descriptor.uri handshake)

variable {self : ConnectorService Net Path}
variable {descriptor : ConnectionDescriptor (Matcher Net Path) T}

theorem build_part (https : Bool) (build : .build ∈ kinds)
    : Part world kinds (self.buildHttpsConnector (plain world) descriptor https) := by
  rw [ConnectorService.buildHttpsConnector]
  cases descriptor.tlsOptions with
  | none => exact part_pure _
  | some options => exact (part_perform build (by simp [kindOf])).bind (fun _ => part_pure _)

theorem reenable_part (https : Bool) (nodelay : .nodelay ∈ kinds)
    : Part world kinds (self.reenable (T := T) (plain world) https) := by
  rw [ConnectorService.reenable]
  split
  · exact part_perform nodelay (by simp [kindOf])
  · exact part_pure _

/-- The kinds of the steps that involve no proxy -/
def ownKinds : List StepKind := [.build, .opening, .handshake, .nodelay]

theorem connectAutoProxy_part (proxy : Option Intercept)
    : Part world ownKinds (self.connectAutoProxy (plain world) descriptor proxy) := by
  rw [ConnectorService.connectAutoProxy]
  refine (build_part _ (by simp [ownKinds])).bind (fun connector => ?_)
  refine (call_part _ _ (by simp [ownKinds]) (by simp [ownKinds])).bind (fun io => ?_)
  exact (reenable_part _ (by simp [ownKinds])).bind (fun _ => part_pure _)

end Parts

-----------------------------------------------------------------------------------------
-- Where the routes fail
-----------------------------------------------------------------------------------------

/-- A route stops with what a leg makes of the error of its last step, or for want of a host. -/
def Stops (world : List (Route.Step Path T) → Route.Step Path T → Option Cause) (uri : Uri)
    (intercepted : Option (Intercepted Path)) (cause : Cause)
    (history : List (Route.Step Path T))
    : Prop :=
  (∃ step earlier own, history = step :: earlier ∧ world earlier step = some own
      ∧ Told (leg uri intercepted (tunnelled earlier) (kindOf step)) own cause)
    ∨ uri.host = none ∧ (cause = .tunnel .missingHost ∨ cause = .socks .missingHost)

section Routes

variable {world : List (Route.Step Path T) → Route.Step Path T → Option Cause}
variable {intercepted : Option (Intercepted Path)} {uri : Uri} {before : Bool}
variable {self : ConnectorService Net Path}
variable {descriptor : ConnectionDescriptor (Matcher Net Path) T}

/-- A part whose steps are all of one leg stops with what the leg makes of their errors. -/
theorem Part.stops {kinds : List StepKind} {run : Route.Connecting Path T Cause α}
    (part : Part world kinds run) (honest : Honest world) (own : kinds ⊆ ownKinds)
    (change : Cause → Cause) (place : Leg)
    (here : ∀ kind ∈ kinds, leg uri intercepted before kind = place)
    (told : ∀ own : Cause, own.ofProxy = false ∧ own.shows Cause.connects = false →
      Told place own (change own))
    : Traced.Settles (fun history => tunnelled history = before) ((lift run).mapErr change)
      (fun _ history => tunnelled history = before) (Stops world uri intercepted) := by
  refine Traced.Settles.mapErr (Traced.Settles.mapErr ?_)
  refine (part before).weaken (fun _ start => start) (fun _ _ after => after) ?_
  rintro error history ⟨step, earlier, own', rfl, failed, rfl, kind, same⟩
  refine .inl ⟨step, earlier, own', rfl, failed, ?_⟩
  rw [same, here _ kind]
  apply told
  have raises := honest earlier step own' failed
  have among := own kind
  cases same' : kindOf step <;> simp_all [ownKinds, Raises]

/-- The same for a part that puts nothing around its errors on the leg of the target -/
theorem Part.stops_target {kinds : List StepKind} {run : Route.Connecting Path T Cause α}
    (part : Part world kinds run) (honest : Honest world) (own : kinds ⊆ ownKinds)
    (here : ∀ kind ∈ kinds, leg uri intercepted before kind = .target)
    : Traced.Settles (fun history => tunnelled history = before) (lift run)
      (fun _ history => tunnelled history = before) (Stops world uri intercepted) := by
  have stops := part.stops honest own id .target here (fun _ raised => told_target raised)
  refine fun history start => ?_
  have same := stops history start
  rw [Traced.mapErr] at same
  cases result : lift run history with
  | mk outcome later =>
      rw [result] at same
      cases outcome <;> exact same

/-- What follows a part on the leg of the target, and the end of a route -/
theorem callTunnel_stops {proxyDst : Uri} {inner : HttpsConnector Path T} {headers : TunnelHeaders}
    (honest : Honest world)
    (here : ∀ kind, kind ≠ .build → leg uri intercepted false kind = .proxy)
    : Traced.Settles (fun history => tunnelled history = false)
      (callTunnel world proxyDst inner headers uri)
      (fun _ history => tunnelled history = true) (Stops world uri intercepted) := by
  rw [callTunnel]
  have part : Part world [.opening, .handshake] (inner.callUri (plain world) proxyDst) :=
    callUri_part inner proxyDst (by simp) (by simp)
  refine Traced.Settles.bind _ (part.stops honest (by simp [ownKinds]) _ .proxy ?_
    (fun _ raised => told_connectFailed raised.2)) (fun _ => ?_)
  · intro kind among
    apply here
    rintro rfl
    simp at among
  · cases host : uri.host with
    | none => exact .stop (fun _ _ => .inr ⟨host, .inl rfl⟩)
    | some name =>
        apply Traced.Settles.perform
        · intro history _
          simp [tunnelled, kindOf]
        · intro history own start failed
          refine .inl ⟨_, history, own, rfl, failed, ?_⟩
          rw [start, here _ (by simp [kindOf])]
          exact told_tunnel (honest _ _ _ failed)

theorem callSocks_stops {proxyDst : Uri} {inner : HttpConnector} {auth : Option (Str × Str)}
    {version : SocksVersion} {dnsResolve : DnsResolve} (honest : Honest world)
    (here : ∀ kind, kind = .opening ∨ kind = .socks → leg uri intercepted before kind = .socks)
    : Traced.Settles (fun history => tunnelled history = before)
      (callSocks world proxyDst inner auth version dnsResolve uri)
      (fun _ history => tunnelled history = before) (Stops world uri intercepted) := by
  rw [callSocks]
  cases host : uri.host with
  | none => exact .stop (fun _ _ => .inr ⟨host, .inr rfl⟩)
  | some name =>
      refine Traced.Settles.bind (fun _ history => tunnelled history = before)
        (Traced.Settles.mapErr ?_) (fun _ => ?_)
      · apply Traced.Settles.perform
        · intro history start
          exact (tunnelled_cons (by simp [kindOf])).trans start
        · intro history own start failed
          refine .inl ⟨_, history, own, rfl, failed, ?_⟩
          rw [start, kindOf, here _ (.inl rfl)]
          exact rfl
      · apply Traced.Settles.perform
        · intro history start
          exact (tunnelled_cons (by simp [kindOf])).trans start
        · intro history own start failed
          refine .inl ⟨_, history, own, rfl, failed, ?_⟩
          rw [start, kindOf, here _ (.inr rfl)]
          exact honest _ _ _ failed

theorem connectViaSocks_stops {proxy : Intercept} {version : SocksVersion}
    {dnsResolve : DnsResolve} (honest : Honest world)
    (socks : (ConnectorService.socksScheme proxy.uri).isSome = true)
    : Traced.Settles (fun history => tunnelled history = false)
      (connectViaSocks world self descriptor proxy version dnsResolve) (fun _ _ => True)
      (Stops world descriptor.uri (some (.proxy proxy) : Option (Intercepted Path))) := by
  have onward (kind : StepKind) (opening : kind ≠ .opening) (exchange : kind ≠ .socks)
      : leg descriptor.uri (some (.proxy proxy) : Option (Intercepted Path)) false kind
        = .target := by
    simp [leg, socks, opening, exchange]
  rw [connectViaSocks]
  refine (callSocks_stops honest ?_).bind _ (fun _ => ?_)
  · intro kind among
    simp only [leg, socks, if_true]
    exact if_pos among
  have targets {α : Type} {run : Route.Connecting Path T Cause α}
      (part : Part world [.build, .handshake, .nodelay] run)
      : Traced.Settles (fun history => tunnelled history = false) (lift run)
        (fun _ history => tunnelled history = false)
        (Stops world descriptor.uri (some (.proxy proxy) : Option (Intercepted Path))) :=
    part.stops_target honest (by simp [ownKinds])
      (fun kind among => onward kind (by rintro rfl; simp at among) (by rintro rfl; simp at among))
  refine (targets (build_part _ (by simp))).bind _ (fun connector => ?_)
  refine (targets (secure_part connector _ (by simp))).bind _ (fun io => ?_)
  exact (targets (reenable_part _ (by simp))).bind _ (fun _ => .pure (fun _ _ => trivial))

theorem connectViaTunnel_stops {proxy : Intercept} (honest : Honest world)
    (plainProxy : ConnectorService.socksScheme proxy.uri = none)
    (secured : descriptor.uri.isHttps = true)
    : Traced.Settles (fun history => tunnelled history = false)
      (connectViaTunnel world self descriptor proxy) (fun _ _ => True)
      (Stops world descriptor.uri (some (.proxy proxy) : Option (Intercepted Path))) := by
  have beyond {α : Type} {run : Route.Connecting Path T Cause α} (part : Part world ownKinds run)
      : Traced.Settles (fun history => tunnelled history = true) (lift run)
        (fun _ history => tunnelled history = true)
        (Stops world descriptor.uri (some (.proxy proxy) : Option (Intercepted Path))) :=
    part.stops_target honest (List.Subset.refl _)
      (fun kind _ => by simp [leg, plainProxy, secured])
  have build
      : Part world [.build] (self.buildHttpsConnector (plain world) descriptor true) :=
    build_part true (by simp)
  rw [connectViaTunnel]
  refine (build.stops_target honest (by simp [ownKinds]) ?_).bind _ (fun connector => ?_)
  · intro kind among
    obtain rfl := List.mem_singleton.mp among
    simp [leg, plainProxy, secured]
  refine (callTunnel_stops honest ?_).bind _ (fun _ => ?_)
  · intro kind other
    simp [leg, plainProxy, secured, other]
  refine (beyond (secure_part connector _ (by simp [ownKinds]))).bind _ (fun io => ?_)
  exact (beyond (reenable_part _ (by simp [ownKinds]))).bind _
    (fun _ => .pure (fun _ _ => trivial))

theorem connectViaUnix_stops (path : Path) (honest : Honest world)
    : Traced.Settles (fun history => tunnelled history = false)
      (connectViaUnix world self descriptor path) (fun _ _ => True)
      (Stops world descriptor.uri (some (.unix path))) := by
  rw [connectViaUnix]
  cases secured : descriptor.uri.isHttps with
  | true =>
      simp only [if_true]
      refine (callTunnel_stops honest ?_).bind _ (fun _ => ?_)
      · intro kind _
        simp [leg, secured]
      have part
          : Part world ownKinds
              (HttpsConnector.secure (plain world)
                { http := .unix path, tls := { options := none } } descriptor.uri) :=
        secure_part _ _ (by simp [ownKinds])
      refine (part.stops_target honest (List.Subset.refl _) ?_).bind _
        (fun io => .pure (fun _ _ => trivial))
      intro kind _
      simp [leg, secured]
  | false =>
      simp only [Bool.false_eq_true, if_false]
      have part
          : Part world ownKinds
              (HttpsConnector.call (plain world) { http := .unix path, tls := { options := none } }
                descriptor) :=
        call_part _ _ (by simp [ownKinds]) (by simp [ownKinds])
      refine (part.stops_target honest (List.Subset.refl _) ?_).bind _
        (fun io => .pure (fun _ _ => trivial))
      intro kind _
      simp [leg, secured]

/-- Every route stops with what a leg makes of the error of its last step. -/
theorem routeAuto_stops (nets : IpNets Net) (honest : Honest world)
    : Traced.Settles (fun history => tunnelled history = false)
      (routeAuto world self descriptor nets) (fun _ _ => True)
      (Stops world descriptor.uri (self.intercepted descriptor nets)) := by
  rw [routeAuto]
  cases self.intercepted descriptor nets with
  | none =>
      refine ((connectAutoProxy_part none).stops_target honest (List.Subset.refl _) ?_).weaken
        (fun _ start => start) (fun _ _ _ => trivial) (fun _ _ stops => stops)
      exact fun kind _ => rfl
  | some intercepted =>
      cases intercepted with
      | unix path => exact connectViaUnix_stops path honest
      | proxy proxy =>
          simp only [connectViaProxy]
          cases socks : ConnectorService.socksScheme proxy.uri with
          | some kind => exact connectViaSocks_stops honest (by simp [socks])
          | none =>
              cases secured : descriptor.uri.isHttps with
              | true => exact connectViaTunnel_stops honest socks secured
              | false =>
                  simp only [Bool.false_eq_true, if_false]
                  refine ((connectAutoProxy_part (some proxy)).stops honest (List.Subset.refl _)
                    _ .proxy ?_ (fun _ raised => told_proxyConnect raised.2)).weaken
                    (fun _ start => start) (fun _ _ _ => trivial) (fun _ _ stops => stops)
                  intro kind _
                  simp [leg, socks, secured]

end Routes

-----------------------------------------------------------------------------------------
-- What the caller is told
-----------------------------------------------------------------------------------------

/-- For want of a host, a proxy is not asked. -/
theorem missingHost_code {cause : Cause}
    (missing : cause = .tunnel .missingHost ∨ cause = .socks .missingHost) (uri : Uri)
    : (connectError uri cause).code = "REQUEST" := by
  rw [connectError_code]
  rcases missing with rfl | rfl <;> rfl

/-- What a code tells of a connection that failed: it took too long; a step failed, which is the
last one that was performed; or it was to be made over a proxy to a URI without a host.
-/
inductive Explains (world : List (Route.Step Path T) → Route.Step Path T → Option Cause)
    (self : ConnectorService Net Path) (descriptor : ConnectionDescriptor (Matcher Net Path) T)
    (nets : IpNets Net) (elapsed : Bool)
    : String → Prop
  | timeout (late : elapsed = true)
    : Explains world self descriptor nets elapsed "TIMEOUT"
  | step {step : Route.Step Path T} {earlier : List (Route.Step Path T)} {own : Cause}
    (within : elapsed = false)
    (last : (routeAuto world self descriptor nets []).2 = step :: earlier)
    (raised : world earlier step = some own)
    : Explains world self descriptor nets elapsed
        (codeAt
          (leg descriptor.uri (self.intercepted descriptor nets) (tunnelled earlier) (kindOf step))
          own)
  | noHost (within : elapsed = false) (missing : descriptor.uri.host = none)
    : Explains world self descriptor nets elapsed "REQUEST"

/-- When a connection fails, in whatever way its steps may fail, the wrappers of both languages tell
the caller one code: that of the leg on which the last step failed, or of the timeout.
-/
theorem failed_connection_explained
    (world : List (Route.Step Path T) → Route.Step Path T → Option Cause) (honest : Honest world)
    (self : ConnectorService Net Path) (descriptor : ConnectionDescriptor (Matcher Net Path) T)
    (nets : IpNets Net) (elapsed : Bool) (uri : Uri) {cause : Cause}
    (failed : connectAuto world self descriptor nets elapsed = .error cause)
    : Explains world self descriptor nets elapsed
        (convertError (exceptionText (connectError uri cause))).code
      ∧ (pythonError (exceptionText (connectError uri cause))).code
        = (convertError (exceptionText (connectError uri cause))).code := by
  have coded : IsCode (connectError uri cause).code.toList := errorCode_isCode _
  rw [convertError_exceptionText _ coded, pythonError_exceptionText _ coded]
  refine ⟨?_, rfl⟩
  cases elapsed with
  | true =>
      obtain rfl := Except.error.inj failed
      exact .timeout rfl
  | false =>
      have stopped : routeAuto world self descriptor nets []
          = (.error cause, (routeAuto world self descriptor nets []).2) :=
        Prod.ext failed rfl
      rcases (routeAuto_stops nets honest).error rfl stopped with
        ⟨step, earlier, own, last, raised, told⟩ | ⟨missing, without⟩
      · change Explains world self descriptor nets false (connectError uri cause).code
        rw [told.code uri]
        exact .step rfl last raised
      · change Explains world self descriptor nets false (connectError uri cause).code
        rw [missingHost_code without uri]
        exact .noHost rfl missing

/-- No name can be resolved. -/
def unresolved : List (Route.Step Unit Unit) → Route.Step Unit Unit → Option Cause
  | _, .tcp _ _ => some (.connect "dns error" (.dns (.io .other "no such host")))
  | _, _ => none

theorem unresolved_honest : Honest unresolved := by
  intro earlier step own raised
  cases step with
  | tcp dst options =>
      obtain rfl := Option.some.inj raised
      exact ⟨rfl, rfl⟩
  | _ => cases raised

/-- A client all of whose requests go over a SOCKS proxy -/
def socksClient : ClientConfig Empty Unit where
  proxies :=
    let proxy : Intercept :=
      { uri :=
          { scheme := some (.other (ascii "socks5")), authority := some { host := ascii "proxy" }
            path := ascii "/" }
        auth := .empty
        extra := {} }
    [{ http := some proxy, https := some proxy }]

/-- A request for a target of `https` -/
def hiddenTarget : ConnectionDescriptor (Matcher Empty Unit) Unit :=
  .new
    { scheme := some .https, authority := some { host := ascii "a.test" }, path := ascii "/" }
    .default none none none none

/-- A SOCKS proxy hides that a name could not be resolved. -/
theorem failed_connection_explained_socks
    : ∃ cause,
      connectAuto unresolved socksClient.connector hiddenTarget noNets false = .error cause
      ∧ (connectError hiddenTarget.uri cause).code = "REQUEST"
      ∧ Explains unresolved socksClient.connector hiddenTarget noNets false
        (convertError (exceptionText (connectError hiddenTarget.uri cause))).code := by
  have failed
      : connectAuto unresolved socksClient.connector hiddenTarget noNets false
        = .error (.socksOver .connectFailed
          (.connect "dns error" (.dns (.io .other "no such host")))) :=
    rfl
  exact ⟨_, failed, by decide,
    (failed_connection_explained unresolved unresolved_honest _ _ _ _ _ failed).1⟩

end Tlsurl.Failure
