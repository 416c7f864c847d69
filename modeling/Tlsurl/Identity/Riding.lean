import Tlsurl.Client.Handover
import Tlsurl.Identity.Isolation

/-! TLS options and reuse.
The options with which a connection is opened travel in the descriptor, and the group that the
caller gave its emulation stands for them in the id. Requests may ride on the connections of
others whose combination is theirs, whatever their TLS options are.
-/

namespace Tlsurl.Identity

open Library

variable {M T : Type}

section Riding

variable [DecidableEq M]

/-- Every request of the client is for the id of its descriptor, and takes its version from it. -/
def Describes (described : Nat → ConnectionDescriptor M T) (state : Client.State (Group M))
    : Prop :=
  ∀ id request, state.requests.get? id = some request
    → request.key = (described id).id.key
      ∧ request.ver = state.ver (decide ((described id).version = some .http2))

/-- In some run of a client, one for HTTP/2 only or not, a request with the first descriptor opens a
connection that the pool then hands to a request with the second.
-/
def Rides (isVerH2 : Bool) (first second : ConnectionDescriptor M T) : Prop :=
  ∃ (config : Pool.Config) (timerIsEmpty : Bool)
      (earlier later : List (Client.Happening (Group M)))
      (before opened state next : Client.State (Group M)) (opener taker : Nat)
      (value : Pool.ConnId) (described : Nat → ConnectionDescriptor M T),
    Run Client.Happens (.new config timerIsEmpty isVerH2) earlier before
    ∧ Client.Opens before opener value opened
    ∧ Run Client.Happens opened later state
    ∧ Client.Handed state taker value next
    ∧ Describes described state ∧ described opener = first ∧ described taker = second

/-- A request rides only on connections with its own id. -/
theorem Rides.id_eq {isVerH2 : Bool} {first second : ConnectionDescriptor M T}
    (rides : Rides isVerH2 first second)
    : first.id.key = second.id.key := by
  obtain ⟨config, timerIsEmpty, earlier, later, before, opened, state, next, opener, taker, value,
    described, run, opens, rest, handed, describes, rfl, rfl⟩ := rides
  obtain ⟨request, foundOpener⟩ : ∃ request, before.requests.get? opener = some request := by
    obtain ⟨_, _, _, _, request, _, _, found, _⟩ := opens
    exact ⟨request, found⟩
  obtain ⟨asker, foundTaker⟩ : ∃ asker, state.requests.get? taker = some asker := by
    obtain ⟨_, asker, _, found, _⟩ := handed
    exact ⟨asker, found⟩
  obtain ⟨kept, foundKept, key⟩ : ∃ kept, opened.requests.get? opener = some kept
      ∧ kept.key = request.key := by
    obtain ⟨_, _, _, _, step⟩ := opens
    exact step.request_key foundOpener
  obtain ⟨last, foundLast, same⟩ := (Client.run_keeps rest).1 opener kept foundKept
  rw [← (describes opener last foundLast).1, ← (describes taker asker foundTaker).1, same, key]
  exact Client.run_handed_key run foundOpener opens rest foundTaker handed

/-- A request may ride on a connection with its id, which is one of its version. -/
theorem rides_of_id_eq {first second : ConnectionDescriptor M T}
    (same : first.id.key = second.id.key) (version : first.version = second.version)
    (isVerH2 : Bool)
    : Rides isVerH2 first second := by
  obtain ⟨earlier, before, opened, later, state, next, run, opens, rest, handed, made⟩ :=
    Client.exists_handover first.id.key isVerH2 (decide (first.version = some .http2))
  refine ⟨_, _, earlier, later, before, opened, state, next, 0, 1, 0,
    fun id => if id = 0 then first else second, run, opens, rest, handed,
    fun id request found => ?_, rfl, rfl⟩
  obtain ⟨key, ver⟩ := made id request found
  rw [key, ver]
  by_cases opener : id = 0
  · simp only [opener, if_true, and_self]
  · simp only [opener, if_false, same, version, and_self]

/-- Where two requests have emulations with different TLS options, the one rides on a connection
that was opened with the options of the other if and only if base URI, version, proxy, socket
options, group and the group of the emulation are equal.
-/
theorem emulations_kept_apart {firstUri secondUri : Uri} {firstConnect secondConnect : Bool}
    {firstVersion secondVersion : Version} {firstCalls secondCalls : List (BuilderCall M T)}
    {first second : ConnectionDescriptor M T} {firstEmulation secondEmulation : Emulation M T}
    (madeFirst
      : HttpClient.descriptor (.ofCalls firstUri firstConnect firstVersion firstCalls) = .ok first)
    (madeSecond
      : HttpClient.descriptor (.ofCalls secondUri secondConnect secondVersion secondCalls)
        = .ok second)
    (emulatesFirst : lastOf BuilderCall.asksEmulation firstCalls = some firstEmulation)
    (emulatesSecond : lastOf BuilderCall.asksEmulation secondCalls = some secondEmulation)
    (differ : firstEmulation.tlsOptions ≠ secondEmulation.tlsOptions) (isVerH2 : Bool)
    : first.tlsOptions ≠ second.tlsOptions
      ∧ (Rides isVerH2 first second
        ↔ (Combination.of first.uri firstCalls).Same (.of second.uri secondCalls)) := by
  constructor
  · rw [descriptor_tlsOptions madeFirst, descriptor_tlsOptions madeSecond, emulatesFirst,
      emulatesSecond]
    exact differ
  · have isolated := id_key_eq_iff madeFirst madeSecond
    constructor
    · intro rides
      exact isolated.mp rides.id_eq
    · intro same
      apply rides_of_id_eq (isolated.mpr same)
      rw [descriptor_version madeFirst, descriptor_version madeSecond]
      exact same.version

end Riding

/-- The descriptor of a request for `https://a.test/` with an emulation -/
def emulating (tlsOptions : Nat) (group : Group Nat) : ConnectionDescriptor Nat Nat :=
  sampleDescriptor "a.test" [.emulation (.build (some tlsOptions) group)]

/-- Emulations that were built with different groups are kept apart. -/
theorem emulations_kept_apart_groups
    : ¬ Rides false (emulating 1 (.new (.number 1))) (emulating 2 (.new (.number 2))) := by
  have apart := emulations_kept_apart
    (sampleDescriptor_made "a.test" [.emulation (.build (some 1) (.new (.number 1)))])
    (sampleDescriptor_made "a.test" [.emulation (.build (some 2) (.new (.number 2)))])
    rfl rfl (by decide) false
  intro rides
  exact absurd (apart.2.mp rides).emulation (by decide)

/-- Emulations with different TLS options that were built with one group, here the default one,
share a connection.
-/
theorem emulation_options_shared
    : ¬ ∀ (M T : Type) [DecidableEq M] (firstUri secondUri : Uri)
        (firstConnect secondConnect : Bool) (firstVersion secondVersion : Version)
        (firstCalls secondCalls : List (BuilderCall M T))
        (first second : ConnectionDescriptor M T) (firstEmulation secondEmulation : Emulation M T)
        (isVerH2 : Bool),
        HttpClient.descriptor (.ofCalls firstUri firstConnect firstVersion firstCalls) = .ok first
        → HttpClient.descriptor (.ofCalls secondUri secondConnect secondVersion secondCalls)
          = .ok second
        → lastOf BuilderCall.asksEmulation firstCalls = some firstEmulation
        → lastOf BuilderCall.asksEmulation secondCalls = some secondEmulation
        → firstEmulation.tlsOptions ≠ secondEmulation.tlsOptions
        → ¬ Rides isVerH2 first second := by
  intro apart
  have same : (emulating 1 .default).id.key = (emulating 2 .default).id.key := rfl
  exact apart Nat Nat _ _ _ _ _ _ _ _ _ _ _ _ false
    (sampleDescriptor_made "a.test" [.emulation (.build (some 1) .default)])
    (sampleDescriptor_made "a.test" [.emulation (.build (some 2) .default)])
    rfl rfl (by decide) (rides_of_id_eq same rfl false)

end Tlsurl.Identity
