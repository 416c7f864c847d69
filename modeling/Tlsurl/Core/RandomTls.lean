import Tlsurl.Core.Stream
import Tlsurl.Library.Joined
import Tlsurl.Library.Shuffle
import Tlsurl.Tls.SessionCache

/-! The TLS parameters that a client draws once (`tlsurl-core/random_tls.rs`).
All of them follow from a seed. What the shuffles do with it is a permutation in every state of
the generator, so no seed loses a parameter.
-/

namespace Tlsurl.Core

open Library
open Tls (TlsVersion)

-----------------------------------------------------------------------------------------
-- The generator
-----------------------------------------------------------------------------------------

/-- `Sequence` -/
structure Sequence where
  state : UInt64
  deriving DecidableEq

/-- A slice: its length is a `usize`, which has 64 bits at most. -/
structure Slice (T : Type*) where
  values : Array T
  length : values.size < UInt64.size

namespace Sequence

/-- `Sequence::next` -/
def next (self : Sequence) : UInt64 × Sequence :=
  let state := self.state + 0x9e3779b97f4a7c15
  let z := (state ^^^ (state >>> 30)) * 0xbf58476d1ce4e5b9
  let z := (z ^^^ (z >>> 27)) * 0x94d049bb133111eb
  (z ^^^ (z >>> 31), ⟨state⟩)

/-- The index that `shuffle` draws for another. A division by zero panics. -/
def index (self : Sequence) (i : Nat) : Option (Nat × Sequence) :=
  let bound := UInt64.ofNat i + 1
  if bound = 0 then none else some ((self.next.1 % bound).toNat, self.next.2)

/-- `Sequence::shuffle`; none if it panics, be it for an index that is not one of the slice. -/
def shuffle {T : Type*} (self : Sequence) (values : Array T) : Option (Sequence × Array T) :=
  shuffleFrom index (values.size - 1) self values

end Sequence

-----------------------------------------------------------------------------------------
-- The parameters
-----------------------------------------------------------------------------------------

/-- `TlsOptions`, as far as `options` sets it -/
structure TlsOptions where
  minTlsVersion : Option TlsVersion
  maxTlsVersion : Option TlsVersion
  cipherList : Option String
  sigalgsList : Option String
  curvesList : Option String
  permuteExtensions : Option Bool
  greaseEnabled : Option Bool
  aesHwOverride : Option Bool
  sessionTicket : Bool
  deriving DecidableEq

/-- `u64::from_le_bytes` -/
def fromLeBytes (bytes : Vector UInt8 8) : UInt64 :=
  bytes.toList.foldr (fun byte value => value <<< 8 ||| byte.toUInt64) 0

/-- The seed of `options`: the one that is given, or the bytes that `getrandom` fills -/
def seedOf (seed : Option UInt32) (getrandom : Option (Vector UInt8 8)) : Except Error UInt64 :=
  match seed with
  | some seed => .ok seed.toUInt64
  | none =>
      match getrandom with
      | some bytes => .ok (fromLeBytes bytes)
      | none =>
          .error
            { code := "INVALID_CONFIG"
              message := "could not obtain randomness for TLS configuration" }

/-- The suites that are always offered: one for RSA and one for ECDSA servers -/
def baseCiphers : List String := ["ECDHE-RSA-AES128-GCM-SHA256", "ECDHE-ECDSA-AES128-GCM-SHA256"]

/-- The suites of which some are offered -/
def furtherCiphers : List String :=
  ["ECDHE-RSA-AES256-GCM-SHA384", "ECDHE-ECDSA-AES256-GCM-SHA384", "ECDHE-RSA-CHACHA20-POLY1305",
    "ECDHE-ECDSA-CHACHA20-POLY1305"]

def signatures : List String :=
  ["ecdsa_secp256r1_sha256", "ecdsa_secp384r1_sha384", "rsa_pss_rsae_sha256",
    "rsa_pss_rsae_sha384", "rsa_pkcs1_sha256", "rsa_pkcs1_sha384"]

def curves : List String := ["X25519", "P-256", "P-384"]

/-- A turn of the loop of `options` over the further suites -/
def pushCipher (state : Sequence × Array String) (cipher : String) : Sequence × Array String :=
  (state.1.next.2, if state.1.next.1 &&& 1 = 1 then state.2.push cipher else state.2)

/-- The options that are made of the names in their order -/
def optionsOf (ciphers signatures curves : Array String) : TlsOptions where
  minTlsVersion := some .tls12
  maxTlsVersion := some .tls13
  cipherList := some (":".intercalate ciphers.toList)
  sigalgsList := some (":".intercalate signatures.toList)
  curvesList := some (":".intercalate curves.toList)
  permuteExtensions := some false
  greaseEnabled := some true
  aesHwOverride := some true
  sessionTicket := false

/-- What `options` does with a generator; none if a shuffle panics -/
def drawOptions (sequence : Sequence) : Option TlsOptions :=
  let picked := furtherCiphers.foldl pushCipher (sequence, baseCiphers.toArray)
  (picked.1.shuffle picked.2).bind fun ciphers =>
    (ciphers.1.shuffle signatures.toArray).bind fun signatures =>
      (signatures.1.shuffle curves.toArray).map fun curves =>
        optionsOf ciphers.2 signatures.2 curves.2

/-- `options`; `getrandom` is what it fills its bytes with. -/
def options (seed : Option UInt32) (getrandom : Option (Vector UInt8 8))
    : Option (Except Error TlsOptions) :=
  match seedOf seed getrandom with
  | .error error => some (.error error)
  | .ok seed => (drawOptions ⟨seed⟩).map .ok

-----------------------------------------------------------------------------------------
-- Shuffles
-----------------------------------------------------------------------------------------

/-- An index is drawn among those up to the given one. The bound does not overflow. -/
theorem Sequence.drawsWithin_index {last : Nat} (fits : last + 1 < UInt64.size)
    : DrawsWithin Sequence.index last := by
  intro self i below
  have small : i + 1 < UInt64.size := by omega
  have bound : (UInt64.ofNat i + 1).toNat = i + 1 := by
    rw [UInt64.toNat_add, UInt64.toNat_ofNat', UInt64.toNat_one]
    simp only [UInt64.size] at small
    omega
  have nonzero : UInt64.ofNat i + 1 ≠ 0 := by
    intro zero
    rw [zero] at bound
    simp at bound
  refine ⟨_, _, if_neg nonzero, ?_⟩
  rw [UInt64.toNat_mod, bound]
  exact Nat.le_of_lt_succ (Nat.mod_lt _ (Nat.succ_pos i))

/-- Whatever the state of the generator, a shuffle swaps within the slice and permutes it. -/
theorem Sequence.shuffle_perm {T : Type*} (self : Sequence) (slice : Slice T)
    : ∃ next shuffled, self.shuffle slice.values = some (next, shuffled)
        ∧ shuffled.Perm slice.values := by
  rcases Nat.eq_zero_or_pos slice.values.size with empty | some
  · refine ⟨self, slice.values, ?_, .refl _⟩
    rw [Sequence.shuffle, empty]
    rfl
  · have fits := slice.length
    exact shuffleFrom_perm (Sequence.drawsWithin_index (by omega)) self (by omega)

/-- The same on lists that are short enough to be read off -/
theorem Sequence.shuffle_toArray {T : Type*} (self : Sequence) {values : List T}
    (short : values.length < UInt64.size)
    : ∃ next shuffled, self.shuffle values.toArray = some (next, shuffled)
        ∧ shuffled.toList.Perm values := by
  obtain ⟨next, shuffled, same, perm⟩ := self.shuffle_perm ⟨values.toArray, short⟩
  exact ⟨next, shuffled, same, perm.toList⟩

/-- Of the further suites some are added to those there are, by induction on them. -/
theorem foldl_pushCipher (further : List String) (sequence : Sequence) (ciphers : Array String)
    : ∃ chosen, chosen.Sublist further
        ∧ (further.foldl pushCipher (sequence, ciphers)).2
          = (ciphers.toList ++ chosen).toArray := by
  induction further generalizing sequence ciphers with
  | nil => exact ⟨[], .slnil, by simp⟩
  | cons cipher further ih =>
      rw [List.foldl_cons, pushCipher]
      by_cases drawn : sequence.next.1 &&& 1 = 1
      · obtain ⟨chosen, sublist, same⟩ := ih sequence.next.2 (ciphers.push cipher)
        refine ⟨cipher :: chosen, sublist.cons_cons cipher, ?_⟩
        rw [if_pos drawn, same]
        simp
      · obtain ⟨chosen, sublist, same⟩ := ih sequence.next.2 ciphers
        exact ⟨chosen, sublist.cons cipher, by rw [if_neg drawn, same]⟩

/-- The options are made of permutations, of the signatures and curves as well as of the base
suites with some of the further ones. No shuffle panics.
-/
theorem drawOptions_eq (sequence : Sequence)
    : ∃ chosen ciphers sigalgs groups, chosen.Sublist furtherCiphers
        ∧ ciphers.toList.Perm (baseCiphers ++ chosen) ∧ sigalgs.toList.Perm signatures
        ∧ groups.toList.Perm curves
        ∧ drawOptions sequence = some (optionsOf ciphers sigalgs groups) := by
  have inside {length : Nat} (few : length ≤ 6) : length < UInt64.size := by
    simp only [UInt64.size]
    omega
  obtain ⟨chosen, sublist, same⟩ := foldl_pushCipher furtherCiphers sequence baseCiphers.toArray
  have few : (baseCiphers ++ chosen).length ≤ 6 := by
    have fewer : chosen.length ≤ 4 := sublist.length_le
    simp only [baseCiphers, List.length_append, List.length_cons, List.length_nil]
    omega
  rw [drawOptions]
  generalize furtherCiphers.foldl pushCipher (sequence, baseCiphers.toArray) = picked at same ⊢
  obtain ⟨first, offered⟩ := picked
  obtain rfl : offered = (baseCiphers ++ chosen).toArray := same
  obtain ⟨second, ciphers, drawn, cipherPerm⟩ := first.shuffle_toArray (inside few)
  obtain ⟨third, sigalgs, signed, sigalgPerm⟩ :=
    @Sequence.shuffle_toArray String second signatures (inside (by simp [signatures]))
  obtain ⟨last, groups, curved, curvePerm⟩ :=
    @Sequence.shuffle_toArray String third curves (inside (by simp [curves]))
  refine ⟨chosen, ciphers, sigalgs, groups, sublist, cipherPerm, sigalgPerm, curvePerm, ?_⟩
  rw [drawn, Option.bind_some, signed, Option.bind_some, curved, Option.map_some]

-----------------------------------------------------------------------------------------
-- Complete options
-----------------------------------------------------------------------------------------

/-- The names in a text that lists them with colons -/
def listed (text : Option String) : List String := (text.map (pieces ':')).getD []

/-- Options for every server: the suites are known ones without a repetition, those for RSA and
for ECDSA servers among them, and no signature and no curve is missing or repeated.
-/
structure TlsOptions.Complete (options : TlsOptions) : Prop where
  nodup : (listed options.cipherList).Nodup
  base : ∀ cipher ∈ baseCiphers, cipher ∈ listed options.cipherList
  known : ∀ cipher ∈ listed options.cipherList, cipher ∈ baseCiphers ++ furtherCiphers
  signatures : (listed options.sigalgsList).Perm signatures
  curves : (listed options.curvesList).Perm curves

/-- Names without a colon are listed in the order they were joined in. -/
theorem listed_intercalate {names drawn : List String} (perm : drawn.Perm names)
    (some : names ≠ []) (plain : ∀ name ∈ names, ':' ∉ name.toList)
    : listed (Option.some (":".intercalate drawn)) = drawn := by
  apply pieces_intercalate
  · intro none
    exact some (List.nil_perm.mp (none ▸ perm))
  · intro name member
    exact plain name (perm.mem_iff.mp member)

/-- In every state of the generator complete options are drawn. -/
theorem drawOptions_complete (sequence : Sequence)
    : ∃ built, drawOptions sequence = some built ∧ built.Complete := by
  obtain ⟨chosen, ciphers, sigalgs, groups, sublist, cipherPerm, sigalgPerm, curvePerm, drawn⟩ :=
    drawOptions_eq sequence
  have offered : (baseCiphers ++ chosen).Sublist (baseCiphers ++ furtherCiphers) :=
    sublist.append_left baseCiphers
  have cipherPlain : ∀ name ∈ baseCiphers ++ furtherCiphers, ':' ∉ name.toList := by
    simp [baseCiphers, furtherCiphers]
  have cipherNames := listed_intercalate cipherPerm (by simp [baseCiphers])
    (fun name member => cipherPlain name (offered.subset member))
  have sigalgNames := listed_intercalate sigalgPerm (by simp [signatures]) (by simp [signatures])
  have curveNames := listed_intercalate curvePerm (by simp [curves]) (by simp [curves])
  refine ⟨_, drawn, ?_⟩
  constructor
  · rw [optionsOf, cipherNames]
    exact cipherPerm.nodup_iff.mpr (offered.nodup (by simp [baseCiphers, furtherCiphers]))
  · intro cipher member
    rw [optionsOf, cipherNames]
    exact cipherPerm.mem_iff.mpr (List.mem_append_left chosen member)
  · intro cipher member
    rw [optionsOf, cipherNames] at member
    exact offered.subset (cipherPerm.mem_iff.mp member)
  · rw [optionsOf, sigalgNames]
    exact sigalgPerm
  · rw [optionsOf, curveNames]
    exact curvePerm

/-- A shuffle swaps within the slice and permutes it, in every state of the generator and whatever
the slice. So from every seed, be it given or random, `options` yields complete options.
-/
theorem random_tls_complete
    : (∀ {T : Type} (self : Sequence) (slice : Slice T),
        ∃ next shuffled, self.shuffle slice.values = some (next, shuffled)
          ∧ shuffled.Perm slice.values)
      ∧ ∃ built : UInt64 → TlsOptions,
          (∀ seed, (built seed).Complete)
          ∧ ∀ seed getrandom,
              options seed getrandom = some ((seedOf seed getrandom).map built) := by
  choose built drawn complete using fun seed => drawOptions_complete ⟨seed⟩
  refine ⟨Sequence.shuffle_perm, built, complete, ?_⟩
  intro seed getrandom
  rw [options]
  cases seedOf seed getrandom with
  | error error => rfl
  | ok seed => exact congrArg (Option.map Except.ok) (drawn seed)

end Tlsurl.Core
