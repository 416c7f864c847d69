import Mathlib.Init

/-! Rust strings and byte slices as lists of bytes.
Lengths, prefixes and suffixes of a `str` are those of its UTF-8 bytes.
-/

namespace Tlsurl

/-- A `str` or `[u8]`. -/
abbrev Str := List UInt8

/-- The bytes of an ASCII literal. -/
def ascii (text : String) : Str := text.toList.map (fun char => char.toNat.toUInt8)

/-- `u8::to_ascii_lowercase` -/
def toAsciiLowercase (byte : UInt8) : UInt8 :=
  if 65 ≤ byte ∧ byte ≤ 90 then byte + 32 else byte

/-- `str::eq_ignore_ascii_case` -/
def eqIgnoreAsciiCase (left right : Str) : Bool :=
  left.map toAsciiLowercase == right.map toAsciiLowercase

theorem eqIgnoreAsciiCase_iff {left right : Str}
    : eqIgnoreAsciiCase left right = true
      ↔ left.map toAsciiLowercase = right.map toAsciiLowercase := by
  simp [eqIgnoreAsciiCase]

end Tlsurl
