import Tlsurl.Library.Joined
import Tlsurl.Proxy.NoProxy

/-! The bypass list of Windows as a list of hosts that are not reached through a proxy
(`proxy/win.rs`).
Entries are translated one by one, joined, and rid of `*.` all at once; the removal does not
reach beyond an entry.
-/

namespace Tlsurl.Proxy

open Library

-----------------------------------------------------------------------------------------
-- The translation
-----------------------------------------------------------------------------------------

/-- `i32::from_str` -/
def parseI32 (text : String) : Option Int :=
  let (negative, digits) :=
    match text.toList with
    | '-' :: digits => (true, digits)
    | '+' :: digits => (false, digits)
    | digits => (false, digits)
  if digits = [] ∨ digits.all Char.isDigit = false then none
  else
    let magnitude : Int := Nat.ofDigitChars 10 digits 0
    let value := if negative then -magnitude else magnitude
    if -2147483648 ≤ value ∧ value ≤ 2147483647 then some value else none

/-- The four octets with dots between them, a slash, and the length -/
def formatCidr (octets : List Int) (length : Nat) : String :=
  ".".intercalate (octets.map toString) ++ "/" ++ toString length

/-- `ipv4_wildcard_to_cidr`. Nothing makes the octets unsigned, so they are of type `i32`. -/
def ipv4WildcardToCidr (value : String) : Option String :=
  let parts := split value '.'
  (parts.findIdx? (· == "*")).bind fun wildcard =>
    if wildcard = 0 ∨ 3 < wildcard ∨ (parts.drop wildcard).any (· != "*") = true then none
    else
      ((parts.take wildcard).mapM parseI32).map fun octets =>
        formatCidr (octets ++ List.replicate (4 - wildcard) 0) (wildcard * 8)

/-- `str::replace` of `*.` by nothing -/
def removeWildcards (text : String) : String := String.ofList (removePair '*' '.' text.toList)

/-- What `normalize_proxy_override` makes of an entry before it joins the entries -/
def normalizeEntry (entry : String) : String :=
  (ipv4WildcardToCidr (trim entry)).getD (trim entry)

/-- `normalize_proxy_override` -/
def normalizeProxyOverride (value : String) : String :=
  removeWildcards (",".intercalate ((split value ';').map normalizeEntry))

example
    : normalizeProxyOverride "127.*; 10.*.*.*; 192.168.1.*; *.example.com"
      = "127.0.0.0/8,10.0.0.0/8,192.168.1.0/24,example.com" := by
  decide +kernel

end Tlsurl.Proxy
