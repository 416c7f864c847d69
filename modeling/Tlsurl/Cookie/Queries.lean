import Mathlib.Data.List.MinMax
import Tlsurl.Cookie.Jar

/-! What a jar answers (`cookie/jar.rs`): its read operations, each at a time of its own. -/

namespace Tlsurl.Cookie

namespace Jar

/-- `Jar::get` -/
def get (parsers : Parsers) (jar : Store) (name : Str) (uri : Uri) (now : Time)
    : Option RawCookie := do
  let uri ← uri.intoUri
  let host ← uri.host.bind (canonicalHost parsers.hostParse)
  let pathMap ← jar.cookies.lookup host
  let cookieMap ← pathMap.lookup uri.path
  let entry ← ((cookieMap.entries name).filter
    (fun entry => !cookieIsExpired entry.cookie now)).argmin CookieEntry.creationIndex
  some entry.cookie

/-- `Jar::contains` -/
def contains (parsers : Parsers) (jar : Store) (name : Str) (uri : Uri) (now : Time) : Bool :=
  match uri.intoUri with
  | none => false
  | some uri =>
      match uri.host.bind (canonicalHost parsers.hostParse) with
      | none => false
      | some host =>
          ((jar.cookies.lookup host).bind (fun pathMap => pathMap.lookup uri.path)).any
            (fun cookieMap =>
              (cookieMap.entries name).any (fun entry => !cookieIsExpired entry.cookie now))

/-- The unexpired entries in the order of the maps. -/
def live (jar : Store) (now : Time) : List CookieEntry :=
  jar.cookies.entries.flatMap (fun byDomain =>
    byDomain.2.entries.flatMap (fun byPath =>
      byPath.2.values.filter (fun entry => !cookieIsExpired entry.cookie now)))

/-- `Jar::get_all` -/
def getAll (jar : Store) (now : Time) : List RawCookie :=
  ((live jar now).insertionSort (fun left right => left.creationIndex ≤ right.creationIndex)).map
    CookieEntry.cookie

/-- `Jar::len` -/
def len (jar : Store) (now : Time) : Nat := (live jar now).length

/-- `Jar::is_empty` -/
def isEmpty (jar : Store) (now : Time) : Bool :=
  !jar.cookies.entries.any (fun byDomain =>
    byDomain.2.entries.any (fun byPath =>
      byPath.2.values.any (fun entry => !cookieIsExpired entry.cookie now)))

/-- `Jar::matches` -/
def «matches» (parsers : Parsers) (jar : Store) (uri : Uri) (now : Time) : List RawCookie :=
  match uri.intoUri with
  | none => []
  | some uri =>
      match uri.host.bind (canonicalHost parsers.hostParse) with
      | none => []
      | some host => (jar.matchingCookies uri host now).map (fun item => item.2.2.cookie)

end Jar

end Tlsurl.Cookie
