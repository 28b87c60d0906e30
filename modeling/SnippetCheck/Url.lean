import SnippetCheck.Text.Start
import SnippetCheck.Url.Host

/-! Absolute addresses in their normal form: no blanks around it, scheme and host in lower case, no
endpoint number where the scheme has it anyway, no steps `.` and `..` in the path, and encoded what
the form does not allow. -/

namespace SnippetCheck

/-- An absolute address: its scheme and, in normal form, the whole of it. -/
structure Url where
  scheme : String
  text : String
deriving DecidableEq, Repr

namespace Url

open Text

/-- The text without control characters and blanks at either end, and without tabs and line ends
anywhere. -/
def tidy (s : List Char) : List Char :=
  let isEdge (c : Char) : Bool := c.toNat ≤ 0x20
  let s := ((s.dropWhile isEdge).reverse.dropWhile isEdge).reverse
  s.filter fun c => c != '\t' && c != '\n' && c != '\r'

def scheme? (s : List Char) : Option (List Char × List Char) := do
  let inScheme (c : Char) : Bool := c.isAlphanum || c == '+' || c == '-' || c == '.'
  let name := s.takeWhile inScheme
  guard (name.head?.any Char.isAlpha)
  let rest ← after? [':'] (s.dropWhile inScheme)
  return (name.map Char.toLower, rest)

/-- The schemes whose addresses name a host, each with the number of its endpoint there. -/
def endpoints : List (String × Nat) :=
  [("http", 80), ("https", 443), ("ws", 80), ("wss", 443), ("ftp", 21)]

def isWeb (scheme : String) : Bool := scheme == "http" || scheme == "https"

def splitAt (stop : Char → Bool) (s : List Char) : List Char × List Char :=
  (s.takeWhile (!stop ·), s.dropWhile (!stop ·))

/-- The text after the last `@`, before which a user may be named. -/
def dropUser (authority : List Char) : List Char :=
  (authority.reverse.takeWhile (· != '@')).reverse

/-- The host and the endpoint's number after it, if there is a colon outside of brackets. -/
def splitEndpoint (s : List Char) : List Char × Option (List Char) :=
  let tail := (s.reverse.takeWhile fun c => c != ':' && c != ']').reverse
  let before := s.take (s.length - tail.length)
  if before.getLast? = some ':' then (before.dropLast, some tail) else (s, none)

/-- The endpoint's number in normal form: none where it is the one that the scheme has anyway. -/
def endpoint? (default : Option Nat) : Option (List Char) → Option (List Char)
  | none => some []
  | some [] => some []
  | some ds => do
    guard (ds.all Char.isDigit)
    let n := Numeral.ofDigits ds
    guard (n < 0x10000)
    return if some n = default then [] else ':' :: n.repr.toList

def pathReserved : List Char := " \"#<>?`\x7b\x7d".toList

def queryReserved : List Char := " \"#<>'".toList

def fragmentReserved : List Char := " \"<>`".toList

def isDot (step : List Char) : Bool :=
  [".", "%2e"].contains (String.ofList (step.map Char.toLower))

def isDoubleDot (step : List Char) : Bool :=
  ["..", ".%2e", "%2e.", "%2e%2e"].contains (String.ofList (step.map Char.toLower))

/-- The steps of a path after `done`, the last first, without those that stay or go back. -/
def walk (done : List (List Char)) : List (List Char) → List (List Char)
  | [] => done.reverse
  | step :: steps =>
    let stay (done : List (List Char)) := if steps.isEmpty then [] :: done else done
    if isDoubleDot step then walk (stay done.tail) steps
    else if isDot step then walk (stay done) steps
    else walk (encode pathReserved step :: done) steps

/-- A path that starts with a slash, in normal form. -/
def path (steps : List (List Char)) : List Char := (walk [] steps).flatMap ('/' :: ·)

/-- The steps of a path between slashes, of which a path of the web has two kinds. -/
def stepsOf (web : Bool) (s : List Char) : List (List Char) :=
  let s := if web then s.map fun c => if c = '\\' then '/' else c else s
  match s with
  | '/' :: s => pieces '/' s
  | [] => if web then [[]] else []
  | s => pieces '/' s

/-- The query and the fragment that follow a path. -/
def tail (queryReserved : List Char) (s : List Char) : List Char :=
  let (query, fragment) := splitAt (· == '#') s
  (match query with
    | '?' :: q => '?' :: encode queryReserved q
    | _ => []) ++
  (match fragment with
    | '#' :: f => '#' :: encode fragmentReserved f
    | _ => [])

/-- An address with a host, from the text after the slashes before the host. -/
def withHost? (scheme : List Char) (default : Option Nat) (s : List Char) : Option (List Char) := do
  let isSlash (c : Char) : Bool := c == '/' || (default.isSome && c == '\\')
  let (authority, rest) := splitAt (fun c => isSlash c || c == '?' || c == '#') s
  let (host, endpoint) := splitEndpoint (dropUser authority)
  let host ← if default.isSome ∨ host.head? = some '[' then host? host
    else if host.any (fun c => isForbidden c && c != '%') then none
    else some (encode [] host)
  let endpoint ← endpoint? default endpoint
  let (way, rest) := splitAt (fun c => c == '?' || c == '#') rest
  return scheme ++ "://".toList ++ host ++ endpoint ++ path (stepsOf default.isSome way) ++
    tail (if default.isSome then queryReserved else queryReserved.erase '\'') rest

/-- The address that a text writes; relative addresses are none. What it says of a user is left out,
because a request carries that apart from the address. -/
def parse? (s : String) : Option Url := do
  let (scheme, rest) ← scheme? (tidy s.toList)
  let make (text : List Char) : Url :=
    { scheme := String.ofList scheme, text := String.ofList text }
  match endpoints.lookup (String.ofList scheme) with
  | some endpoint =>
    (withHost? scheme (some endpoint) (rest.dropWhile fun c => c == '/' || c == '\\')).map make
  | none =>
    match rest with
    | '/' :: '/' :: rest => (withHost? scheme none rest).map make
    | rest =>
      let (way, after) := splitAt (fun c => c == '?' || c == '#') rest
      let way := if way.head? = some '/' then path (stepsOf false way) else encode [] way
      return make (scheme ++ ':' :: way ++ tail (queryReserved.erase '\'') after)

def canBeAsked (u : Url) : Bool := isWeb u.scheme

end Url

end SnippetCheck
