import SnippetCheck.Http
import SnippetCheck.Text.Marked

/-! What lies outside of a transport: what requests come to behind all redirects, each within the
time allowed for it. `Transport.through` is a transport that tells just that. -/

namespace SnippetCheck

namespace Http

/-- How much of the body of an answer comes. -/
inductive Delivery where
  | whole
  /-- The connection ends before the body does. -/
  | cut
  /-- The time allowed ends before the body does. -/
  | late
deriving DecidableEq, Repr

/-- An answer whose head has come. -/
structure Answer where
  status : Nat
  /-- The address that answers, behind all redirects. -/
  url : String
  /-- How a body without a mark is read: by the charset that the head names, or else as UTF-8. -/
  charset : List UInt8 → String := Text.Utf8.decodeLossy
  body : List UInt8
  delivery : Delivery := .whole

/-- The text of the body, if it is whole. -/
def Answer.text (a : Answer) : String := Text.ofMarked a.charset a.body

/-- What a request comes to. -/
inductive Course where
  /-- There is no connection over which the request could be sent. -/
  | refused
  /-- The request arrives, and the connection ends without an answer. -/
  | dropped
  /-- The request arrives, and redirects lead on and on. -/
  | astray
  /-- There is no answer in time, at its own address or behind redirects. -/
  | late
  | answered (a : Answer)

/-- Whether the request arrived, as far as anyone can tell. -/
def Course.isArrival : Course → Bool
  | refused | late => false
  | dropped | astray | answered _ => true

/-- What every request to an address in normal form comes to in the seconds allowed for it. -/
abbrev Net := Nat → Request → Course

/-- A net in which nobody is there to connect to. -/
def Net.deserted : Net := fun seconds _ => if seconds = 0 then .late else .refused

/-- The fault of an address that cannot be asked. -/
def Fault.ofAddress (url : String) : Fault :=
  match Url.parse? url with
  | none => { text := "builder error" }
  | some u => { url := some u.text, text := "builder error for url (" ++ u.text ++ ")" }

/-- The fault of a request to which nothing came back. -/
def Fault.ofSending (url : String) (timedOut : Bool) : Fault :=
  { timedOut, url := some url, text := "error sending request for url (" ++ url ++ ")" }

/-- The fault of redirects that lead nowhere. -/
def Fault.ofRedirects (url : String) : Fault :=
  { url := some url, text := "error following redirect for url (" ++ url ++ ")" }

/-- The fault of a body that did not come whole. -/
def Fault.ofBody (timedOut : Bool) : Fault :=
  { timedOut, undecodable := true, text := "error decoding response body" }

/-- An answer as a transport hands it over. -/
def Answer.response (a : Answer) : Response where
  status := a.status
  url := a.url
  text := match a.delivery with
    | .whole => .ok a.text
    | .cut => .error (.ofBody false)
    | .late => .error (.ofBody true)

/-- What a transport gives for what a request to an address came to. A fault has to do with that
address even if it lies behind redirects. -/
def Course.outcome (url : String) : Course → Except Fault Response
  | refused | dropped => .error (.ofSending url false)
  | astray => .error (.ofRedirects url)
  | late => .error (.ofSending url true)
  | answered a => .ok a.response

/-- The transport through a net. -/
def Transport.through (net : Net) : Transport where
  send seconds r :=
    match address? r.url with
    | none => .error (.ofAddress r.url)
    | some u => (net seconds { r with url := u.text }).outcome u.text
  arrives seconds r := (net seconds r).isArrival

end Http

end SnippetCheck
