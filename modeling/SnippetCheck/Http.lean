import SnippetCheck.Failure
import SnippetCheck.Json.Decoder
import SnippetCheck.Json.Printer
import SnippetCheck.Url

/-! Asking a service over HTTP. A transport carries a request out, follows redirects, and gives a
response or a fault. A fault says of itself what it is, perhaps several things at once, and becomes
the failure of the first of them. A response is read stage by stage: its status, the text of its
body, the JSON in it. What a transport does is given as functions of the request and of the time
allowed for it. -/

namespace SnippetCheck

namespace Http

def agent : String := "blockly-check/0.1.0"

/-- A request. It posts a body if it has one and else gets. -/
structure Request where
  url : String
  body : Option Json := none

def Request.method (r : Request) : String := if r.body.isSome then "POST" else "GET"

/-- The text of the body as it is sent. -/
def Request.content (r : Request) : Option String := r.body.map fun j => String.ofList j.compact

/-- What a transport says of a fault. -/
structure Fault where
  /-- Whether the time allowed ran out. -/
  timedOut : Bool := false
  /-- The status, if the fault lies in a response that has one. -/
  status : Option Nat := none
  /-- Whether the body of a response could not be read. -/
  undecodable : Bool := false
  /-- The address that the fault has to do with, where one is known. -/
  url : Option String := none
  text : String
deriving DecidableEq, Repr

end Http

/-- The failure that a fault becomes. That the time ran out counts more than a status, and a status
more than a body that could not be read; a fault that is none of these lies with the network. -/
def Failure.ofFault (f : Http.Fault) : Failure :=
  let url := f.url.getD "<unknown url>"
  if f.timedOut then .timeout url
  else
    match f.status with
    | some code => .status code url
    | none => if f.undecodable then .malformed f.text else .network f.text

namespace Http

/-- A response whose head is there. -/
structure Response where
  status : Nat
  /-- The address that responded, behind all redirects. -/
  url : String
  /-- The text of the body, for which there is a wait of its own. -/
  text : Except Fault String

/-- What carries requests out, each within the seconds allowed for it. -/
structure Transport where
  send : Nat → Request → Except Fault Response
  /-- Whether a request to an address in normal form arrives there, as far as anyone can tell. -/
  arrives : Nat → Request → Bool

def isSuccess (status : Nat) : Bool := status / 100 == 2

/-- What a response means to one who asked for JSON. -/
def Response.read (d : Json.Decoder α) (response : Response) : Except Failure α :=
  if !isSuccess response.status then .error (.status response.status response.url)
  else do
    let text ← response.text.mapError .ofFault
    (Json.decode? d text).elim (.error .notJson) .ok

def ask (t : Transport) (d : Json.Decoder α) (seconds : Nat) (r : Request) : Except Failure α := do
  let response ← (t.send seconds r).mapError .ofFault
  response.read d

/-- The address that a text writes, if it can be asked. -/
def address? (url : String) : Option Url := (Url.parse? url).filter Url.canBeAsked

/-- The request as it arrives at its own address, if it does. -/
def arrival? (t : Transport) (seconds : Nat) (r : Request) : Option Request :=
  ((address? r.url).map fun u => { r with url := u.text }).filter (t.arrives seconds)

end Http

end SnippetCheck
