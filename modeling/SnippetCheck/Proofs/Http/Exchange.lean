import SnippetCheck.Proofs.Http
import SnippetCheck.Proofs.Json.Grammar

/-! What comes of asking over HTTP, by what the request comes to outside. `Transport.Tells` says
what an asker relies on in a transport, and `Transport.through` is one that keeps to it. The first
stage that fails then decides the failure: the address, the connection, the time allowed, the
status, the body, the value in it. -/

namespace SnippetCheck.Http

open Json Text

/-! ### Transports -/

/-- What a request, to an address that can be asked, comes to in the seconds allowed for it. -/
structure Comes (net : Net) (seconds : Nat) (r : Request) (u : Url) (course : Course) : Prop where
  usable : Usable r.url u
  course : net seconds { r with url := u.text } = course

/-- No answer is given to a request, and not for want of time. -/
inductive Course.Lost : Course → Prop
  | refused : Lost .refused
  | dropped : Lost .dropped
  | astray : Lost .astray

/-- What the body of an answer is read as tells how much of it came. -/
structure Answer.Reads (a : Answer) (text : Except Fault String) : Prop where
  /-- No bytes are refused: they are decoded by their mark, or else by the charset, lossily. -/
  whole : a.delivery = .whole → text = .ok a.text
  /-- A body that ends early is a fault of the body, not one of time. -/
  cut : a.delivery = .cut → ∃ f, text = .error f ∧ f.IsOfBody
  /-- The time allowed runs until the body is there. The fault may be one of the body as well. -/
  late : a.delivery = .late → ∃ f, text = .error f ∧ f.timedOut = true

/-- A transport tells what its requests come to in a net. -/
structure Transport.Tells (t : Transport) (net : Net) : Prop where
  /-- An address that cannot be asked is a fault before anything is sent. -/
  unusable {seconds : Nat} {r : Request} : (∀ u, ¬ Usable r.url u) →
    ∃ f, t.send seconds r = .error f ∧ f.IsPlain
  /-- So is a connection that fails, or a redirect too many: it is not one of time or of a body. -/
  lost {seconds : Nat} {r : Request} {u : Url} {course : Course} :
    Comes net seconds r u course → course.Lost → ∃ f, t.send seconds r = .error f ∧ f.IsPlain
  /-- A fault of time says so, and says which address was asked. -/
  late {seconds : Nat} {r : Request} {u : Url} : Comes net seconds r u .late →
    ∃ f, t.send seconds r = .error f ∧ f.timedOut = true ∧ f.url = some u.text
  /-- The head of an answer makes a response, be its status good or not. Redirects before it have
  been followed, so that its address is the last one. -/
  answered {seconds : Nat} {r : Request} {u : Url} {a : Answer} :
    Comes net seconds r u (.answered a) →
      ∃ text, t.send seconds r = .ok { status := a.status, url := a.url, text } ∧ a.Reads text
  /-- What is answered has arrived at its own address. -/
  arrives {seconds : Nat} {r : Request} {u : Url} {a : Answer} :
    Comes net seconds r u (.answered a) → t.arrives seconds { r with url := u.text } = true

namespace Transport.Tells

variable {t : Transport} {net : Net} {seconds : Nat} {r : Request} {u : Url} {a : Answer}

variable {d : Decoder α}

end Transport.Tells

end SnippetCheck.Http
