import SnippetCheck.Http.Net
import SnippetCheck.Proofs.Text.Utf8

/-! Where a request over HTTP goes, and what its asker makes of what a transport gives: of a fault
by what it says of itself, and of a response by its status and the text of its body. -/

namespace SnippetCheck

/-! ### Faults -/

/-- A fault that says nothing of itself. -/
structure Http.Fault.IsPlain (f : Fault) : Prop where
  inTime : f.timedOut = false
  noStatus : f.status = none
  decodable : f.undecodable = false

/-- A fault of a body, and of nothing else. -/
structure Http.Fault.IsOfBody (f : Fault) : Prop where
  inTime : f.timedOut = false
  noStatus : f.status = none
  undecodable : f.undecodable = true

namespace Failure

variable {f : Http.Fault}

example : ofFault { timedOut := true, status := some 500, undecodable := true, text := "" } =
    .timeout "<unknown url>" := rfl

end Failure

namespace Http

open Text

/-! ### Addresses -/

/-- An address that can be asked, and the address in normal form. -/
structure Usable (url : String) (u : Url) : Prop where
  parse : Url.parse? url = some u
  web : u.scheme = "http" ∨ u.scheme = "https"

theorem address?_eq_some_iff {url : String} {u : Url} : address? url = some u ↔ Usable url u := by
  have hweb : u.canBeAsked = true ↔ u.scheme = "http" ∨ u.scheme = "https" := by
    simp [Url.canBeAsked, Url.isWeb]
  rw [address?, Option.filter_eq_some_iff, hweb]
  exact ⟨fun h => ⟨h.1, h.2⟩, fun h => ⟨h.parse, h.web⟩⟩

/-- What arrives is the request, to the address in normal form. -/
theorem arrival?_eq_some_iff {t : Transport} {seconds : Nat} {r q : Request} :
    arrival? t seconds r = some q ↔
      ∃ u, Usable r.url u ∧ q = { r with url := u.text } ∧ t.arrives seconds q = true := by
  rw [arrival?, Option.filter_eq_some_iff, Option.map_eq_some_iff]
  constructor
  · rintro ⟨⟨u, hu, rfl⟩, harrives⟩
    exact ⟨u, address?_eq_some_iff.1 hu, rfl, harrives⟩
  · rintro ⟨u, hu, rfl, harrives⟩
    exact ⟨⟨u, address?_eq_some_iff.2 hu, rfl⟩, harrives⟩

/-! ### Responses -/

/-- An object that is sent in UTF-8 is read as it was printed. -/
theorem ofMarked_object (members : List (String × Json)) :
    ofMarked Utf8.decodeLossy (Utf8.encode (Json.object members).compact) =
      String.ofList (Json.object members).compact := by
  have hhead : (Json.object members).compact.head? = some '\x7b' := by
    cases members <;> rfl
  rw [ofMarked_encode, Utf8.dropMark_of_head?_ne (by rw [hhead]; decide)]

section Reading

variable {d : Json.Decoder α} {response : Response}

/-- A response with a good status is what its text is decoded as. -/
theorem read_of_text_eq_ok {text : String} (hstatus : isSuccess response.status = true)
    (h : response.text = .ok text) :
    response.read d = (Json.decode? d text).elim (.error .notJson) .ok := by
  rw [Response.read, hstatus, h]
  rfl

end Reading

section Asking

variable {t : Transport} {d : Json.Decoder α} {seconds : Nat} {r : Request}

theorem ask_of_send_eq_ok {response : Response} (h : t.send seconds r = .ok response) :
    ask t d seconds r = response.read d := by
  rw [ask, h]
  rfl

end Asking

end Http

end SnippetCheck
