import SnippetCheck.Json.Reader

/-! Typed reading of JSON values. A decoder takes the number of levels that the value may still be
nested, so that everything that is taken, and nothing that is passed over, counts against the limit.
A record is read from an object by its members' names or from an array by their order. -/

namespace SnippetCheck.Json

/-- How a value of type `α` is read from a value nested at most so many levels. -/
abbrev Decoder (α : Type) := Nat → Json → Option α

namespace Decoder

def text : Decoder String
  | _, .string s => some s
  | _, _ => none

def flag : Decoder Bool
  | _, .bool b => some b
  | _, _ => none

/-- An integer from zero to `max`, written as such. -/
def natural (max : Nat) : Decoder Nat
  | _, .number (.natural n) => if n ≤ max then some n else none
  | _, _ => none

def word : Decoder Nat := natural Numeral.wordMax

def halfWord : Decoder Nat := natural 0xFFFFFFFF

def optional (d : Decoder α) : Decoder (Option α)
  | _, .null => some none
  | n, j => (d n j).map some

def list (d : Decoder α) : Decoder (List α)
  | n + 1, .array items => items.mapM (d n)
  | _, _ => none

/-- One of several named values: its name, or an object with the name for its only member and no
value. -/
def choice (named? : String → Option α) : Decoder α
  | _, .string s => named? s
  | _ + 1, .object [(s, .null)] => named? s
  | _, _ => none

/-- Any value that can be taken as a whole. -/
def any : Decoder Json := fun n j => if j.readable n then some j else none

end Decoder

/-- What is there for a field of a record. -/
inductive Slot where
  | given (v : Json)
  /-- The object has no member of that name. -/
  | missing
  /-- The array is too short. -/
  | cut

namespace Slot

/-- A field that must be there. -/
def required (d : Decoder α) (levels : Nat) : Slot → Option α
  | given v => d levels v
  | _ => none

/-- A field that an object may lack. -/
def optional (d : Decoder α) (levels : Nat) : Slot → Option (Option α)
  | given v => d.optional levels v
  | missing => some none
  | cut => none

/-- A field that an object or an array may lack, and what it is then. -/
def orElse (default : α) (d : Decoder α) (levels : Nat) : Slot → Option α
  | given v => d levels v
  | _ => some default

end Slot

/-- The fields of a record with the names `names`, read from an object or an array. An object must
not repeat one of the names and may have other members; an array must not be too long. -/
def slots? (names : List String) : Json → Option (List Slot)
  | .object members =>
    if names.any fun k => 1 < members.countP (·.1 == k) then none
    else some (names.map fun k => ((members.lookup k).map .given).getD .missing)
  | .array items =>
    if names.length < items.length then none
    else some (items.map .given ++ List.replicate (names.length - items.length) .cut)
  | _ => none

def Decoder.record (names : List String) (build : Nat → (String → Slot) → Option α) : Decoder α
  | n + 1, j => do
    let slots ← slots? names j
    build n fun k => ((names.zip slots).lookup k).getD .missing
  | 0, _ => none

def decode? (d : Decoder α) (text : String) : Option α :=
  (read? text.toList).bind (d maxDepth)

end SnippetCheck.Json
