import SnippetCheck.Numeral

/-! JSON values as a reader meets them: the members of an object stay in order and may repeat a
name, and a number remembers how it was written as far as that matters. -/

namespace SnippetCheck

namespace Json

/-- A number. Integers within 64 bits that are written as integers are exact; every other number
is a decimal `± significand * 10 ^ exponent` within the range of a double. The number `-0` is
written as an integer and is none: it is the real number zero with a sign. -/
inductive Number where
  | natural (n : Nat)
  /-- The number `-n`, where `n` is at least one and at most `2 ^ 63`. -/
  | negative (n : Nat)
  | real (minus : Bool) (significand : Nat) (exponent : Int)
deriving DecidableEq, Repr

def Number.isZero : Number → Bool
  | .natural n => n == 0
  | .negative _ => false
  | .real _ significand exponent => Numeral.vanishes significand exponent

end Json

inductive Json where
  | null
  | bool (b : Bool)
  | number (n : Json.Number)
  | string (s : String)
  | array (items : List Json)
  | object (members : List (String × Json))
  /-- What is well formed but denotes nothing: a number beyond the doubles, a string with half a
  surrogate pair, an object with such a string for a name. A reader may pass over it but cannot
  take it. -/
  | unreadable
deriving Repr

namespace Json

/-- The value of a member. Of members of one name the last counts. -/
def get? (j : Json) (name : String) : Option Json :=
  match j with
  | .object members => members.reverse.lookup name
  | _ => none

/-- Whether a value can be taken as a whole, where it may be nested `levels` deep. -/
def readable : Nat → Json → Bool
  | _, .unreadable => false
  | n + 1, .array items => items.all (readable n)
  | n + 1, .object members => members.all fun m => readable n m.2
  | 0, .array _ => false
  | 0, .object _ => false
  | _, _ => true

def maxDepth : Nat := 127

end Json

end SnippetCheck
