/-! TOML values. A document is a table, which is a list of entries with names of their own. -/

namespace SnippetCheck

/-- A TOML value. Real numbers and points in time are kept as they were written. -/
inductive Toml where
  | string (s : String)
  | integer (n : Int)
  | float (literal : String)
  | boolean (b : Bool)
  | dateTime (literal : String)
  | array (items : List Toml)
  | table (entries : List (String × Toml))
deriving Repr

namespace Toml

/-- A character that may stand for itself in a comment or string: no control character except the
tab. -/
def isPlain (c : Char) : Bool := c == '\t' || (0x20 ≤ c.toNat && c.toNat != 0x7F)

def isBare (c : Char) : Bool := c.isAlphanum || c == '_' || c == '-'

def isSpace (c : Char) : Bool := c == ' ' || c == '\t'

/-- The text from its first character on that is no white space inside a line. -/
def skipSpaces (s : List Char) : List Char := s.dropWhile isSpace

/-- The text after the line end that it starts with, if it starts with one. -/
def afterNewline? : List Char → Option (List Char)
  | '\n' :: s => some s
  | '\r' :: '\n' :: s => some s
  | _ => none

end Toml

end SnippetCheck
