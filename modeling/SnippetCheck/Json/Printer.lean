import SnippetCheck.Json.Basic

/-! JSON text of values, in two layouts: on one line without blanks, and indented by two blanks a
level with each item and member on a line of its own. -/

namespace SnippetCheck.Json

/-- The digit for a number below 16, letters in lower case. -/
def hexDigit (n : Nat) : Char :=
  if n < 10 then Char.ofNat ('0'.toNat + n) else Char.ofNat ('a'.toNat + (n - 10))

/-- A character inside a string: quotes, backslashes and control characters are escaped, with the
short escape where there is one. -/
def escapeChar (c : Char) : List Char :=
  if c = '"' then ['\\', '"']
  else if c = '\\' then ['\\', '\\']
  else if c = '\x08' then ['\\', 'b']
  else if c = '\t' then ['\\', 't']
  else if c = '\n' then ['\\', 'n']
  else if c = '\x0c' then ['\\', 'f']
  else if c = '\r' then ['\\', 'r']
  else if c.toNat < 0x20 then
    ['\\', 'u', '0', '0', hexDigit (c.toNat / 16), hexDigit (c.toNat % 16)]
  else [c]

def quote (s : String) : List Char := '"' :: s.toList.flatMap escapeChar ++ ['"']

def Number.print : Number → List Char
  | .natural n => n.repr.toList
  | .negative n => '-' :: n.repr.toList
  | .real minus significand exponent =>
    (if minus then ['-'] else []) ++ significand.repr.toList ++
      'e' :: (if exponent < 0 then ['-'] else []) ++ exponent.natAbs.repr.toList

mutual

/-- The text of a value on one line. -/
def compact : Json → List Char
  | .null => "null".toList
  | .bool b => (if b then "true" else "false").toList
  | .number n => n.print
  | .string s => quote s
  | .array [] => ['[', ']']
  | .array (item :: items) => '[' :: compact item ++ compactItems items ++ [']']
  | .object [] => ['{', '}']
  | .object ((k, v) :: members) =>
    '{' :: quote k ++ ':' :: compact v ++ compactMembers members ++ ['}']
  | .unreadable => "null".toList

def compactItems : List Json → List Char
  | [] => []
  | item :: items => ',' :: compact item ++ compactItems items

/-- Members that follow another, each after a comma. -/
def compactMembers : List (String × Json) → List Char
  | [] => []
  | (k, v) :: members => ',' :: quote k ++ ':' :: compact v ++ compactMembers members

end

def newLine (level : Nat) : List Char := '\n' :: List.replicate (2 * level) ' '

mutual

/-- The indented text of a value that starts on a line of level `level`. An empty array or object
stays on its line. -/
def pretty (level : Nat) : Json → List Char
  | .array (item :: items) =>
    '[' :: newLine (level + 1) ++ pretty (level + 1) item ++ prettyItems level items ++
      newLine level ++ [']']
  | .object ((k, v) :: members) =>
    '{' :: newLine (level + 1) ++ quote k ++ ':' :: ' ' :: pretty (level + 1) v ++
      prettyMembers level members ++ newLine level ++ ['}']
  | .null => "null".toList
  | .bool b => (if b then "true" else "false").toList
  | .number n => n.print
  | .string s => quote s
  | .array [] => ['[', ']']
  | .object [] => ['{', '}']
  | .unreadable => "null".toList

/-- Items that follow another, each after a comma on a line of its own. -/
def prettyItems (level : Nat) : List Json → List Char
  | [] => []
  | item :: items =>
    ',' :: newLine (level + 1) ++ pretty (level + 1) item ++ prettyItems level items

/-- Members that follow another, each after a comma on a line of its own. -/
def prettyMembers (level : Nat) : List (String × Json) → List Char
  | [] => []
  | (k, v) :: members =>
    ',' :: newLine (level + 1) ++ quote k ++ ':' :: ' ' :: pretty (level + 1) v ++
      prettyMembers level members

end

end SnippetCheck.Json
