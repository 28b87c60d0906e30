import SnippetCheck.Toml.Basic

/-! TOML text of tables of strings. A key and a string are written in the first form in which they
can stand without escapes, where a tab does not count, and with escapes if there is none. -/

namespace SnippetCheck.Toml

/-- A control character other than tab and line feed. -/
def isControl (c : Char) : Bool :=
  (c.toNat < 0x20 && c != '\t' && c != '\n') || c.toNat == 0x7F

/-- Whether a mark stands three times in a row somewhere. -/
def hasTriple (mark : Char) : List Char → Bool
  | a :: b :: c :: s => (a == mark && b == mark && c == mark) || hasTriple mark (b :: c :: s)
  | _ => false

def hexDigit (n : Nat) : Char := if n < 10 then Char.ofNat (48 + n) else Char.ofNat (55 + n)

def escapeChar (c : Char) : List Char :=
  if c = '"' then ['\\', '"']
  else if c = '\\' then ['\\', '\\']
  else if c = '\x08' then ['\\', 'b']
  else if c = '\t' then ['\\', 't']
  else if c = '\n' then ['\\', 'n']
  else if c = '\x0c' then ['\\', 'f']
  else if c = '\r' then ['\\', 'r']
  else if isControl c then
    ['\\', 'u', '0', '0', hexDigit (c.toNat / 16), hexDigit (c.toNat % 16)]
  else [c]

/-- A text between three quotation marks each, after `marks` marks of its own. Line feeds stay as
they are, and so does a mark that is not the third in a row. -/
def escapeLines (marks : Nat) : List Char → List Char
  | [] => []
  | '"' :: s =>
    if marks = 2 then '\\' :: '"' :: escapeLines 0 s else '"' :: escapeLines (marks + 1) s
  | '\n' :: s => '\n' :: escapeLines 0 s
  | c :: s => escapeChar c ++ escapeLines 0 s

def basic (s : List Char) : List Char := '"' :: s.flatMap escapeChar ++ ['"']

/-- A string in apostrophes, which cannot hold every text. -/
def literal (s : List Char) : List Char := '\'' :: s ++ ['\'']

/-- What stands behind three opening marks: a line end if the text has one itself. -/
def opening (s : List Char) : List Char := if '\n' ∈ s then ['\n'] else []

def multilineBasic (s : List Char) : List Char :=
  "\"\"\"".toList ++ opening s ++ escapeLines 0 s ++ "\"\"\"".toList

/-- A string of several lines in apostrophes, which cannot hold every text. -/
def multilineLiteral (s : List Char) : List Char :=
  "'''".toList ++ opening s ++ s ++ "'''".toList

def printString (s : List Char) : List Char :=
  let hasControl := s.any isControl
  let hasNewline := s.contains '\n'
  if !hasControl && !hasNewline && !s.contains '"' && !s.contains '\\' then basic s
  else if !hasControl && !hasNewline && !s.contains '\'' then literal s
  else if !hasControl && !s.contains '\\' && !hasTriple '"' s then multilineBasic s
  else if !hasControl && !hasTriple '\'' s then multilineLiteral s
  else if hasNewline then multilineBasic s
  else basic s

def printKey (s : List Char) : List Char :=
  let hasControl := s.any fun c => isControl c || c == '\n'
  if s ≠ [] ∧ s.all isBare then s
  else if !hasControl && !s.contains '"' && !s.contains '\\' then basic s
  else if !hasControl && !s.contains '\'' then literal s
  else basic s

def printEntry (e : String × String) : List Char :=
  printKey e.1.toList ++ " = ".toList ++ printString e.2.toList ++ ['\n']

def printTable (t : String × List (String × String)) : List Char :=
  '[' :: printKey t.1.toList ++ [']', '\n'] ++ t.2.flatMap printEntry

/-- A document of tables, with empty lines between them. -/
def printTables : List (String × List (String × String)) → List Char
  | [] => []
  | [t] => printTable t
  | t :: ts => printTable t ++ '\n' :: printTables ts

end SnippetCheck.Toml
