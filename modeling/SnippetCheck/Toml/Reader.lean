import SnippetCheck.Text.Start
import SnippetCheck.Text.Utf8
import SnippetCheck.Toml.DateTime
import SnippetCheck.Toml.Number
import SnippetCheck.Toml.Quoted
import SnippetCheck.Toml.Tree

/-! Reading TOML text. A document is a list of statements, each on lines of its own; the statements
say which tables there are and what they hold. -/

namespace SnippetCheck.Toml

open Text

/-- How many parts a key may have, and how deep arrays and inline tables may be nested. -/
def maxDepth : Nat := 79

def simpleKey? (s : List Char) : Option (List Char × List Char) :=
  match s.takeWhile isBare with
  | [] => quotedLine? s
  | key => some (key, s.dropWhile isBare)

/-- The key of at most so many parts that a text starts with; white space around it and around its
points does not count. -/
def key? : Nat → List Char → Option (List String × List Char)
  | 0, _ => none
  | n + 1, s => do
    let (part, rest) ← simpleKey? (skipSpaces s)
    match skipSpaces rest with
    | '.' :: rest =>
      let (parts, rest) ← key? n rest
      return (String.ofList part :: parts, rest)
    | rest => return ([String.ofList part], rest)

/-- The text without the white space, the line ends and the comments that it starts with. A comment
ends with its line. -/
def skipLines (inComment : Bool) : List Char → List Char
  | [] => []
  | '\n' :: s => skipLines false s
  | '\r' :: '\n' :: s => skipLines false s
  | c :: s =>
    if inComment then if isPlain c then skipLines true s else c :: s
    else if isSpace c then skipLines false s
    else if c = '#' then skipLines true s
    else c :: s

/-- The items of an array after its opening bracket, and the text after the closing one. A comma
may follow the last item. Nothing is read where an item takes no text. -/
def items? (value? : List Char → Option (Toml × List Char)) (s : List Char) :
    Option (List Toml × List Char) :=
  match skipLines false s with
  | ']' :: rest => some ([], rest)
  | t => do
    let (v, rest) ← value? t
    match skipLines false rest with
    | ']' :: rest => return ([v], rest)
    | ',' :: rest =>
      if rest.length < s.length then
        let (vs, rest) ← items? value? rest
        return (v :: vs, rest)
      else none
    | _ => none
termination_by s.length

def pair? (value? : List Char → Option (Toml × List Char)) (s : List Char) :
    Option ((List String × Toml) × List Char) := do
  let (key, s) ← key? maxDepth s
  let s ← after? ['='] s
  let (v, s) ← value? (skipSpaces s)
  return ((key, v), skipSpaces s)

/-- The entries of an inline table after its opening brace, at least one, and the text after the
closing one. Nothing is read where an entry takes no text. -/
def pairs? (value? : List Char → Option (Toml × List Char)) (s : List Char) :
    Option (List (List String × Toml) × List Char) := do
  let (p, rest) ← pair? value? s
  match rest with
  | '\x7d' :: rest => return ([p], rest)
  | ',' :: rest =>
    if rest.length < s.length then
      let (ps, rest) ← pairs? value? rest
      return (p :: ps, rest)
    else none
  | _ => none
termination_by s.length

def inlineTable? (value? : List Char → Option (Toml × List Char)) (s : List Char) :
    Option (Toml × List Char) :=
  match skipSpaces s with
  | '\x7d' :: rest => some (.table [], rest)
  | _ => do
    let (ps, rest) ← pairs? value? s
    let es ← insertAll? ps []
    return (.table (ofEntries es), rest)

def taken (s rest : List Char) : String := String.ofList (s.take (s.length - rest.length))

/-- The value without parts that a text starts with, and the text after it. -/
def scalar? (s : List Char) : Option (Toml × List Char) :=
  ((quoted? s).map fun (body, rest) => (Toml.string (String.ofList body), rest))
  <|> ((after? "true".toList s).map fun rest => (.boolean true, rest))
  <|> ((after? "false".toList s).map fun rest => (.boolean false, rest))
  <|> ((afterDateTime? s).map fun rest => (.dateTime (taken s rest), rest))
  <|> ((afterFloat? s).map fun rest => (.float (taken s rest), rest))
  <|> ((integer? s).map fun (n, rest) => (.integer n, rest))

/-- The value that a text starts with, nested at most so many levels, and the text after it. -/
def value? (levels : Nat) (s : List Char) : Option (Toml × List Char) :=
  match levels, s with
  | n + 1, '[' :: s => (items? (value? n) s).map fun (vs, rest) => (.array vs, rest)
  | n + 1, '\x7b' :: s => inlineTable? (value? n) s
  | _, s => scalar? s

inductive Statement where
  | entry (key : List String) (value : Toml)
  | table (path : List String)
  /-- One more table in an array of tables. -/
  | element (path : List String)

/-- The text after the rest of a line that holds no more than a comment. -/
def afterLine? (s : List Char) : Option (List Char) :=
  match skipSpaces s with
  | [] => some []
  | '#' :: s =>
    match s.dropWhile isPlain with
    | [] => some []
    | s => afterNewline? s
  | s => afterNewline? s

def statement? : List Char → Option (Statement × List Char)
  | '[' :: '[' :: s => do
    let (path, s) ← key? maxDepth s
    return (.element path, ← after? "]]".toList s)
  | '[' :: s => do
    let (path, s) ← key? maxDepth s
    return (.table path, ← after? "]".toList s)
  | s => do
    let ((key, v), s) ← pair? (value? maxDepth) s
    return (.entry key v, s)

/-- The statement on the line that a text starts with, if it holds one, and the text after the
line. -/
def line? (s : List Char) : Option (Option Statement × List Char) :=
  match afterLine? s with
  | some rest => some (none, rest)
  | none => do
    let (st, rest) ← statement? (skipSpaces s)
    return (some st, ← afterLine? rest)

def statements? (s : List Char) : Option (List Statement) :=
  if s = [] then some []
  else do
    let (st, rest) ← line? s
    if rest.length < s.length then
      let sts ← statements? rest
      return st.toList ++ sts
    else none
termination_by s.length

/-- The entries before the first header, and the headers each with the entries up to the next. -/
def sections : List Statement →
    List (List String × Toml) × List (Statement × List (List String × Toml))
  | [] => ([], [])
  | .entry key v :: sts => ((key, v) :: (sections sts).1, (sections sts).2)
  | header :: sts => ([], (header, (sections sts).1) :: (sections sts).2)

/-- The document's entries after one more header with its entries. -/
def addSection? (es : Entries) : Statement × List (List String × Toml) → Option Entries
  | (.table path, pairs) => place? (giveHeader? pairs) path es
  | (.element path, pairs) => place? (addElement? pairs) path es
  | (.entry _ _, _) => none

def ofStatements? (sts : List Statement) : Option (List (String × Toml)) := do
  let es ← insertAll? (sections sts).1 []
  let es ← (sections sts).2.foldlM addSection? es
  return ofEntries es

/-- The document that a text writes. A byte order mark before it does not count. -/
def read? (text : String) : Option (List (String × Toml)) := do
  let sts ← statements? (Utf8.dropMark text.toList)
  ofStatements? sts

end SnippetCheck.Toml
