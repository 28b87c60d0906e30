import SnippetCheck.Numeral
import SnippetCheck.Toml.Basic

/-! Strings in TOML text. A string stands in quotes, which know escapes, or in apostrophes, which do
not; three of either surround a string of several lines. In such a string a line end is a line feed
however it is written, and a line feed right after the opening marks does not count. -/

namespace SnippetCheck.Toml

/-- The character of a code point, which no half of a surrogate pair is. -/
def ofCodePoint? (n : Nat) : Option Char :=
  if n.isValidChar then some (Char.ofNat n) else none

def ofHex? (digits : List Char) : Option Char := do
  let n ← digits.foldlM (fun n c => (Numeral.hexDigit? c).map (16 * n + ·)) 0
  ofCodePoint? n

/-- The character that an escape stands for, and the text after the escape; the text given starts
after the backslash. -/
def escape? : List Char → Option (Char × List Char)
  | 'b' :: s => some ('\x08', s)
  | 't' :: s => some ('\t', s)
  | 'n' :: s => some ('\n', s)
  | 'f' :: s => some ('\x0c', s)
  | 'r' :: s => some ('\r', s)
  | '"' :: s => some ('"', s)
  | '\\' :: s => some ('\\', s)
  | 'u' :: a :: b :: c :: d :: s => (ofHex? [a, b, c, d]).map (·, s)
  | 'U' :: a :: b :: c :: d :: e :: f :: g :: h :: s =>
    (ofHex? [a, b, c, d, e, f, g, h]).map (·, s)
  | _ => none

theorem escape?_length {s rest : List Char} {c : Char} (h : escape? s = some (c, rest)) :
    rest.length < s.length := by
  unfold escape? at h
  split at h <;> simp_all <;> grind

/-- The string that ends at the next quotation mark, and the text after it. -/
def basic? (s : List Char) : Option (List Char × List Char) :=
  match s with
  | [] => none
  | '"' :: rest => some ([], rest)
  | '\\' :: s =>
    match _h : escape? s with
    | some (c, rest) => (basic? rest).map fun (body, rest) => (c :: body, rest)
    | none => none
  | c :: s => if isPlain c then (basic? s).map fun (body, rest) => (c :: body, rest) else none
termination_by s.length
decreasing_by
  · have := escape?_length _h
    simp only [List.length_cons]
    omega
  · simp

/-- The string that ends at the next apostrophe, and the text after it. -/
def literal? : List Char → Option (List Char × List Char)
  | [] => none
  | '\'' :: rest => some ([], rest)
  | c :: s => if isPlain c then (literal? s).map fun (body, rest) => (c :: body, rest) else none

/-- The marks that a text starts with, at most two, and the text after them. Before three closing
marks they belong to the string, and here they stand behind. -/
def extraMarks (mark : Char) (s : List Char) : List Char × List Char :=
  let marks := (s.takeWhile (· == mark)).take 2
  (marks, s.drop marks.length)

/-- Whether only white space stands before the next line end. -/
def endsLine (s : List Char) : Bool := (afterNewline? (skipSpaces s)).isSome

/-- The string that ends at the next three quotation marks, and the text after it. While
`skipping`, which a backslash at the end of a line begins, white space does not count. -/
def multilineBasic? (skipping : Bool) (s : List Char) : Option (List Char × List Char) :=
  let continue_ (blank : Bool) (c : Char) (r : Option (List Char × List Char)) :=
    r.map fun (body, rest) => (if skipping && blank then body else c :: body, rest)
  match s with
  | [] => none
  | '"' :: '"' :: '"' :: s => some (extraMarks '"' s)
  | '\n' :: s => continue_ true '\n' (multilineBasic? skipping s)
  | '\r' :: '\n' :: s => continue_ true '\n' (multilineBasic? skipping s)
  | ' ' :: s => continue_ true ' ' (multilineBasic? skipping s)
  | '\t' :: s => continue_ true '\t' (multilineBasic? skipping s)
  | '\\' :: s =>
    if endsLine s then multilineBasic? true s
    else
      match _h : escape? s with
      | some (c, rest) => continue_ false c (multilineBasic? false rest)
      | none => none
  | c :: s => if isPlain c then continue_ false c (multilineBasic? false s) else none
termination_by s.length
decreasing_by
  all_goals try have := escape?_length _h
  all_goals simp only [List.length_cons]; omega

/-- The string that ends at the next three apostrophes, and the text after it. -/
def multilineLiteral? : List Char → Option (List Char × List Char)
  | [] => none
  | '\'' :: '\'' :: '\'' :: s => some (extraMarks '\'' s)
  | '\n' :: s => (multilineLiteral? s).map fun (body, rest) => ('\n' :: body, rest)
  | '\r' :: '\n' :: s => (multilineLiteral? s).map fun (body, rest) => ('\n' :: body, rest)
  | c :: s =>
    if isPlain c then (multilineLiteral? s).map fun (body, rest) => (c :: body, rest) else none

def dropNewline (s : List Char) : List Char := (afterNewline? s).getD s

def quotedLine? : List Char → Option (List Char × List Char)
  | '"' :: s => basic? s
  | '\'' :: s => literal? s
  | _ => none

/-- The string that a text starts with, and the text after it. -/
def quoted? : List Char → Option (List Char × List Char)
  | '"' :: '"' :: '"' :: s => multilineBasic? false (dropNewline s)
  | '\'' :: '\'' :: '\'' :: s => multilineLiteral? (dropNewline s)
  | s => quotedLine? s

end SnippetCheck.Toml
