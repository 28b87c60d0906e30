import SnippetCheck.Numeral
import SnippetCheck.Text.Lines
import SnippetCheck.Text.Utf8
import SnippetCheck.Url.Punycode

/-! Hosts of addresses: a name, four bytes, or eight words in brackets, each in its one normal form.
A name with characters beyond ASCII, which must be in lower case, is written in ASCII. A byte may be
percent-encoded in an address: written as `%` and two hexadecimal digits. -/

namespace SnippetCheck.Url

open Text

def hexDigit (n : Nat) : Char := if n < 10 then Char.ofNat (48 + n) else Char.ofNat (55 + n)

def encodeByte (b : UInt8) : List Char := ['%', hexDigit (b.toNat / 16), hexDigit (b.toNat % 16)]

/-- A text in which control characters, characters beyond ASCII, and those that `reserved` names
are encoded. -/
def encode (reserved : List Char) (s : List Char) : List Char :=
  s.flatMap fun c =>
    if c.toNat ≤ 0x1F ∨ 0x7F ≤ c.toNat ∨ c ∈ reserved then
      (String.singleton c).toUTF8.toList.flatMap encodeByte
    else [c]

/-- The bytes of a text in which encoded bytes are decoded. -/
def decode : List Char → List UInt8
  | [] => []
  | '%' :: a :: b :: s =>
    match Numeral.hexDigit? a, Numeral.hexDigit? b with
    | some x, some y => (x * 16 + y).toUInt8 :: decode s
    | _, _ => 0x25 :: decode (a :: b :: s)
  | c :: s => (String.singleton c).toUTF8.toList ++ decode s

/-! ### Hosts -/

/-- A character that no name may hold. -/
def isForbidden (c : Char) : Bool :=
  c.toNat ≤ 0x20 || c.toNat == 0x7F || "#/:<>?@[\\]^|%".toList.contains c

/-- The number that digits write to a base, if all are digits to it. -/
def ofBase? (base : Nat) (ds : List Char) : Option Nat :=
  ds.foldlM (fun n c => do
    let d ← Numeral.hexDigit? c
    guard (d < base)
    return base * n + d) 0

/-- The number that a part of an address writes: hexadecimal after `0x`, octal after `0`. -/
def part? : List Char → Option Nat
  | [] => none
  | '0' :: 'x' :: ds => ofBase? 16 ds
  | '0' :: d :: ds => ofBase? 8 (d :: ds)
  | ds => ofBase? 10 ds

def parts (name : List Char) : List (List Char) :=
  let ps := pieces '.' name
  if ps.getLast? = some [] ∧ 1 < ps.length then ps.dropLast else ps

/-- Whether a name must be an address of four bytes: its last part is a number. -/
def endsInNumber (name : List Char) : Bool :=
  match (parts name).getLast? with
  | some last => (last ≠ [] && last.all Char.isDigit) ||
    (match last with | '0' :: 'x' :: ds => (ofBase? 16 ds).isSome | _ => false)
  | none => false

/-- The number of four bytes: each part but the last is a byte, and the last is the rest. -/
def fourBytes? (name : List Char) : Option Nat := do
  let ns ← (parts name).mapM part?
  let last ← ns.getLast?
  let bytes := ns.dropLast
  guard (bytes.length ≤ 3 ∧ bytes.all (· < 256) ∧ last < Nat.pow 256 (4 - bytes.length))
  return (bytes.foldl (fun n b => 256 * n + b) 0) * Nat.pow 256 (4 - bytes.length) + last

/-- Four bytes with points between them. -/
def showFourBytes (n : Nat) : List Char :=
  join ['.'] ([n / 0x1000000, n / 0x10000, n / 0x100, n].map fun b => (b % 256).repr.toList)

/-- The words that a side of an address of eight words writes; the last two may be four bytes. -/
def words? (s : List Char) : Option (List Nat) :=
  if s = [] then some []
  else
    let ps := pieces ':' s
    let last := (ps.getLast?).getD []
    let word? (p : List Char) : Option Nat := do
      guard (p ≠ [] ∧ p.length ≤ 4)
      ofBase? 16 p
    if '.' ∈ last then do
      let bytes ← (pieces '.' last).mapM fun p => do
        let n ← ofBase? 10 p
        guard (p ≠ [] ∧ n < 256 ∧ (p.length = 1 ∨ p.head? ≠ some '0'))
        return n
      let ws ← ps.dropLast.mapM word?
      match bytes with
      | [a, b, c, d] => return ws ++ [a * 256 + b, c * 256 + d]
      | _ => none
    else ps.mapM word?

/-- The text before the first two colons and the text after them. -/
def splitGap? : List Char → Option (List Char × List Char)
  | ':' :: ':' :: s => some ([], s)
  | c :: s => (splitGap? s).map fun (before, after) => (c :: before, after)
  | [] => none

/-- Eight words; two colons in one place stand for the zeros that are missing. -/
def eightWords? (s : List Char) : Option (List Nat) :=
  match splitGap? s with
  | some (before, after) => do
    let bs ← words? before
    let as ← words? after
    guard (bs.length + as.length ≤ 7)
    return bs ++ List.replicate (8 - bs.length - as.length) 0 ++ as
  | none => do
    let ws ← words? s
    guard (ws.length = 8)
    return ws

def zeros (ws : List Nat) : Nat := (ws.takeWhile (· == 0)).length

/-- The place and the length of the first of the longest runs of zeros, if one has two. -/
def longestGap (ws : List Nat) : Option (Nat × Nat) :=
  let runs := (List.range ws.length).map fun i => (i, zeros (ws.drop i))
  let longest := runs.foldl (fun best run => if best.2 < run.2 then run else best) (0, 0)
  if 2 ≤ longest.2 then some longest else none

/-- Eight words with colons between them, in lower case; the longest run of zeros is left out. -/
def showEightWords (ws : List Nat) : List Char :=
  let show_ (ws : List Nat) : List Char := join [':'] (ws.map (Nat.toDigits 16))
  match longestGap ws with
  | some (i, n) => show_ (ws.take i) ++ [':', ':'] ++ show_ (ws.drop (i + n))
  | none => show_ ws

/-- The host that a text writes, in its normal form. -/
def host? (s : List Char) : Option (List Char) :=
  match s with
  | '[' :: rest =>
    if rest.getLast? = some ']' then
      (eightWords? rest.dropLast).map fun ws => '[' :: showEightWords ws ++ [']']
    else none
  | s => do
    let name := Punycode.name ((← Utf8.decode? (decode s)).toList.map Char.toLower)
    guard (name ≠ [] ∧ ¬ name.any isForbidden)
    if endsInNumber name then (fourBytes? name).map showFourBytes else some name

end SnippetCheck.Url
