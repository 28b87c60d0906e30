/-! UTF-8. `Utf8.scan` goes through bytes once and gives a character for each well-formed sequence
and a gap for each maximal run of bytes that begins one and cannot be completed. The two readings of
bytes differ only in what they make of a gap: `decode?` refuses the text, `decodeLossy` writes the
replacement character. -/

namespace SnippetCheck.Text.Utf8

/-- A sequence that has begun: the bits read, how many bytes are owed, and the bounds of the next
byte. The bounds exclude overlong forms, surrogates and code points above U+10FFFF. -/
structure Pending where
  bits : Nat
  owed : Nat
  low : Nat
  high : Nat

/-- What the first byte of a sequence says: a whole character, a sequence to complete, or
nothing. -/
inductive Opening where
  | whole (c : Char)
  | sequence (p : Pending)
  | stray

/-- The meaning of a byte that starts a sequence. -/
def opening (b : UInt8) : Opening :=
  let n := b.toNat
  if n < 0x80 then .whole (Char.ofNat n)
  else if n < 0xC2 then .stray
  else if n < 0xE0 then .sequence ⟨n - 0xC0, 1, 0x80, 0xBF⟩
  else if n = 0xE0 then .sequence ⟨0, 2, 0xA0, 0xBF⟩
  else if n = 0xED then .sequence ⟨0xD, 2, 0x80, 0x9F⟩
  else if n < 0xF0 then .sequence ⟨n - 0xE0, 2, 0x80, 0xBF⟩
  else if n = 0xF0 then .sequence ⟨0, 3, 0x90, 0xBF⟩
  else if n < 0xF4 then .sequence ⟨n - 0xF0, 3, 0x80, 0xBF⟩
  else if n = 0xF4 then .sequence ⟨4, 3, 0x80, 0x8F⟩
  else .stray

/-- The characters and gaps of bytes that follow the sequence begun in `pending`. -/
def scanFrom (pending : Option Pending) : List UInt8 → List (Option Char)
  | [] => if pending.isSome then [none] else []
  | b :: bs =>
    let restart (gap : List (Option Char)) : List (Option Char) :=
      match opening b with
      | .whole c => gap ++ some c :: scanFrom none bs
      | .sequence p => gap ++ scanFrom (some p) bs
      | .stray => gap ++ none :: scanFrom none bs
    match pending with
    | none => restart []
    | some p =>
      if p.low ≤ b.toNat ∧ b.toNat ≤ p.high then
        let bits := p.bits * 64 + (b.toNat - 0x80)
        if p.owed = 1 then some (Char.ofNat bits) :: scanFrom none bs
        else scanFrom (some ⟨bits, p.owed - 1, 0x80, 0xBF⟩) bs
      else restart [none]

def scan (bytes : List UInt8) : List (Option Char) := scanFrom none bytes

def decode? (bytes : List UInt8) : Option String :=
  ((scan bytes).mapM id).map String.ofList

def replacement : Char := '\uFFFD'

/-- The text of any bytes: each gap is written as one replacement character. -/
def decodeLossy (bytes : List UInt8) : String :=
  String.ofList ((scan bytes).map (·.getD replacement))

/-- A text that starts with a byte order mark, without it. -/
def dropMark (s : List Char) : List Char :=
  match s with
  | '\uFEFF' :: rest => rest
  | _ => s

end SnippetCheck.Text.Utf8
