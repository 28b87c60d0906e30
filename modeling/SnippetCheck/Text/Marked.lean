import SnippetCheck.Text.Utf8

/-! Bytes that may start with a byte order mark. The mark tells whether they are UTF-8 or UTF-16 and
which byte of a UTF-16 unit comes first, and it is no part of the text. Both are read lossily: what
stands for no character is written as the replacement character. -/

namespace SnippetCheck.Text

namespace Utf16

/-- The unit that two bytes make, the high byte first or last. -/
def unit (highFirst : Bool) (a b : UInt8) : Nat :=
  if highFirst then a.toNat * 256 + b.toNat else b.toNat * 256 + a.toNat

/-- A unit that begins a pair. -/
def isLead (u : Nat) : Bool := 0xD800 ≤ u && u < 0xDC00

/-- A unit that ends a pair. -/
def isTrail (u : Nat) : Bool := 0xDC00 ≤ u && u < 0xE000

def pair (lead trail : Nat) : Char :=
  Char.ofNat (0x10000 + (lead - 0xD800) * 0x400 + (trail - 0xDC00))

/-- The characters of bytes that follow the unit `lead`, if a pair has begun. Half a pair is one
replacement character, and so is all that is left over at the end. -/
def decodeFrom (highFirst : Bool) (lead : Option Nat) : List UInt8 → List Char
  | a :: b :: bytes =>
    let u := unit highFirst a b
    let restart : List Char :=
      if isLead u then decodeFrom highFirst (some u) bytes
      else (if isTrail u then Utf8.replacement else Char.ofNat u) ::
        decodeFrom highFirst none bytes
    match lead with
    | none => restart
    | some l =>
      if isTrail u then pair l u :: decodeFrom highFirst none bytes
      else Utf8.replacement :: restart
  | rest => if lead.isSome || !rest.isEmpty then [Utf8.replacement] else []

def decodeLossy (highFirst : Bool) (bytes : List UInt8) : String :=
  String.ofList (decodeFrom highFirst none bytes)

end Utf16

/-- The marks of UTF-8 and of the two orders of UTF-16. -/
def utf8Mark : List UInt8 := [0xEF, 0xBB, 0xBF]

def highFirstMark : List UInt8 := [0xFE, 0xFF]

def lowFirstMark : List UInt8 := [0xFF, 0xFE]

/-- The text of bytes by the mark that they start with; `unmarked` reads bytes without one. -/
def ofMarked (unmarked : List UInt8 → String) (bytes : List UInt8) : String :=
  if utf8Mark.isPrefixOf bytes then Utf8.decodeLossy (bytes.drop 3)
  else if highFirstMark.isPrefixOf bytes then Utf16.decodeLossy true (bytes.drop 2)
  else if lowFirstMark.isPrefixOf bytes then Utf16.decodeLossy false (bytes.drop 2)
  else unmarked bytes

example : ofMarked Utf8.decodeLossy [0xFF, 0xFE, 0x7B, 0, 0x7D, 0] = "\x7b\x7d" := by
  decide +kernel

end SnippetCheck.Text
