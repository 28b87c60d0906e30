/-! What is known of the primary service: nothing, or how the last attempt on it went. -/

namespace SnippetCheck

inductive Availability where
  | unknown
  | available
  | unavailable
deriving DecidableEq, Repr

namespace Availability

/-- What an attempt teaches. -/
def ofOutcome (success : Bool) : Availability := if success then available else unavailable

/-- Whether the primary service is worth a try: always, unless the last attempt failed. -/
def worthTrying (a : Availability) : Bool := a != unavailable

/-- The byte that holds the flag where several threads share it. -/
def toByte : Availability → UInt8
  | unknown => 0
  | available => 1
  | unavailable => 2

/-- What a byte says. One that nobody writes says nothing. -/
def ofByte (byte : UInt8) : Availability :=
  if byte = 1 then available else if byte = 2 then unavailable else unknown

def name : Availability → String
  | unknown => "unknown"
  | available => "available"
  | unavailable => "unavailable"

def title : Availability → String
  | unknown => "Unknown"
  | available => "Available"
  | unavailable => "Unavailable"

@[simp] theorem ofByte_toByte (a : Availability) : ofByte a.toByte = a := by cases a <;> rfl

@[simp] theorem worthTrying_unavailable : unavailable.worthTrying = false := rfl

end Availability

end SnippetCheck
