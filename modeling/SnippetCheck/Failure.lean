/-! Why a check, or one attempt of it, fails, and what follows of steps that did not. -/

namespace SnippetCheck

inductive FileFault where
  | notFound
  | isDirectory
  | notDirectory
  | alreadyExists
  | nameTooLong
  | denied
  /-- The name holds a NUL, which no name may. -/
  | nulInName
  /-- The content is not UTF-8. -/
  | notText
deriving DecidableEq, Repr

def FileFault.message : FileFault → String
  | .notFound => "No such file or directory (os error 2)"
  | .isDirectory => "Is a directory (os error 21)"
  | .notDirectory => "Not a directory (os error 20)"
  | .alreadyExists => "File exists (os error 17)"
  | .nameTooLong => "File name too long (os error 36)"
  | .denied => "Permission denied (os error 13)"
  | .nulInName => "file name contained an unexpected NUL byte"
  | .notText => "stream did not contain valid UTF-8"

inductive Failure where
  /-- The service could not be reached. -/
  | network (detail : String)
  /-- No answer came in time from this address. -/
  | timeout (url : String)
  /-- The service answered, but not with success. -/
  | status (code : Nat) (url : String)
  /-- The answer is not what was asked for. -/
  | malformed (detail : String)
  /-- Every service failed or was not to be tried. -/
  | noService (reasons : String)
  | config (detail : String)
  | io (detail : String)
deriving DecidableEq, Repr

namespace Failure

def message : Failure → String
  | network detail => "network error: " ++ detail
  | timeout url => "request timed out: " ++ url
  | status code url => "backend returned HTTP " ++ code.repr ++ ": " ++ url
  | malformed detail => "malformed response: " ++ detail
  | noService reasons => "no backend available: " ++ reasons
  | config detail => "configuration error: " ++ detail
  | io detail => "IO error: " ++ detail

/-- Whether the failure is that of one attempt, after which the next service is tried. -/
def isRecoverable : Failure → Bool
  | network _ | timeout _ | status _ _ | malformed _ => true
  | noService _ | config _ | io _ => false

/-- A text that does not read as the JSON that was asked for. Its detail stands for whatever a
reader of JSON would say of the place. -/
def notJson : Failure := malformed "<json>"

def ofFile (f : FileFault) : Failure := io f.message

end Failure

/-! ### Steps that succeeded -/

theorem exists_of_bind_eq_ok {e : Except ε α} {f : α → Except ε β} {b : β}
    (h : (e >>= f) = .ok b) : ∃ a, e = .ok a ∧ f a = .ok b := by
  cases e with
  | error e => cases h
  | ok a => exact ⟨a, rfl, h⟩

theorem exists_of_map_eq_ok {e : Except ε α} {f : α → β} {b : β} (h : e.map f = .ok b) :
    ∃ a, e = .ok a ∧ f a = b := by
  cases e with
  | error e => cases h
  | ok a => exact ⟨a, rfl, Except.ok.inj h⟩

end SnippetCheck
