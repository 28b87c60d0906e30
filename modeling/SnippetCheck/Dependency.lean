import SnippetCheck.Json.Decoder
import SnippetCheck.Text.Character

/-! Dependencies of a snippet: a crate's name and the versions that will do. -/

namespace SnippetCheck

structure Dependency where
  name : String
  version : String
deriving DecidableEq, Repr

namespace Dependency

open Json

def splitAt? (sep : Char) (s : List Char) : Option (List Char × List Char) :=
  match s.dropWhile (· != sep) with
  | _ :: rest => some (s.takeWhile (· != sep), rest)
  | [] => none

/-- The dependency that `name=version` or `name@version` writes. The first `=` separates them, or
else the first `@`; blanks around either part do not count, and neither part may be blank. -/
def ofText? (text : String) : Option Dependency := do
  let s := text.toList
  let (name, version) ← (splitAt? '=' s).or (splitAt? '@' s)
  let name := Text.trim name
  let version := Text.trim version
  guard (name ≠ [] ∧ version ≠ [])
  return ⟨String.ofList name, String.ofList version⟩

def refusal (text : String) : String := "expected name=version, got '" ++ text ++ "'"

def toJson (d : Dependency) : Json :=
  .object [("name", .string d.name), ("version", .string d.version)]

def decoder : Decoder Dependency :=
  .record ["name", "version"] fun n field => do
    let name ← (field "name").required .text n
    let version ← (field "version").required .text n
    return { name, version }

end Dependency

end SnippetCheck
