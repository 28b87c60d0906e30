import SnippetCheck.Failure
import SnippetCheck.Text.Lines
import SnippetCheck.Text.Utf8

/-! Files by path, and a directory in which paths are followed. Nothing is known of what lies
outside of the directory but that it is a directory too. -/

namespace SnippetCheck

/-- The content of the file that each path leads to, or why there is none. -/
abbrev Files := String → Except FileFault (List UInt8)

def Files.decode (content : List UInt8) : Except FileFault String :=
  match Text.Utf8.decode? content with
  | some text => .ok text
  | none => .error .notText

def Files.text (files : Files) (path : String) : Except FileFault String :=
  files path >>= Files.decode

/-- A directory that holds files by name and no other directory. -/
structure Directory where
  files : List (String × List UInt8) := []

namespace Directory

open Text

/-- What the beginning of a path leads to. -/
inductive Place where
  /-- The directory itself. -/
  | here
  /-- Some directory outside. -/
  | outside
  | file (content : List UInt8)

def maxNameSize : Nat := 255

def maxPathSize : Nat := 4095

def find (d : Directory) (place : Place) (name : List Char) : Except FileFault Place :=
  match place with
  | .file _ => .error .notDirectory
  | place =>
    if name = [] ∨ name = ['.'] then .ok place
    else if name = ['.', '.'] then .ok .outside
    else if maxNameSize < (String.ofList name).utf8ByteSize then .error .nameTooLong
    else
      match place, d.files.lookup (String.ofList name) with
      | .here, some content => .ok (.file content)
      | _, _ => .error .notFound

def read (d : Directory) : Files := fun path => do
  let s := path.toList
  if '\x00' ∈ s then throw .nulInName
  if maxPathSize < path.utf8ByteSize then throw .nameTooLong
  if s = [] then throw .notFound
  let start := if s.head? = some '/' then Place.outside else .here
  match ← (pieces '/' s).foldlM d.find start with
  | .file content => return content
  | _ => throw .isDirectory

/-- Makes the directories along a path that are not there yet. What is made is known to be a
directory and no more; what lies outside can be made too. -/
def makeAlong (d : Directory) : Place → List (List Char) → Except FileFault Unit
  | _, [] => .ok ()
  | place, step :: steps =>
    match d.find place step with
    | .ok (.file _) => .error (if steps.all (· == []) then .alreadyExists else .notDirectory)
    | .ok place => d.makeAlong place steps
    | .error .notFound => d.makeAlong .outside steps
    | .error fault => .error fault

/-- Makes the directory that a path leads to, and those on the way to it. -/
def make (d : Directory) (path : String) : Except FileFault Unit :=
  if path.contains '\x00' then .error .nulInName
  else if maxPathSize < path.utf8ByteSize then .error .nameTooLong
  else d.makeAlong .here (pieces '/' path.toList)

end Directory

end SnippetCheck
