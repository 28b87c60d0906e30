import SnippetCheck.Diagnostic

/-! A report: the outcome of one check. The main statements say that a report built from diagnostics
holds each of them once, in its own list and in order, and succeeds only without an error. -/

namespace SnippetCheck

/-- The outcome of a check: its verdict, its diagnostics by level, and what the compiler wrote. -/
structure Report where
  success : Bool := false
  errors : List Diagnostic := []
  warnings : List Diagnostic := []
  stdout : String := ""
  stderr : String := ""
deriving DecidableEq, Repr

namespace Report

/-- The report with one more diagnostic, at the end of the list of its level. The verdict stays. -/
def push (r : Report) (d : Diagnostic) : Report :=
  match d.level with
  | .error => { r with errors := r.errors ++ [d] }
  | .warning => { r with warnings := r.warnings ++ [d] }

/-- A report on diagnostics in the order in which they were found. It succeeds if the compiler
said so and none of them is an error. -/
def ofDiagnostics (success : Bool) (ds : List Diagnostic) (stdout stderr : String) : Report :=
  let r := ds.foldl push { stdout, stderr }
  { r with success := success && r.errors.isEmpty }

def hasErrors (r : Report) : Bool := !r.errors.isEmpty

def diagnostics (r : Report) : List Diagnostic := r.errors ++ r.warnings

def atLine (r : Report) (line : Nat) : List Diagnostic :=
  r.diagnostics.filter fun d => d.line == some line

/-- What every check promises of its report: each diagnostic is in the list of its level, and a
report that succeeds has no errors. -/
structure WellFormed (r : Report) : Prop where
  errors : ∀ d ∈ r.errors, d.level = .error
  warnings : ∀ d ∈ r.warnings, d.level = .warning
  success : r.success = true → r.errors = []

theorem foldl_push (ds : List Diagnostic) (r : Report) :
    ds.foldl push r = { r with
      errors := r.errors ++ ds.filter (·.level = .error)
      warnings := r.warnings ++ ds.filter (·.level = .warning) } := by
  induction ds generalizing r with
  | nil => simp
  | cons d ds ih =>
    rw [List.foldl_cons, ih]
    cases h : d.level <;> simp [push, h]

/-- A report on diagnostics holds them by level, in order. -/
theorem ofDiagnostics_eq (success : Bool) (ds : List Diagnostic) (stdout stderr : String) :
    ofDiagnostics success ds stdout stderr =
      { success := success && (ds.filter (·.level = .error)).isEmpty
        errors := ds.filter (·.level = .error)
        warnings := ds.filter (·.level = .warning)
        stdout, stderr } := by
  simp [ofDiagnostics, foldl_push]

theorem wellFormed_ofDiagnostics (success : Bool) (ds : List Diagnostic) (stdout stderr : String) :
    (ofDiagnostics success ds stdout stderr).WellFormed := by
  rw [ofDiagnostics_eq]
  refine ⟨?_, ?_, ?_⟩ <;> simp +contextual

end Report

end SnippetCheck
