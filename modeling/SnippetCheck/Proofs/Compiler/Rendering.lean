import SnippetCheck.Proofs.Compiler.Blocks
import SnippetCheck.Proofs.Compiler.Layout
import SnippetCheck.Proofs.Compiler.Line

/-! Diagnostics as a compiler writes them: a line with the level, the code and the first line of the
message, an arrow to the place, and the other lines of the message. A text of such lines, with blank
lines anywhere, reads as the diagnostics that it was written for. -/

namespace SnippetCheck

open Text

namespace Diagnostic

def messageLines (d : Diagnostic) : List (List Char) := pieces '\n' d.message.toList

/-- The line that opens a diagnostic, whose message begins with `first`. -/
def leadIn (d : Diagnostic) (first : List Char) : List Char :=
  d.level.name.toList ++ (match d.code with
    | some code => '[' :: code.toList ++ [']']
    | none => []) ++ ':' :: ' ' :: first

/-- The lines of a diagnostic, as a compiler writes it. -/
def rendered (d : Diagnostic) : List (List Char) :=
  d.leadIn (d.messageLines.headD []) ::
    (d.location.map fun place => " --> ".toList ++ place.toList).toList ++ d.messageLines.tail

/-- What a diagnostic must be like for its lines to say all of it: none of the lines of its message
is blank or ends in a blank, the first does not start with one, and each other is text to a reader
of lines; its code can stand in brackets; and its place is all known, or not at all. -/
structure Renderable (d : Diagnostic) : Prop where
  nonblank : ∀ m ∈ d.messageLines, ¬ ∀ c ∈ m, isBlank c = true
  trimmed : ∀ m ∈ d.messageLines, ∀ c ∈ m.getLast?, isBlank c = false
  first : ∀ m ∈ d.messageLines.head?, ∀ c ∈ m.head?, isBlank c = false
  later : ∀ m ∈ d.messageLines.tail, ∃ t, Compiler.Line.ofText m = .text t
  code : ∀ code ∈ d.code, code ≠ "" ∧ ']' ∉ code.toList ∧ '\n' ∉ code.toList
  place : (d.file = none ∧ d.line = none ∧ d.column = none) ∨
    ∃ file line column, d.file = some file ∧ d.line = some line ∧ d.column = some column ∧
      file ≠ "" ∧ '\n' ∉ file.toList ∧ (∀ c ∈ file.toList.head?, isBlank c = false) ∧
      line ≤ Numeral.wordMax ∧ column ≤ Numeral.wordMax
  suggestion : d.suggestion = none

end Diagnostic

namespace Compiler

/-! ### Opening lines -/

theorem opening?_leadIn {d : Diagnostic}
    (hcode : ∀ code ∈ d.code, code ≠ "" ∧ ']' ∉ code.toList ∧ '\n' ∉ code.toList)
    {first : List Char} (hline : '\n' ∉ first) (hblank : ∀ c ∈ first.head?, isBlank c = false) :
    opening? (d.leadIn first) =
      some { level := d.level, message := String.ofList first, code := d.code } := by
  have hlevel (rest : List Char) :
      leadingLevel? (trimStart (d.level.name.toList ++ rest)) = some (d.level, rest) := by
    rw [trimStart_of_head?, leadingLevel?_append]
    cases d.level with
    | error => simp [Level.name]; decide
    | warning => simp [Level.name]; decide
  have hfirst : trimStart (' ' :: first) = first := trimStart_of_head? hblank
  rw [← hfirst] at hline
  cases h : d.code with
  | none =>
    have hread : leadingCode (':' :: ' ' :: first) = (none, ':' :: ' ' :: first) := rfl
    rw [Diagnostic.leadIn, h, List.append_nil, opening?_of_parts (hlevel _) hread hline, hfirst]
    rfl
  | some code =>
    obtain ⟨hne, hbracket, -⟩ := hcode code h
    have hread := leadingCode_append (by simpa using hne) hbracket (':' :: ' ' :: first)
    rw [Diagnostic.leadIn, h, List.append_assoc]
    simp only [List.cons_append, List.append_assoc, List.nil_append] at hread ⊢
    rw [opening?_of_parts (hlevel _) hread hline, hfirst]
    simp

/-! ### Arrows -/

theorem colon_not_mem_repr (n : Nat) : ':' ∉ n.repr.toList :=
  fun h => absurd (Numeral.isDigit_of_mem_repr h) (by decide)

/-- The line of an arrow to a place. -/
def arrowLine (file : List Char) (line column : Nat) : List Char :=
  [' ', '-', '-', '>', ' '] ++ file ++ ':' :: line.repr.toList ++ ':' :: column.repr.toList

theorem trimStart_arrowLine (file : List Char) (line column : Nat) :
    trimStart (arrowLine file line column) = "-->".toList ++
      (' ' :: file ++ ':' :: line.repr.toList ++ ':' :: column.repr.toList) := rfl

theorem opening?_arrowLine (file : List Char) (line column : Nat) :
    opening? (arrowLine file line column) = none := by
  rw [opening?, trimStart_arrowLine]
  rfl

theorem arrow?_arrowLine {file : List Char} {line column : Nat} (hne : file ≠ [])
    (hnewline : '\n' ∉ file) (hblank : ∀ c ∈ file.head?, isBlank c = false)
    (hline : line ≤ Numeral.wordMax) (hcolumn : column ≤ Numeral.wordMax) :
    arrow? (arrowLine file line column) = some (String.ofList file, line, column) := by
  have hafter := after?_eq_some_iff.2 (trimStart_arrowLine file line column)
  have hrow := splitLastColon?_append (' ' :: file ++ ':' :: line.repr.toList)
    (colon_not_mem_repr column)
  have hrest := splitLastColon?_append (' ' :: file) (colon_not_mem_repr line)
  have hfile : arrowFile? (' ' :: file) = some file := by
    have htrim : trimStart (' ' :: file) = file := trimStart_of_head? hblank
    obtain ⟨c, s, rfl⟩ := List.exists_cons_of_ne_nil hne
    simp only [arrowFile?, htrim]
    rw [if_neg (by simp [hnewline])]
  simp only [arrow?, hafter, hrow, hrest, hfile, number?_repr hline, number?_repr hcolumn,
    Option.bind_eq_bind, Option.bind_some, Option.pure_def]

/-! ### Lines -/

theorem getLast?_leadIn (d : Diagnostic) {first : List Char} (hne : first ≠ []) :
    (d.leadIn first).getLast? = first.getLast? := by
  obtain ⟨c, s, rfl⟩ := List.exists_cons_of_ne_nil hne
  rw [Diagnostic.leadIn, List.getLast?_append_cons, List.getLast?_cons_cons,
    List.getLast?_cons_cons]

theorem newline_not_mem_leadIn {d : Diagnostic}
    (hcode : ∀ code ∈ d.code, code ≠ "" ∧ ']' ∉ code.toList ∧ '\n' ∉ code.toList)
    {first : List Char} (hline : '\n' ∉ first) : '\n' ∉ d.leadIn first := by
  have hlevel : '\n' ∉ d.level.name.toList := by cases d.level <;> decide
  cases h : d.code with
  | none => simp [Diagnostic.leadIn, h, hlevel, hline]
  | some code =>
    have hnewline := (hcode code h).2.2
    simp [Diagnostic.leadIn, h, hlevel, hline, hnewline]

theorem Line.ofText_leadIn {d : Diagnostic}
    (hcode : ∀ code ∈ d.code, code ≠ "" ∧ ']' ∉ code.toList ∧ '\n' ∉ code.toList)
    {first : List Char} (hne : first ≠ []) (hline : '\n' ∉ first)
    (hhead : ∀ c ∈ first.head?, isBlank c = false)
    (hlast : ∀ c ∈ first.getLast?, isBlank c = false) :
    Line.ofText (d.leadIn first) =
      .opening { level := d.level, message := String.ofList first, code := d.code } := by
  rw [← getLast?_leadIn d hne] at hlast
  apply Line.ofText_of_opening?
  rw [trimEnd_of_getLast? hlast, opening?_leadIn hcode hline hhead]

theorem isBlank_getLast?_arrowLine (file : List Char) (line column : Nat) :
    ∀ c ∈ (arrowLine file line column).getLast?, isBlank c = false := by
  intro c hc
  obtain ⟨d, s, hd⟩ := List.exists_cons_of_ne_nil (Numeral.repr_ne_nil column)
  rw [arrowLine, List.getLast?_append_cons, hd, List.getLast?_cons_cons, ← hd] at hc
  exact isBlank_of_isDigit (Numeral.isDigit_of_mem_repr (List.mem_of_getLast? hc))

theorem newline_not_mem_arrowLine {file : List Char} (hfile : '\n' ∉ file) (line column : Nat) :
    '\n' ∉ arrowLine file line column := by
  have hrepr (n : Nat) : '\n' ∉ n.repr.toList :=
    fun h => absurd (Numeral.isDigit_of_mem_repr h) (by decide)
  have hline := hrepr line
  have hcolumn := hrepr column
  simp only [arrowLine, List.mem_append, List.mem_cons, not_or]
  exact ⟨⟨⟨by decide, hfile⟩, by decide, hline⟩, by decide, hcolumn⟩

theorem Line.ofText_arrowLine {file : List Char} {line column : Nat} (hne : file ≠ [])
    (hnewline : '\n' ∉ file) (hblank : ∀ c ∈ file.head?, isBlank c = false)
    (hline : line ≤ Numeral.wordMax) (hcolumn : column ≤ Numeral.wordMax) :
    Line.ofText (arrowLine file line column) = .arrow (String.ofList file) line column := by
  have htrim := trimEnd_of_getLast? (isBlank_getLast?_arrowLine file line column)
  have hcons : arrowLine file line column ≠ [] := by simp [arrowLine]
  simp only [Line.ofText, htrim, if_neg hcons, opening?_arrowLine,
    arrow?_arrowLine hne hnewline hblank hline hcolumn]

/-! ### Texts -/

theorem diagnosticsFrom_cons {dropTotals : Bool} {current finished after : Option Diagnostic}
    {line : List Char} (h : advance dropTotals current line = (finished, after))
    (lines : List (List Char)) :
    diagnosticsFrom dropTotals current (line :: lines) =
      finished.toList ++ diagnosticsFrom dropTotals after lines := by
  rw [diagnosticsFrom, h]

/-- Blank lines change nothing. -/
theorem diagnosticsFrom_of_spaced {ls ms : List (List Char)} (h : Spaced ls ms)
    (current : Option Diagnostic) :
    diagnosticsFrom false current ms = diagnosticsFrom false current ls := by
  rw [← diagnosticsFrom_bare, h.bare, diagnosticsFrom_bare]

theorem extend_ofList {d : Diagnostic} (hne : d.message ≠ "") (m : List Char) :
    d.extend (String.ofList m) =
      { d with message := String.ofList (d.message.toList ++ '\n' :: m) } := by
  have hnewline : d.message ++ "\n" ++ String.ofList m =
      String.ofList (d.message.toList ++ '\n' :: m) := by
    apply String.toList_injective
    simp
  rw [Diagnostic.extend, if_neg hne, hnewline]

/-- The lines of a message after the first one go on with the message. -/
theorem diagnosticsFrom_texts {d : Diagnostic} (hne : d.message ≠ "") {ms : List (List Char)}
    (hms : ∀ m ∈ ms, Line.ofText m = .text (String.ofList m)) (rest : List (List Char)) :
    diagnosticsFrom false (some d) (ms ++ rest) =
      diagnosticsFrom false
        (some { d with message := String.ofList (join ['\n'] (d.message.toList :: ms)) }) rest := by
  -- the open diagnostic varies, since its message grows by each line
  induction ms generalizing d with
  | nil => simp [join]
  | cons m ms ih =>
    have hstep : advance false (some d) m = (none, some (d.extend (String.ofList m))) := by
      simp [advance, hms m List.mem_cons_self]
    have hextend := extend_ofList hne m
    have hne' : (d.extend (String.ofList m)).message ≠ "" := by
      rw [hextend]
      exact fun h => by simpa using congrArg String.toList h
    have hrest := ih hne' fun m' hm' => hms m' (List.mem_cons_of_mem m hm')
    rw [List.cons_append, diagnosticsFrom_cons hstep, Option.toList_none, List.nil_append, hrest,
      hextend]
    cases ms <;> simp [join]

variable {d : Diagnostic}

/-- The arrow of a diagnostic, if its place is known. -/
theorem place_cases (h : d.Renderable) :
    (d.location = none ∧ d.file = none ∧ d.line = none ∧ d.column = none) ∨
    ∃ file line column, d.location.map (fun place => " --> ".toList ++ place.toList) =
        some (arrowLine file.toList line column) ∧
      d.file = some file ∧ d.line = some line ∧ d.column = some column ∧
      Line.ofText (arrowLine file.toList line column) = .arrow file line column ∧
      '\n' ∉ file.toList := by
  obtain ⟨hfile, hline, hcolumn⟩ |
    ⟨file, line, column, hfile, hline, hcolumn, hne, hnewline, hblank, hlmax, hcmax⟩ := h.place
  · exact .inl ⟨by simp [Diagnostic.location, hfile, hline], hfile, hline, hcolumn⟩
  · refine .inr ⟨file, line, column, ?_, hfile, hline, hcolumn, ?_, hnewline⟩
    · simp [Diagnostic.location, hfile, hline, hcolumn, arrowLine]
    · have hne' : file.toList ≠ [] := by simpa using hne
      rw [Line.ofText_arrowLine hne' hnewline hblank hlmax hcmax, String.ofList_toList]

theorem diagnosticsFrom_place (h : d.Renderable) (message : String) (rest : List (List Char)) :
    diagnosticsFrom false (some { level := d.level, message, code := d.code })
        ((d.location.map fun place => " --> ".toList ++ place.toList).toList ++ rest) =
      diagnosticsFrom false (some { d with message }) rest := by
  have hsuggestion := h.suggestion
  obtain ⟨hplace, hfile, hline, hcolumn⟩ |
    ⟨file, line, column, hplace, hfile, hline, hcolumn, htext, -⟩ := place_cases h
  · obtain ⟨level, _, code, _, _, _, _⟩ := d
    subst hfile hline hcolumn hsuggestion
    simp [hplace]
  · have hstep : advance false (some { level := d.level, message, code := d.code })
        (arrowLine file.toList line column) = (none, some { d with message }) := by
      simp [advance, htext, Diagnostic.locate, Diagnostic.withLocation, hfile, hline, hcolumn,
        hsuggestion]
    rw [hplace, Option.toList_some, List.singleton_append, diagnosticsFrom_cons hstep]
    rfl

theorem messageLines_eq_cons (h : d.Renderable) :
    ∃ first ms, d.messageLines = first :: ms ∧ first ≠ [] ∧ '\n' ∉ first ∧
      (∀ c ∈ first.head?, isBlank c = false) ∧ (∀ c ∈ first.getLast?, isBlank c = false) ∧
      ∀ m ∈ ms, m ≠ [] ∧ '\n' ∉ m ∧ (∀ c ∈ m.getLast?, isBlank c = false) ∧
        Line.ofText m = .text (String.ofList m) := by
  obtain ⟨first, ms, hlines⟩ := List.exists_cons_of_ne_nil (pieces_ne_nil '\n' d.message.toList)
  have hne (m : List Char) (hm : m ∈ d.messageLines) : m ≠ [] := by
    rintro rfl
    exact h.nonblank [] hm (by simp)
  have hnewline (m : List Char) (hm : m ∈ d.messageLines) : '\n' ∉ m := not_mem_of_mem_pieces hm
  change d.messageLines = first :: ms at hlines
  have hfirst : first ∈ d.messageLines := hlines ▸ List.mem_cons_self
  refine ⟨first, ms, hlines, hne _ hfirst, hnewline _ hfirst, h.first first (by simp [hlines]),
    h.trimmed _ hfirst, fun m hm => ?_⟩
  have hmem : m ∈ d.messageLines := hlines ▸ List.mem_cons_of_mem first hm
  have hlast := h.trimmed m hmem
  refine ⟨hne _ hmem, hnewline _ hmem, hlast, ?_⟩
  obtain ⟨t, ht⟩ := h.later m (by simpa [hlines] using hm)
  rw [← trimEnd_of_getLast? hlast]
  obtain ⟨_, hl⟩ | ⟨_, _, hl⟩ | ⟨_, _, _, _, _, hl⟩ | ⟨_, _, _, hl⟩ := Line.ofText_cases m
  · exact absurd (ht.symm.trans hl) (by simp)
  · exact absurd (ht.symm.trans hl) (by simp)
  · exact absurd (ht.symm.trans hl) (by simp)
  · rwa [trimEnd_of_getLast? hlast] at hl ⊢

/-- The lines of a diagnostic finish the open one and open it. -/
theorem diagnosticsFrom_rendered (h : d.Renderable) (current : Option Diagnostic)
    (rest : List (List Char)) :
    diagnosticsFrom false current (d.rendered ++ rest) =
      current.toList ++ diagnosticsFrom false (some d) rest := by
  obtain ⟨first, ms, hlines, hne, hnewline, hhead, hlast, hms⟩ := messageLines_eq_cons h
  have hopen : advance false current (d.leadIn first) = (current, some
      { level := d.level, message := String.ofList first, code := d.code }) := by
    simp [advance, Line.ofText_leadIn h.code hne hnewline hhead hlast]
  have htexts := diagnosticsFrom_texts (d := { d with message := String.ofList first })
    (fun he => hne (by simpa using congrArg String.toList he)) (fun m hm => (hms m hm).2.2.2) rest
  have hmessage : String.ofList (join ['\n'] (first :: ms)) = d.message := by
    rw [← hlines, Diagnostic.messageLines, join_pieces, String.ofList_toList]
  rw [String.toList_ofList, hmessage] at htexts
  simp only [Diagnostic.rendered, hlines, List.headD_cons, List.tail_cons, List.cons_append,
    List.append_assoc]
  rw [diagnosticsFrom_cons hopen, diagnosticsFrom_place h, htexts]

theorem diagnosticsFrom_flatMap_rendered {ds : List Diagnostic} (h : ∀ d ∈ ds, d.Renderable)
    (current : Option Diagnostic) :
    diagnosticsFrom false current (ds.flatMap Diagnostic.rendered) = current.toList ++ ds := by
  induction ds generalizing current with
  | nil => simp [diagnosticsFrom]
  | cons d ds ih =>
    have hds := ih fun e he => h e (List.mem_cons_of_mem d he)
    rw [List.flatMap_cons, diagnosticsFrom_rendered (h d List.mem_cons_self), hds]
    rfl

/-- None of the lines of a diagnostic is lost when they are joined. -/
theorem lines_rendered (h : d.Renderable) {l : List Char} (hl : l ∈ d.rendered) :
    l ≠ [] ∧ '\n' ∉ l ∧ ∀ c ∈ l.getLast?, isBlank c = false := by
  obtain ⟨first, ms, hlines, hne, hnewline, -, hlast, hms⟩ := messageLines_eq_cons h
  simp only [Diagnostic.rendered, hlines, List.headD_cons, List.tail_cons, List.mem_append,
    List.mem_cons, Option.mem_toList] at hl
  obtain (rfl | hl) | hl := hl
  · have hlead := getLast?_leadIn d hne
    refine ⟨?_, newline_not_mem_leadIn h.code hnewline, hlead ▸ hlast⟩
    intro hnil
    rw [hnil, eq_comm, List.getLast?_nil, List.getLast?_eq_none_iff] at hlead
    exact hne hlead
  · obtain ⟨hplace, -⟩ | ⟨file, line, column, hplace, -, -, -, -, hfile⟩ := place_cases h
    · exact absurd hl (by simp [hplace])
    · obtain rfl : arrowLine file.toList line column = l := Option.some.inj (hplace.symm.trans hl)
      exact ⟨List.cons_ne_nil _ _, newline_not_mem_arrowLine hfile line column,
        isBlank_getLast?_arrowLine _ _ _⟩
  · exact ⟨(hms l hl).1, (hms l hl).2.1, (hms l hl).2.2.1⟩

/-- The text of lines of diagnostics, with blank lines among them, reads as these diagnostics, and
its report holds them by level. -/
theorem diagnostics_of_rendered {ds : List Diagnostic} (h : ∀ d ∈ ds, d.Renderable)
    {ls : List (List Char)} (hls : Spaced (ds.flatMap Diagnostic.rendered) ls) :
    let text := String.ofList (join ['\n'] ls)
    (stream text).Gives ds ∧ diagnostics text = ds ∧ ∀ success stdout,
      (report success stdout text).errors = ds.filter (·.level = .error) ∧
        (report success stdout text).warnings = ds.filter (·.level = .warning) := by
  intro text
  have hlines : ∀ l ∈ ds.flatMap Diagnostic.rendered,
      l ≠ [] ∧ '\n' ∉ l ∧ ∀ c ∈ l.getLast?, isBlank c = false := by
    intro l hl
    obtain ⟨d, hd, hl⟩ := List.mem_flatMap.1 hl
    exact lines_rendered (h d hd) hl
  have hspaced : Spaced (ds.flatMap Diagnostic.rendered) (lines text.toList) := by
    rw [String.toList_ofList, lines_join (hls.newline_not_mem fun l hl => (hlines l hl).2.1)]
    exact hls.linesOfPieces fun l hl => ⟨(hlines l hl).1, (hlines l hl).2.2⟩
  have hread : diagnosticsFrom false none (lines text.toList) = ds := by
    rw [diagnosticsFrom_of_spaced hspaced, diagnosticsFrom_flatMap_rendered h]
    rfl
  have hgives := Stream.gives_diagnosticsFrom false none (lines text.toList)
  rw [hread] at hgives
  have hdiagnostics : diagnostics text = ds := hread
  refine ⟨hgives, hdiagnostics, fun success stdout => ?_⟩
  rw [report, hdiagnostics, Report.ofDiagnostics_eq]
  exact ⟨rfl, rfl⟩

/-- A file's name that ends like an arrow, a code with a colon and a bracket, the greatest number,
and blank lines. -/
theorem diagnostics_of_rendered_thorny :
    let e : Diagnostic :=
      { level := .error, message := "mismatched: types\n  = note: --> x", code := some "E: [1"
        file := some "a:1:2 b", line := some Numeral.wordMax, column := some 0 }
    let w : Diagnostic := { level := .warning, message := "unused" }
    let ls := ["\t", "error[E: [1]: mismatched: types", " --> a:1:2 b:18446744073709551615:0",
      "  = note: --> x", "\r", "warning: unused", ""].map String.toList
    (e.Renderable ∧ w.Renderable) ∧ Spaced ([e, w].flatMap Diagnostic.rendered) ls ∧
      diagnostics (String.ofList (join ['\n'] ls)) = [e, w] := by
  intro e w ls
  have hmessage : e.messageLines = ["mismatched: types", "  = note: --> x"].map String.toList := by
    decide +kernel
  have he : e.Renderable := by
    refine ⟨by simp [hmessage, isBlank], by simp [hmessage, isBlank], by simp [hmessage, isBlank],
      fun m hm => ?_, by simp [e], .inr ⟨_, _, _, rfl, rfl, rfl, by simp [isBlank]⟩, rfl⟩
    rw [hmessage] at hm
    obtain rfl : m = "  = note: --> x".toList := List.mem_singleton.1 hm
    exact ⟨"  = note: --> x", by decide +kernel⟩
  have hmessage' : w.messageLines = ["unused".toList] := by decide +kernel
  have hw : w.Renderable :=
    ⟨by simp [hmessage', isBlank], by simp [hmessage', isBlank], by simp [hmessage', isBlank],
      by simp [hmessage'], by simp [w], .inl ⟨rfl, rfl, rfl⟩, rfl⟩
  have hrendered : [e, w].flatMap Diagnostic.rendered = ["error[E: [1]: mismatched: types",
      " --> a:1:2 b:18446744073709551615:0", "  = note: --> x", "warning: unused"].map
      String.toList := by
    decide +kernel
  have hls : Spaced ([e, w].flatMap Diagnostic.rendered) ls := by
    rw [hrendered]
    exact .blank (by simp [isBlank]) <| .line <| .line <| .line <|
      .blank (by simp [isBlank]) <| .line <| .blank (by simp) .nil
  have hall : ∀ d ∈ [e, w], d.Renderable := by
    intro d hd
    rcases List.mem_pair.1 hd with rfl | rfl
    exacts [he, hw]
  exact ⟨⟨he, hw⟩, hls, (diagnostics_of_rendered hall hls).2.1⟩

end Compiler

end SnippetCheck
