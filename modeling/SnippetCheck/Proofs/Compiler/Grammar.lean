import SnippetCheck.Proofs.Compiler.Blocks
import SnippetCheck.Proofs.Compiler.Line

/-! What a line says, by a grammar. `Opens` and `Points` spell out the two kinds of lines that have
a form: how the line is put together from blanks, fixed signs and the parts that matter. A line has
at most one such form, so a reader that takes parts off its ends finds exactly these, and every
other line that is not blank is text. -/

namespace SnippetCheck.Compiler

open Text

/-! ### Forms -/

/-- A code in brackets, or nothing. -/
def bracketed : Option (List Char) → List Char
  | some code => '[' :: code ++ [']']
  | none => []

/-- A line that opens a diagnostic: blanks, a level, perhaps a code in brackets, a colon and the
rest, where the message stands. -/
structure Opens (line blanks : List Char) (level : Level) (code : Option (List Char))
    (rest : List Char) : Prop where
  line_eq : line = blanks ++ level.name.toList ++ bracketed code ++ ':' :: rest
  blanks : ∀ c ∈ blanks, isBlank c = true
  code : ∀ s ∈ code, s ≠ [] ∧ ']' ∉ s

/-- ASCII digits that write a number of at most 64 bits, perhaps with zeros in front. -/
structure Writes (digits : List Char) (n : Nat) : Prop where
  ne_nil : digits ≠ []
  isDigit : ∀ c ∈ digits, c.isDigit = true
  value : Numeral.ofDigits digits = n
  le : n ≤ Numeral.wordMax

/-- A line that points to a place: blanks, an arrow, a gap of blanks, the file, and behind a colon
each the line and the column in digits. The file starts with no blank, unless it is the last of the
blanks that alone stand between the arrow and the colon. -/
structure Points (line blanks gap file rowDigits columnDigits : List Char) (row column : Nat) :
    Prop where
  line_eq : line =
    blanks ++ "-->".toList ++ gap ++ file ++ ':' :: rowDigits ++ ':' :: columnDigits
  blanks : ∀ c ∈ blanks, isBlank c = true
  gap : ∀ c ∈ gap, isBlank c = true
  file_ne : file ≠ []
  head : (∀ c ∈ file.head?, isBlank c = false) ∨ ∃ c, file = [c] ∧ isBlank c = true
  row : Writes rowDigits row
  column : Writes columnDigits column

/-! ### Parts -/

theorem leadingLevel?_eq_some_iff {s rest : List Char} {level : Level} :
    leadingLevel? s = some (level, rest) ↔ s = level.name.toList ++ rest := by
  constructor
  · intro h
    unfold leadingLevel? at h
    split at h
    next _ herror =>
      simp only [Option.some.injEq, Prod.mk.injEq] at h
      obtain ⟨rfl, rfl⟩ := h
      exact after?_eq_some_iff.1 herror
    next =>
      obtain ⟨_, hwarning, heq⟩ := Option.map_eq_some_iff.1 h
      simp only [Prod.mk.injEq] at heq
      obtain ⟨rfl, rfl⟩ := heq
      exact after?_eq_some_iff.1 hwarning
  · rintro rfl
    exact leadingLevel?_append level rest

theorem leadingCode_bracketed {code : Option (List Char)} (h : ∀ s ∈ code, s ≠ [] ∧ ']' ∉ s)
    (rest : List Char) : leadingCode (bracketed code ++ ':' :: rest) = (code, ':' :: rest) := by
  cases code with
  | none => rfl
  | some code =>
    obtain ⟨hne, hcode⟩ := h code rfl
    have hread := leadingCode_append hne hcode (':' :: rest)
    simpa [bracketed] using hread

theorem eq_bracketed_of_leadingCode {s rest : List Char} {code : Option (List Char)}
    (h : leadingCode s = (code, rest)) :
    s = bracketed code ++ rest ∧ ∀ c ∈ code, c ≠ [] ∧ ']' ∉ c := by
  unfold leadingCode at h
  split at h
  next tail =>
    split at h
    next c code' rest' htake hdrop =>
      simp only [Prod.mk.injEq] at h
      obtain ⟨rfl, rfl⟩ := h
      have hsplit : tail.takeWhile (· != ']') ++ tail.dropWhile (· != ']') = tail :=
        List.takeWhile_append_dropWhile
      have hcode : ']' ∉ c :: code' := by
        intro hmem
        rw [← htake] at hmem
        exact absurd (List.all_eq_true.1 List.all_takeWhile _ hmem) (by simp)
      rw [htake, hdrop] at hsplit
      refine ⟨by simp [← hsplit, bracketed], ?_⟩
      rintro _ ⟨rfl⟩
      exact ⟨List.cons_ne_nil _ _, hcode⟩
    next =>
      simp only [Prod.mk.injEq] at h
      obtain ⟨rfl, rfl⟩ := h
      exact ⟨rfl, by simp⟩
  next =>
    simp only [Prod.mk.injEq] at h
    obtain ⟨rfl, rfl⟩ := h
    exact ⟨rfl, by simp⟩

theorem number?_eq_some_iff {s : List Char} {n : Nat} : number? s = some n ↔ Writes s n := by
  unfold number?
  constructor
  · intro h
    split at h
    · exact absurd h (by simp)
    next hdigits =>
      obtain ⟨hne, hall⟩ := not_or.1 hdigits
      dsimp only at h
      split at h
      next hle =>
        obtain rfl := Option.some.inj h
        exact ⟨hne, List.all_eq_true.1 (not_not.1 hall), rfl, hle⟩
      next => exact absurd h (by simp)
  · rintro ⟨hne, hall, rfl, hle⟩
    rw [if_neg (not_or.2 ⟨hne, not_not_intro (List.all_eq_true.2 hall)⟩)]
    exact if_pos hle

theorem Writes.colon_not_mem {digits : List Char} {n : Nat} (h : Writes digits n) :
    ':' ∉ digits :=
  fun hmem => absurd (h.isDigit _ hmem) (by decide)

theorem splitLastColon?_eq_some_iff {s before digits : List Char} :
    splitLastColon? s = some (before, digits) ↔ s = before ++ ':' :: digits ∧ ':' ∉ digits := by
  constructor
  · intro h
    have hsplit : s.reverse.takeWhile (· != ':') ++ s.reverse.dropWhile (· != ':') = s.reverse :=
      List.takeWhile_append_dropWhile
    have htake : ':' ∉ s.reverse.takeWhile (· != ':') :=
      fun hmem => absurd (List.all_eq_true.1 List.all_takeWhile _ hmem) (by simp)
    have hhead := List.head?_dropWhile_not (· != ':') s.reverse
    unfold splitLastColon? at h
    split at h
    next c rest hdrop =>
      simp only [Option.some.injEq, Prod.mk.injEq] at h
      obtain ⟨rfl, rfl⟩ := h
      obtain rfl : c = ':' := by simpa [hdrop] using hhead
      have hreverse := congrArg List.reverse hsplit
      rw [hdrop, List.reverse_append, List.reverse_cons, List.reverse_reverse, List.append_assoc]
        at hreverse
      exact ⟨hreverse.symm, by simpa using htake⟩
    next => exact absurd h (by simp)
  · rintro ⟨rfl, h⟩
    exact splitLastColon?_append before h

/-- The file is what is left of a text behind its leading blanks, or the last of them. -/
theorem arrowFile?_eq_some_iff {s file : List Char} (hline : '\n' ∉ s) :
    arrowFile? s = some file ↔ ∃ gap, s = gap ++ file ∧ (∀ c ∈ gap, isBlank c = true) ∧
      file ≠ [] ∧
      ((∀ c ∈ file.head?, isBlank c = false) ∨ ∃ c, file = [c] ∧ isBlank c = true) := by
  constructor
  · intro h
    obtain ⟨gap, hs, hgap⟩ := blanks_append_trimStart s
    have hhead := head?_trimStart s
    have heq {t : List Char} (ht : (if t = [] ∨ '\n' ∈ t then none else some t) = some file) :
        t ≠ [] ∧ t = file := by
      split at ht
      · exact absurd ht (by simp)
      next hfile => exact ⟨(not_or.1 hfile).1, Option.some.inj ht⟩
    cases htrim : trimStart s with
    | nil =>
      -- only blanks: the file is the last of them
      rw [htrim, List.append_nil] at hs
      simp only [arrowFile?, htrim] at h
      obtain ⟨hne, rfl⟩ := heq h
      cases hlast : s.getLast? with
      | none => exact absurd (by rw [hlast]; rfl) hne
      | some c =>
        have hc := hgap c (hs ▸ List.mem_of_getLast? hlast)
        exact ⟨s.dropLast, (List.dropLast_append_getLast? c hlast).symm,
          fun d hd => hgap d (hs ▸ List.mem_of_mem_dropLast hd), by simp, .inr ⟨c, rfl, hc⟩⟩
    | cons c t =>
      simp only [arrowFile?, htrim] at h
      obtain ⟨hne, rfl⟩ := heq h
      rw [htrim] at hs hhead
      exact ⟨gap, hs, hgap, hne, .inl hhead⟩
  · rintro ⟨gap, rfl, hgap, hne, hhead⟩
    have hfile : '\n' ∉ file := fun hmem => hline (List.mem_append_right gap hmem)
    have htrim := trimStart_append_of_blanks hgap file
    obtain ⟨c, s, rfl⟩ := List.exists_cons_of_ne_nil hne
    obtain hhead | ⟨d, hd, hblank⟩ := hhead
    · rw [trimStart_of_head? hhead] at htrim
      simp only [arrowFile?, htrim]
      rw [if_neg (by simp [hfile])]
    · obtain ⟨rfl, rfl⟩ := List.cons.inj hd
      have hnil : trimStart [c] = [] := by simp [trimStart, hblank]
      rw [hnil] at htrim
      simp only [arrowFile?, htrim, List.getLast?_append_cons]
      simpa using hfile

/-! ### Forms and readers -/

theorem isBlank_head_of_opens (level : Level) (s : List Char) :
    ∀ c ∈ (level.name.toList ++ s).head?, isBlank c = false := by
  cases level with
  | error => simp [Level.name]; decide
  | warning => simp [Level.name]; decide

/-- The reader of opening lines takes exactly the parts of the form. -/
theorem Opens.iff {line blanks rest : List Char} {level : Level} {code : Option (List Char)} :
    Opens line blanks level code rest ↔
      line = blanks ++ trimStart line ∧ (∀ c ∈ blanks, isBlank c = true) ∧
      ∃ tail, leadingLevel? (trimStart line) = some (level, tail) ∧
        leadingCode tail = (code, ':' :: rest) := by
  constructor
  · rintro ⟨rfl, hblanks, hcode⟩
    have htrim : trimStart (blanks ++ level.name.toList ++ bracketed code ++ ':' :: rest) =
        level.name.toList ++ (bracketed code ++ ':' :: rest) := by
      simp only [List.append_assoc]
      rw [trimStart_append_of_blanks hblanks, trimStart_of_head? (isBlank_head_of_opens level _)]
    rw [htrim]
    exact ⟨by simp, hblanks, _, leadingLevel?_append _ _, leadingCode_bracketed hcode rest⟩
  · rintro ⟨hline, hblanks, tail, hlevel, hread⟩
    obtain ⟨htail, hcode⟩ := eq_bracketed_of_leadingCode hread
    have htrim := leadingLevel?_eq_some_iff.1 hlevel
    exact ⟨by rw [hline, htrim, htail]; simp, hblanks, hcode⟩

theorem Opens.unique {line blanks rest blanks' rest' : List Char} {level level' : Level}
    {code code' : Option (List Char)} (h : Opens line blanks level code rest)
    (h' : Opens line blanks' level' code' rest') :
    blanks = blanks' ∧ level = level' ∧ code = code' ∧ rest = rest' := by
  obtain ⟨hline, -, tail, hlevel, hcode⟩ := Opens.iff.1 h
  obtain ⟨hline', -, tail', hlevel', hcode'⟩ := Opens.iff.1 h'
  obtain ⟨rfl, rfl⟩ := Prod.mk.inj (Option.some.inj (hlevel.symm.trans hlevel'))
  obtain ⟨rfl, htail⟩ := Prod.mk.inj (hcode.symm.trans hcode')
  exact ⟨List.append_cancel_right (hline.symm.trans hline'), rfl, rfl, (List.cons.inj htail).2⟩

/-- A line without a line feed and without blanks at its end opens a diagnostic if it has the
form. -/
theorem opening?_eq_some_iff {line : List Char} (hline : '\n' ∉ line)
    (hlast : ∀ c ∈ line.getLast?, isBlank c = false) {d : Diagnostic} :
    opening? line = some d ↔ ∃ blanks level code rest, Opens line blanks level code rest ∧
      d = { level, message := String.ofList (trim rest), code := code.map String.ofList } := by
  have hmessage {blanks rest : List Char} {level : Level} {code : Option (List Char)}
      (h : Opens line blanks level code rest) : trim rest = trimStart rest ∧
        '\n' ∉ trimStart rest := by
    have hsuffix : rest <:+ line := by
      rw [h.line_eq]
      exact ((List.suffix_cons ':' rest).trans (List.suffix_append _ _))
    refine ⟨?_, fun hmem => hline (hsuffix.mem (mem_of_mem_trimStart hmem))⟩
    rw [trim, trimEnd_of_getLast?]
    intro c hc
    refine hlast c ?_
    rw [h.line_eq, List.getLast?_append_cons]
    cases rest with
    | nil => exact absurd hc (by simp)
    | cons d rest => rwa [List.getLast?_cons_cons]
  constructor
  · intro h
    obtain ⟨blanks, hblanks⟩ := blanks_append_trimStart line
    unfold opening? at h
    split at h
    · exact absurd h (by simp)
    next level tail hlevel =>
      split at h
      next code rest hcode =>
        have hopens := Opens.iff.2 ⟨hblanks.1, hblanks.2, tail, hlevel, hcode⟩
        obtain ⟨htrim, hnewline⟩ := hmessage hopens
        dsimp only at h
        rw [if_neg hnewline] at h
        exact ⟨blanks, level, code, rest, hopens, by rw [htrim, Option.some.inj h]⟩
      · exact absurd h (by simp)
  · rintro ⟨blanks, level, code, rest, hopens, rfl⟩
    obtain ⟨htrim, hnewline⟩ := hmessage hopens
    obtain ⟨-, -, tail, hlevel, hcode⟩ := Opens.iff.1 hopens
    rw [opening?_of_parts hlevel hcode hnewline, htrim]

theorem Points.trimStart_eq {line blanks gap file rowDigits columnDigits : List Char}
    {row column : Nat} (h : Points line blanks gap file rowDigits columnDigits row column) :
    trimStart line =
      "-->".toList ++ (gap ++ file ++ ':' :: rowDigits ++ ':' :: columnDigits) := by
  have hhead (s : List Char) : trimStart ("-->".toList ++ s) = "-->".toList ++ s := rfl
  rw [h.line_eq]
  simp only [List.append_assoc]
  rw [trimStart_append_of_blanks h.blanks, hhead]

theorem Points.opening?_eq_none {line blanks gap file rowDigits columnDigits : List Char}
    {row column : Nat} (h : Points line blanks gap file rowDigits columnDigits row column) :
    opening? line = none := by
  rw [opening?, h.trimStart_eq]
  rfl

theorem Points.newline_not_mem {line blanks gap file rowDigits columnDigits : List Char}
    {row column : Nat} (h : Points line blanks gap file rowDigits columnDigits row column)
    (hline : '\n' ∉ line) : '\n' ∉ gap ++ file := by
  intro hmem
  refine hline (mem_of_mem_trimStart ?_)
  rw [h.trimStart_eq]
  simp only [List.mem_append] at hmem ⊢
  exact .inr (.inl (.inl hmem))

/-- A line without a line feed points to a place if it has the form. -/
theorem arrow?_eq_some_iff {line : List Char} (hline : '\n' ∉ line) {file : String}
    {row column : Nat} :
    arrow? line = some (file, row, column) ↔ ∃ blanks gap rowDigits columnDigits,
      Points line blanks gap file.toList rowDigits columnDigits row column := by
  constructor
  · intro h
    simp only [arrow?, Option.bind_eq_bind, Option.bind_eq_some_iff, Option.pure_def,
      Option.some.injEq, Prod.mk.injEq, Prod.exists] at h
    obtain ⟨rest, hafter, before, columnDigits, hcolumn, between, rowDigits, hrow, file', hfile, _,
      hrow', _, hcolumn', rfl, rfl, rfl⟩ := h
    obtain ⟨blanks, hblanks⟩ := blanks_append_trimStart line
    have htrim := after?_eq_some_iff.1 hafter
    obtain ⟨hrest, -⟩ := splitLastColon?_eq_some_iff.1 hcolumn
    obtain ⟨hbefore, -⟩ := splitLastColon?_eq_some_iff.1 hrow
    have hnewline : '\n' ∉ between := by
      intro hmem
      refine hline (mem_of_mem_trimStart ?_)
      rw [htrim, hrest, hbefore]
      simp [hmem]
    obtain ⟨gap, hbetween, hgap, hne, hhead⟩ := (arrowFile?_eq_some_iff hnewline).1 hfile
    refine ⟨blanks, gap, rowDigits, columnDigits, ?_, hblanks.2, hgap, ?_, ?_,
      number?_eq_some_iff.1 hrow', number?_eq_some_iff.1 hcolumn'⟩
    · rw [hblanks.1, htrim, hrest, hbefore, hbetween]
      simp
    · simpa using hne
    · simpa using hhead
  · rintro ⟨blanks, gap, rowDigits, columnDigits, h⟩
    have hafter := after?_eq_some_iff.2 h.trimStart_eq
    have hcolumn := splitLastColon?_append (gap ++ file.toList ++ ':' :: rowDigits)
      h.column.colon_not_mem
    have hrow := splitLastColon?_append (gap ++ file.toList) h.row.colon_not_mem
    have hfile := (arrowFile?_eq_some_iff (h.newline_not_mem hline)).2
      ⟨gap, rfl, h.gap, h.file_ne, h.head⟩
    simp only [arrow?, hafter, hcolumn, hrow, hfile, number?_eq_some_iff.2 h.row,
      number?_eq_some_iff.2 h.column, Option.bind_eq_bind, Option.bind_some, Option.pure_def,
      String.ofList_toList]

theorem Points.unique {line blanks gap file rowDigits columnDigits : List Char} {row column : Nat}
    {blanks' gap' file' rowDigits' columnDigits' : List Char} {row' column' : Nat}
    (hline : '\n' ∉ line) (h : Points line blanks gap file rowDigits columnDigits row column)
    (h' : Points line blanks' gap' file' rowDigits' columnDigits' row' column') :
    blanks = blanks' ∧ gap = gap' ∧ file = file' ∧ rowDigits = rowDigits' ∧
      columnDigits = columnDigits' ∧ row = row' ∧ column = column' := by
  have hrest := List.append_cancel_left (h.trimStart_eq.symm.trans h'.trimStart_eq)
  -- the reader splits both at the same two colons
  have hcolumn := splitLastColon?_append (gap ++ file ++ ':' :: rowDigits) h.column.colon_not_mem
  rw [hrest, splitLastColon?_append _ h'.column.colon_not_mem] at hcolumn
  obtain ⟨hbefore, rfl⟩ := Prod.mk.inj (Option.some.inj hcolumn)
  have hrow := splitLastColon?_append (gap ++ file) h.row.colon_not_mem
  rw [← hbefore, splitLastColon?_append _ h'.row.colon_not_mem] at hrow
  obtain ⟨hbetween, rfl⟩ := Prod.mk.inj (Option.some.inj hrow)
  have hfile := (arrowFile?_eq_some_iff (h.newline_not_mem hline)).2
    ⟨gap, rfl, h.gap, h.file_ne, h.head⟩
  rw [← hbetween, (arrowFile?_eq_some_iff (h'.newline_not_mem hline)).2
    ⟨gap', rfl, h'.gap, h'.file_ne, h'.head⟩] at hfile
  obtain rfl := Option.some.inj hfile
  obtain rfl := List.append_cancel_right hbetween
  have hblanks : blanks ++ trimStart line = blanks' ++ trimStart line := by
    nth_rewrite 1 [h.trimStart_eq]
    rw [h'.trimStart_eq]
    simpa using h.line_eq.symm.trans h'.line_eq
  exact ⟨List.append_cancel_right hblanks, rfl, rfl, rfl, rfl, h.row.value.symm.trans h'.row.value,
    h.column.value.symm.trans h'.column.value⟩

/-! ### Lines -/

/-- Each kind of line, by what the readers make of the line without the blanks at its end. -/
theorem Line.ofText_eq_iff (line : List Char) :
    let t := trimEnd line
    (ofText line = blank ↔ t = []) ∧ (∀ d, ofText line = opening d ↔ opening? t = some d) ∧
    (∀ file row column, ofText line = arrow file row column ↔
      opening? t = none ∧ arrow? t = some (file, row, column)) ∧
    ∀ s, ofText line = text s ↔
      t ≠ [] ∧ opening? t = none ∧ arrow? t = none ∧ s = String.ofList t := by
  intro t
  have hopening : opening? [] = none := rfl
  have harrow : arrow? [] = none := rfl
  obtain ⟨hnil, hl⟩ | ⟨d, ho, hl⟩ | ⟨file, row, column, ho, ha, hl⟩ | ⟨hne, ho, ha, hl⟩ :=
    ofText_cases line
  · simp [t, hl, hnil, hopening, harrow]
  · have hne : trimEnd line ≠ [] := fun hnil => by simp [hnil, hopening] at ho
    simp [t, hl, ho, hne]
  · have hne : trimEnd line ≠ [] := fun hnil => by simp [hnil, harrow] at ha
    simp [t, hl, ho, ha, hne]
  · simp [t, hl, ho, ha, hne, eq_comm]

/-- What a line says is settled by its form: without the blanks at its end it is blank if nothing is
left, it opens a diagnostic or points to a place if it has the form of such a line, in which its
parts are unique, and otherwise it is text. -/
theorem line_of_grammar {line : List Char} (hline : '\n' ∉ line) :
    ((∃ s, line = trimEnd line ++ s ∧ ∀ c ∈ s, isBlank c = true) ∧
      ∀ c ∈ (trimEnd line).getLast?, isBlank c = false) ∧
    (Line.ofText line = .blank ↔ trimEnd line = []) ∧
    (∀ d, Line.ofText line = .opening d ↔ ∃ blanks level code rest,
      Opens (trimEnd line) blanks level code rest ∧
        d = { level, message := String.ofList (trim rest), code := code.map String.ofList }) ∧
    (∀ blanks level code rest blanks' level' code' rest',
      Opens (trimEnd line) blanks level code rest →
      Opens (trimEnd line) blanks' level' code' rest' →
        blanks = blanks' ∧ level = level' ∧ code = code' ∧ rest = rest') ∧
    (∀ file row column, Line.ofText line = .arrow file row column ↔
      ∃ blanks gap rowDigits columnDigits,
        Points (trimEnd line) blanks gap file.toList rowDigits columnDigits row column) ∧
    (∀ blanks gap file rowDigits columnDigits row column blanks' gap' file' rowDigits'
      columnDigits' row' column',
      Points (trimEnd line) blanks gap file rowDigits columnDigits row column →
      Points (trimEnd line) blanks' gap' file' rowDigits' columnDigits' row' column' →
        blanks = blanks' ∧ gap = gap' ∧ file = file' ∧ rowDigits = rowDigits' ∧
          columnDigits = columnDigits' ∧ row = row' ∧ column = column') ∧
    ∀ s, Line.ofText line = .text s ↔ s = String.ofList (trimEnd line) ∧ trimEnd line ≠ [] ∧
      (∀ blanks level code rest, ¬ Opens (trimEnd line) blanks level code rest) ∧
      ∀ blanks gap file rowDigits columnDigits row column,
        ¬ Points (trimEnd line) blanks gap file rowDigits columnDigits row column := by
  have hlast := getLast?_trimEnd line
  have hnewline : '\n' ∉ trimEnd line := fun hmem => hline (mem_of_mem_trimEnd hmem)
  have hsplit := trimEnd_append_blanks line
  obtain ⟨hblank, hopening, harrow, htext⟩ := Line.ofText_eq_iff line
  generalize trimEnd line = t at *
  have hopens {d : Diagnostic} := opening?_eq_some_iff hnewline hlast (d := d)
  have hpoints {file : String} {row column : Nat} :=
    @arrow?_eq_some_iff t hnewline file row column
  refine ⟨⟨hsplit, hlast⟩, hblank, ?_, ?_, ?_, ?_, ?_⟩
  · intro d
    rw [hopening, hopens]
  · exact fun _ _ _ _ _ _ _ _ h h' => h.unique h'
  · intro file row column
    rw [harrow, hpoints]
    -- an arrow is no level, so the order in which the two are tried does not matter
    exact and_iff_right_of_imp fun ⟨_, _, _, _, h⟩ => h.opening?_eq_none
  · exact fun _ _ _ _ _ _ _ _ _ _ _ _ _ _ h h' => h.unique hnewline h'
  · intro s
    have hno : opening? t = none ↔ ∀ blanks level code rest, ¬ Opens t blanks level code rest := by
      rw [Option.eq_none_iff_forall_not_mem]
      constructor
      · exact fun h blanks level code rest hform =>
          h _ (hopens.2 ⟨blanks, level, code, rest, hform, rfl⟩)
      · intro h d hd
        obtain ⟨blanks, level, code, rest, hform, -⟩ := hopens.1 hd
        exact h blanks level code rest hform
    have hnowhere : arrow? t = none ↔ ∀ blanks gap file rowDigits columnDigits row column,
        ¬ Points t blanks gap file rowDigits columnDigits row column := by
      rw [Option.eq_none_iff_forall_not_mem]
      constructor
      · intro h blanks gap file rowDigits columnDigits row column hform
        refine h (String.ofList file, row, column) (hpoints.2 ⟨blanks, gap, rowDigits,
          columnDigits, ?_⟩)
        rwa [String.toList_ofList]
      · rintro h ⟨file, row, column⟩ hplace
        obtain ⟨blanks, gap, rowDigits, columnDigits, hform⟩ := hpoints.1 hplace
        exact h _ _ _ _ _ _ _ hform
    rw [htext, ← hno, ← hnowhere]
    constructor
    · rintro ⟨hne, ho, ha, hs⟩
      exact ⟨hs, hne, ho, ha⟩
    · rintro ⟨hs, hne, ho, ha⟩
      exact ⟨hne, ho, ha, hs⟩

/-- Between blanks of other scripts, a file that looks like two numbers, a line number with zeros in
front and the greatest column. -/
theorem line_of_grammar_thorny :
    let line := "\u00a0-->  :1:2:007:18446744073709551615\u2003".toList
    '\n' ∉ line ∧ Points (trimEnd line) ['\u00a0'] [' ', ' '] ":1:2".toList "007".toList
        "18446744073709551615".toList 7 18446744073709551615 ∧
      Line.ofText line = .arrow ":1:2" 7 18446744073709551615 := by
  intro line
  have hline : '\n' ∉ line := by decide +kernel
  obtain ⟨-, -, -, -, hplace, -⟩ := line_of_grammar hline
  have htrim : trimEnd line = "\u00a0-->  :1:2:007:18446744073709551615".toList := by
    decide +kernel
  have hform : Points (trimEnd line) ['\u00a0'] [' ', ' '] ":1:2".toList "007".toList
      "18446744073709551615".toList 7 18446744073709551615 := by
    rw [htrim]
    refine ⟨by decide +kernel, ?_, ?_, by decide +kernel, .inl ?_, ?_, ?_⟩
    · simp [isBlank]
    · simp [isBlank]
    · simp [isBlank]
    · exact ⟨by decide +kernel, by simp, by decide +kernel, by decide +kernel⟩
    · exact ⟨by decide +kernel, by simp, by decide +kernel, by decide +kernel⟩
  exact ⟨hline, hform, (hplace ":1:2" 7 18446744073709551615).2 ⟨_, _, _, _, hform⟩⟩

example : Line.ofText "-->\t :1:2".toList = .arrow " " 1 2 := by decide +kernel

example : Line.ofText "--> a:1:18446744073709551616 ".toList =
    .text "--> a:1:18446744073709551616" := by decide +kernel

end SnippetCheck.Compiler
