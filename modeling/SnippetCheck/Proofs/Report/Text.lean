import SnippetCheck.Proofs.Numeral
import SnippetCheck.Proofs.Text.Layout
import SnippetCheck.Report.Text

/-! Reports as text, line by line. A message may hold anything, lines that look like entries or
headings among them. But all its lines except the first stand behind five spaces, where an entry
has two and a heading has none, so the lines of a report tell what they belong to. -/

namespace SnippetCheck

open Text

/-! ### The lines of a diagnostic -/

namespace Diagnostic

/-- There is no line feed in the file, the code or the suggestion. -/
structure Flat (d : Diagnostic) : Prop where
  file : ∀ s ∈ d.file, '\n' ∉ s.toList
  code : ∀ s ∈ d.code, '\n' ∉ s.toList
  suggestion : ∀ s ∈ d.suggestion, '\n' ∉ s.toList

def textLines (d : Diagnostic) : List (List Char) := pieces '\n' d.text.toList

/-- Every line but the first stands behind five spaces. -/
def Hanging (ls : List (List Char)) : Prop := ∀ l ∈ ls.tail, indent.toList <+: l

instance : DecidablePred Hanging := fun ls =>
  inferInstanceAs (Decidable (∀ l ∈ ls.tail, indent.toList <+: l))

def firstLine (d : Diagnostic) : List Char := d.textLines.headD []

/-- What stands before the message: the place and the code. -/
def lead (d : Diagnostic) : List Char :=
  ((match d.location with | some l => l ++ ": " | none => "") ++
    (match d.code with | some c => "[" ++ c ++ "] " | none => "")).toList

/-- The lines below the message. -/
def helpLines (d : Diagnostic) : List (List Char) :=
  match d.suggestion with
  | some s => pieces '\n' (indent ++ "help: " ++ s).toList
  | none => []

theorem firstLine_cons_tail (d : Diagnostic) : d.firstLine :: d.textLines.tail = d.textLines := by
  obtain ⟨p, ps, hp⟩ := List.exists_cons_of_ne_nil (pieces_ne_nil '\n' d.text.toList)
  rw [firstLine, textLines, hp]
  rfl

theorem newline_not_mem_digits (n : Nat) : '\n' ∉ Nat.toDigits 10 n := by
  intro h
  rw [← Nat.toList_repr] at h
  exact absurd (Numeral.isDigit_of_mem_repr h) (by decide)

theorem newline_not_mem_location {d : Diagnostic} (h : ∀ s ∈ d.file, '\n' ∉ s.toList) :
    ∀ s ∈ d.location, '\n' ∉ s.toList := by
  intro s hs
  unfold location at hs
  split at hs <;> cases hs
  next f l c hf _ _ => simp [h f hf, newline_not_mem_digits]
  next f l hf _ _ => simp [h f hf, newline_not_mem_digits]
  next => simp [newline_not_mem_digits]
  next => simp [newline_not_mem_digits]

theorem newline_not_mem_lead {d : Diagnostic} (hfile : ∀ s ∈ d.file, '\n' ∉ s.toList)
    (hcode : ∀ s ∈ d.code, '\n' ∉ s.toList) : '\n' ∉ d.lead := by
  unfold lead
  rw [String.toList_append, List.mem_append]
  rintro (h | h)
  · split at h
    next l hl => simp [newline_not_mem_location hfile l hl] at h
    next => simp at h
  · split at h
    next c hc => simp [hcode c hc] at h
    next => simp at h

theorem ended_map_append (start m : List Char) (ms : List (List Char)) :
    ended (m :: ms.map (start ++ ·)) = join ('\n' :: start) (m :: ms) ++ ['\n'] := by
  induction ms generalizing m with
  | nil => rw [List.map_nil, ended_cons]; rfl
  | cons n ms ih =>
    have hrest : ended ((start ++ n) :: ms.map (start ++ ·)) =
        start ++ ended (n :: ms.map (start ++ ·)) := by
      simp
    have hjoin : join ('\n' :: start) (m :: n :: ms) =
        m ++ '\n' :: start ++ join ('\n' :: start) (n :: ms) := rfl
    rw [List.map_cons, ended_cons, hrest, ih, hjoin]
    simp

theorem text_toList (d : Diagnostic) :
    d.text.toList = d.lead ++ (indented d.message).toList ++
      (d.suggestion.elim "" fun s => "\n" ++ indent ++ "help: " ++ s).toList := by
  unfold text lead
  cases d.location <;> cases d.code <;> cases d.suggestion <;> simp

/-- The lines of a diagnostic are those of its message, with what stands before it on the first one
and five spaces before each other one, and those of its suggestion. -/
theorem textLines_eq {d : Diagnostic} (hlead : '\n' ∉ d.lead) {m : List Char}
    {ms : List (List Char)} (hm : pieces '\n' d.message.toList = m :: ms) :
    d.textLines = (d.lead ++ m) :: ms.map (indent.toList ++ ·) ++ d.helpLines := by
  have hmessage : ∀ l ∈ m :: ms, '\n' ∉ l := fun l hl => not_mem_of_mem_pieces (hm ▸ hl)
  have hlines : ∀ l ∈ (d.lead ++ m) :: ms.map (indent.toList ++ ·), '\n' ∉ l := by
    simp only [List.mem_cons, List.mem_map, forall_eq_or_imp, List.mem_append, not_or]
    refine ⟨⟨hlead, hmessage m List.mem_cons_self⟩, ?_⟩
    rintro _ ⟨l, hl, rfl⟩
    simp [indent, hmessage l (List.mem_cons_of_mem m hl)]
  have hhelp : ∀ l ∈ d.helpLines, '\n' ∉ l := by
    unfold helpLines
    split
    · exact fun _ hl => not_mem_of_mem_pieces hl
    · simp
  have hended : ended ((d.lead ++ m) :: ms.map (indent.toList ++ ·)) =
      d.lead ++ (indented d.message).toList ++ ['\n'] := by
    have hindented : (indented d.message).toList = join ('\n' :: indent.toList) (m :: ms) := by
      rw [indented, String.toList_ofList, hm]
      rfl
    rw [hindented, List.append_assoc, ← ended_map_append, ended_cons, ended_cons,
      List.append_assoc]
  refine pieces_eq_of_ended (List.forall_mem_append.2 ⟨hlines, hhelp⟩) ?_
  rw [ended_append, hended]
  cases hs : d.suggestion with
  | none => simp [text_toList, helpLines, hs, ended]
  | some s => simp [text_toList, helpLines, hs, ended_pieces]

/-- Five spaces stand before the lines of any message, but before those of a suggestion only where
they were given. -/
theorem hanging_textLines_iff {d : Diagnostic} (hfile : ∀ s ∈ d.file, '\n' ∉ s.toList)
    (hcode : ∀ s ∈ d.code, '\n' ∉ s.toList) :
    Hanging d.textLines ↔ ∀ s ∈ d.suggestion, Hanging (pieces '\n' s.toList) := by
  obtain ⟨m, ms, hm⟩ := List.exists_cons_of_ne_nil (pieces_ne_nil '\n' d.message.toList)
  have hmessage : ∀ l ∈ ms.map (indent.toList ++ ·), indent.toList <+: l := by
    intro l hl
    obtain ⟨k, -, rfl⟩ := List.mem_map.1 hl
    exact List.prefix_append _ k
  rw [Hanging, textLines_eq (newline_not_mem_lead hfile hcode) hm, List.cons_append, List.tail_cons,
    List.forall_mem_append, and_iff_right hmessage, helpLines]
  cases d.suggestion with
  | none => simp
  | some s =>
    obtain ⟨q, qs, hq⟩ := List.exists_cons_of_ne_nil (pieces_ne_nil '\n' s.toList)
    have hhelp : pieces '\n' (indent ++ "help: " ++ s).toList =
        ((indent ++ "help: ").toList ++ q) :: qs := by
      rw [String.toList_append]
      exact pieces_append_of_not_mem (by simp [indent]) hq
    have hfirst : indent.toList <+: (indent ++ "help: ").toList ++ q := by
      rw [String.toList_append, List.append_assoc]
      exact List.prefix_append _ _
    simp only [hhelp, List.forall_mem_cons, hfirst, true_and, Option.mem_def, Option.some.injEq,
      forall_eq', Hanging, hq, List.tail_cons]

theorem Flat.hanging {d : Diagnostic} (h : d.Flat) : Hanging d.textLines := by
  refine (hanging_textLines_iff h.file h.code).2 fun s hs => ?_
  rw [pieces_of_not_mem (h.suggestion s hs)]
  exact List.forall_mem_nil _

end Diagnostic

/-! ### The lines of a report -/

namespace Report

/-- The number of an entry, as it stands before its diagnostic. -/
def number (k : Nat) : List Char := ("  " ++ k.repr ++ ". ").toList

/-- The first lines of the entries for diagnostics that are numbered from `k` on. -/
def heads (k : Nat) (ds : List Diagnostic) : List (List Char) :=
  (ds.zipIdx k).map fun dk => number dk.2 ++ dk.1.firstLine

/-- The heading of a section of `n` diagnostics. -/
def heading (noun : String) (n : Nat) : List Char :=
  (n.repr ++ " " ++ noun ++ (if n = 1 then "" else "s") ++ ":").toList

def sectionHeading (noun : String) (ds : List Diagnostic) : List (List Char) :=
  if ds = [] then [] else [heading noun ds.length]

/-- The headline, which only a success has. -/
def headline (r : Report) : List (List Char) :=
  if r.success then ["Compilation successful.".toList] else []

/-- The headline and the headings of the sections that there are. -/
def headings (r : Report) : List (List Char) :=
  r.headline ++ sectionHeading "error" r.errors ++ sectionHeading "warning" r.warnings

/-- A line that starts with two spaces and a digit. -/
def isEntry : List Char → Bool
  | ' ' :: ' ' :: c :: _ => c.isDigit
  | _ => false

/-- A line that is not empty, not an entry, and does not start with five spaces. -/
def isHeading (l : List Char) : Bool :=
  !l.isEmpty && !isEntry l && !Diagnostic.indent.toList.isPrefixOf l

def entryLines (k : Nat) (ds : List Diagnostic) : List (List Char) :=
  (ds.zipIdx k).flatMap fun dk => (number dk.2 ++ dk.1.firstLine) :: dk.1.textLines.tail

def sectionLines (noun : String) (ds : List Diagnostic) : List (List Char) :=
  if ds = [] then [] else heading noun ds.length :: entryLines 1 ds ++ [[]]

/-- The lines before trimming. -/
def bodyLines (r : Report) : List (List Char) :=
  r.headline ++ sectionLines "error" r.errors ++ sectionLines "warning" r.warnings

theorem heads_cons (k : Nat) (d : Diagnostic) (ds : List Diagnostic) :
    heads k (d :: ds) = (number k ++ d.firstLine) :: heads (k + 1) ds := by
  rw [heads, List.zipIdx_cons, List.map_cons, heads]

theorem entryLines_cons (k : Nat) (d : Diagnostic) (ds : List Diagnostic) :
    entryLines k (d :: ds) =
      (number k ++ d.firstLine) :: d.textLines.tail ++ entryLines (k + 1) ds := by
  rw [entryLines, List.zipIdx_cons, List.flatMap_cons, entryLines]

theorem toList_entries (k : Nat) (ds : List Diagnostic) :
    (entries k ds).toList = ended (entryLines k ds) := by
  induction ds generalizing k with
  | nil => rfl
  | cons d ds ih =>
    have hlines : ended (d.firstLine :: d.textLines.tail) = d.text.toList ++ ['\n'] := by
      rw [d.firstLine_cons_tail, Diagnostic.textLines, ended_pieces]
    have hentry : (entry k d).toList =
        ended ((number k ++ d.firstLine) :: d.textLines.tail) := by
      rw [ended_cons, List.append_assoc, ← ended_cons, hlines, entry, number]
      simp
    rw [entries, String.toList_append, ih, hentry, entryLines_cons, ended_append]

theorem toList_sectionText (noun : String) (ds : List Diagnostic) :
    (sectionText noun ds).toList = ended (sectionLines noun ds) := by
  unfold sectionText sectionLines
  split
  · rfl
  · rw [String.toList_append, String.toList_append, toList_entries, ended_append, ended_cons]
    simp [heading, ended]

/-- A report on diagnostics is the text of its lines, trimmed. -/
theorem toList_text {r : Report} (h : r.diagnostics ≠ []) :
    r.text.toList = trimEnd (ended r.bodyLines) := by
  have hheadline : (if r.success then "Compilation successful.\n" else "").toList =
      ended r.headline := by
    unfold headline
    split <;> rfl
  rw [text, if_neg fun hclean => h hclean.2, if_neg h, trimmedEnd, String.toList_ofList, bodyLines]
  simp only [String.toList_append, hheadline, toList_sectionText, ended_append, String.toList_empty,
    List.append_nil]

/-- A failure without diagnostics shows what the compiler wrote. -/
theorem toList_text_of_failure {r : Report} (hsuccess : r.success = false)
    (h : r.diagnostics = []) : r.text.toList = trimEnd r.failureText.toList := by
  obtain ⟨herrors, hwarnings⟩ := List.append_eq_nil_iff.1 h
  rw [text, if_neg (by simp [hsuccess]), trimmedEnd, String.toList_ofList,
    if_neg (by simp [hsuccess]), if_pos h, herrors, hwarnings]
  simp only [sectionText, if_pos, String.empty_append]

/-! ### What the lines belong to -/

theorem isEntry_iff {l : List Char} :
    isEntry l = true ↔ ∃ c t, l = ' ' :: ' ' :: c :: t ∧ c.isDigit = true := by
  constructor
  · intro h
    unfold isEntry at h
    split at h
    next c t => exact ⟨c, t, rfl, h⟩
    next => exact absurd h (by decide)
  · rintro ⟨c, t, rfl, hc⟩
    exact hc

theorem isHeading_iff {l : List Char} :
    isHeading l = true ↔ l ≠ [] ∧ isEntry l = false ∧ ¬ Diagnostic.indent.toList <+: l := by
  simp [isHeading, and_assoc, ← List.isPrefixOf_iff_prefix]

theorem isEntry_indented {l : List Char} (h : Diagnostic.indent.toList <+: l) :
    isEntry l = false := by
  obtain ⟨t, rfl⟩ := h
  rfl

theorem isHeading_indented {l : List Char} (h : Diagnostic.indent.toList <+: l) :
    isHeading l = false :=
  Bool.eq_false_iff.2 fun hl => (isHeading_iff.1 hl).2.2 h

theorem isEntry_number (k : Nat) (t : List Char) : isEntry (number k ++ t) = true := by
  obtain ⟨c, ds, hc⟩ := List.exists_cons_of_ne_nil (Numeral.repr_ne_nil k)
  have hdigit : c.isDigit = true := Numeral.isDigit_of_mem_repr (hc ▸ List.mem_cons_self)
  refine isEntry_iff.2 ⟨c, ds ++ ". ".toList ++ t, ?_, hdigit⟩
  rw [number, String.toList_append, String.toList_append, hc]
  simp

theorem isHeading_of_isEntry {l : List Char} (h : isEntry l = true) : isHeading l = false := by
  rw [isHeading, h]
  simp

/-- A heading starts with a digit. -/
theorem heading_eq_cons (noun : String) (n : Nat) :
    ∃ c t, heading noun n = c :: t ∧ c.isDigit = true := by
  obtain ⟨c, ds, hc⟩ := List.exists_cons_of_ne_nil (Numeral.repr_ne_nil n)
  refine ⟨c, ds ++ (" " ++ noun ++ (if n = 1 then "" else "s") ++ ":").toList, ?_,
    Numeral.isDigit_of_mem_repr (hc ▸ List.mem_cons_self)⟩
  simp only [heading, String.toList_append, hc, List.cons_append, List.append_assoc]

theorem isHeading_of_head {c : Char} (hc : c ≠ ' ') (t : List Char) :
    isHeading (c :: t) = true := by
  refine isHeading_iff.2 ⟨List.cons_ne_nil c t, ?_, ?_⟩
  · refine Bool.eq_false_iff.2 fun h => ?_
    obtain ⟨d, u, heq, -⟩ := isEntry_iff.1 h
    exact hc (List.cons.inj heq).1
  · rintro ⟨u, heq⟩
    exact hc (List.cons.inj heq).1.symm

theorem isHeading_heading (noun : String) (n : Nat) : isHeading (heading noun n) = true := by
  obtain ⟨c, t, heq, hc⟩ := heading_eq_cons noun n
  rw [heq]
  refine isHeading_of_head ?_ t
  rintro rfl
  exact absurd hc (by decide)

variable {ds : List Diagnostic} {r : Report}

theorem filter_entryLines (h : ∀ d ∈ ds, Diagnostic.Hanging d.textLines) (k : Nat) :
    (entryLines k ds).filter isEntry = heads k ds ∧ (entryLines k ds).filter isHeading = [] := by
  induction ds generalizing k with
  | nil => exact ⟨rfl, rfl⟩
  | cons d ds ih =>
    have htail := h d List.mem_cons_self
    have hentry : d.textLines.tail.filter isEntry = [] :=
      List.filter_eq_nil_iff.2 fun l hl => by simp [isEntry_indented (htail l hl)]
    have hheading : d.textLines.tail.filter isHeading = [] :=
      List.filter_eq_nil_iff.2 fun l hl => by simp [isHeading_indented (htail l hl)]
    have hnumber := isEntry_number k d.firstLine
    obtain ⟨hheads, hnone⟩ := ih (fun e he => h e (List.mem_cons_of_mem d he)) (k + 1)
    rw [entryLines_cons, List.cons_append, List.filter_cons_of_pos hnumber,
      List.filter_cons_of_neg (by simp [isHeading_of_isEntry hnumber]), List.filter_append,
      List.filter_append, hentry, hheading, hheads, hnone, heads_cons]
    exact ⟨rfl, rfl⟩

theorem filter_sectionLines (h : ∀ d ∈ ds, Diagnostic.Hanging d.textLines) (noun : String) :
    (sectionLines noun ds).filter isEntry = heads 1 ds ∧
      (sectionLines noun ds).filter isHeading = sectionHeading noun ds := by
  unfold sectionLines sectionHeading
  split
  next hds => rw [hds]; exact ⟨rfl, rfl⟩
  next =>
    have hheading := isHeading_heading noun ds.length
    have hentry : isEntry (heading noun ds.length) = false := (isHeading_iff.1 hheading).2.1
    obtain ⟨hheads, hnone⟩ := filter_entryLines h 1
    rw [List.cons_append, List.filter_cons_of_pos hheading,
      List.filter_cons_of_neg (by simp [hentry]), List.filter_append, List.filter_append, hheads,
      hnone]
    exact ⟨List.append_nil _, rfl⟩

theorem filter_bodyLines_of_hanging (h : ∀ d ∈ r.diagnostics, Diagnostic.Hanging d.textLines) :
    r.bodyLines.filter isEntry = heads 1 r.errors ++ heads 1 r.warnings ∧
      r.bodyLines.filter isHeading = r.headings := by
  obtain ⟨herrors, hwarnings⟩ := List.forall_mem_append.1 h
  have hheadline : r.headline.filter isEntry = [] ∧ r.headline.filter isHeading = r.headline := by
    unfold headline
    split <;> exact ⟨rfl, rfl⟩
  simp only [bodyLines, headings, List.filter_append, hheadline, filter_sectionLines herrors,
    filter_sectionLines hwarnings, List.nil_append, and_self]

theorem filter_bodyLines (h : ∀ d ∈ r.diagnostics, d.Flat) :
    r.bodyLines.filter isEntry = heads 1 r.errors ++ heads 1 r.warnings ∧
      r.bodyLines.filter isHeading = r.headings :=
  filter_bodyLines_of_hanging fun d hd => (h d hd).hanging

/-! ### Trimming -/

theorem isEntry_trimEnd (l : List Char) : isEntry (trimEnd l) = isEntry l := by
  rw [Bool.eq_iff_iff, isEntry_iff, isEntry_iff]
  constructor
  · rintro ⟨c, t, heq, hc⟩
    obtain ⟨blanks, hl, -⟩ := trimEnd_append_blanks l
    exact ⟨c, t ++ blanks, by rw [hl, heq]; rfl, hc⟩
  · rintro ⟨c, t, rfl, hc⟩
    exact ⟨c, trimEnd t, trimEnd_append_cons [' ', ' '] t (isBlank_of_isDigit hc), hc⟩

theorem isBlank_of_mem_indent : ∀ c ∈ Diagnostic.indent.toList, isBlank c = true := by
  simp [Diagnostic.indent, isBlank]

theorem isHeading_trimEnd {l : List Char} (h : trimEnd l ≠ []) :
    isHeading (trimEnd l) = isHeading l := by
  have hne : l ≠ [] := fun hl => h (hl ▸ trimEnd_nil)
  have hindent : Diagnostic.indent.toList <+: trimEnd l ↔ Diagnostic.indent.toList <+: l := by
    constructor
    · obtain ⟨blanks, hl, -⟩ := trimEnd_append_blanks l
      exact fun hstart => hstart.trans ⟨blanks, hl.symm⟩
    · rintro ⟨t, rfl⟩
      have ht : trimEnd t ≠ [] := by
        intro ht
        refine h (trimEnd_eq_nil fun c hc => ?_)
        rcases List.mem_append.1 hc with hc | hc
        · exact isBlank_of_mem_indent c hc
        · exact isBlank_of_trimEnd_eq_nil ht c hc
      rw [trimEnd_append _ ht]
      exact List.prefix_append _ _
  rw [Bool.eq_iff_iff, isHeading_iff, isHeading_iff, isEntry_trimEnd, hindent]
  simp only [ne_eq, h, hne]

theorem trimEnd_heading (noun : String) (n : Nat) :
    trimEnd (heading noun n) = heading noun n := by
  refine trimEnd_of_getLast? ?_
  have hcolon : ":".toList = [':'] := rfl
  rw [heading, String.toList_append, hcolon, List.getLast?_concat]
  rintro _ ⟨rfl⟩
  decide

theorem trimEnd_of_mem_headings {l : List Char} (h : l ∈ r.headings) : trimEnd l = l ∧ l ≠ [] := by
  have hsection {noun : String} {ds : List Diagnostic} (hl : l ∈ sectionHeading noun ds) :
      trimEnd l = l ∧ l ≠ [] := by
    unfold sectionHeading at hl
    split at hl
    next => exact absurd hl List.not_mem_nil
    next =>
      rw [List.mem_singleton.1 hl]
      exact ⟨trimEnd_heading noun ds.length, (isHeading_iff.1 (isHeading_heading ..)).1⟩
  unfold headings headline at h
  rcases List.mem_append.1 h with h | h
  · rcases List.mem_append.1 h with h | h
    · split at h
      next =>
        rw [List.mem_singleton.1 h]
        exact ⟨by decide +kernel, by decide⟩
      next => exact absurd h List.not_mem_nil
    · exact hsection h
  · exact hsection h

theorem newline_not_mem_entryLines (k : Nat) (ds : List Diagnostic) :
    ∀ l ∈ entryLines k ds, '\n' ∉ l := by
  intro l hl
  obtain ⟨⟨d, n⟩, -, hl⟩ := List.mem_flatMap.1 hl
  have htext : ∀ l ∈ d.textLines, '\n' ∉ l := fun _ hl => not_mem_of_mem_pieces hl
  rw [← d.firstLine_cons_tail] at htext
  rcases List.mem_cons.1 hl with rfl | hl
  · simp [number, Diagnostic.newline_not_mem_digits, htext _ List.mem_cons_self]
  · exact htext l (List.mem_cons_of_mem _ hl)

theorem newline_not_mem_sectionLines {noun : String} (h : '\n' ∉ noun.toList)
    (ds : List Diagnostic) : ∀ l ∈ sectionLines noun ds, '\n' ∉ l := by
  intro l hl
  unfold sectionLines at hl
  split at hl
  next => exact absurd hl List.not_mem_nil
  next =>
    simp only [List.cons_append, List.mem_cons, List.mem_append, List.not_mem_nil, or_false] at hl
    rcases hl with rfl | hl | rfl
    · unfold heading
      split <;> simp [h, Diagnostic.newline_not_mem_digits]
    · exact newline_not_mem_entryLines 1 ds l hl
    · exact List.not_mem_nil

theorem newline_not_mem_bodyLines (r : Report) : ∀ l ∈ r.bodyLines, '\n' ∉ l := by
  have hheadline : ∀ l ∈ r.headline, '\n' ∉ l := by
    unfold headline
    split <;> simp
  exact List.forall_mem_append.2 ⟨List.forall_mem_append.2 ⟨hheadline,
    newline_not_mem_sectionLines (by decide) r.errors⟩,
    newline_not_mem_sectionLines (by decide) r.warnings⟩

/-- The lines of the trimmed text are those of the body up to the last that is not blank. -/
theorem exists_lines (h : r.diagnostics ≠ []) :
    ∃ qs q rs, r.bodyLines = qs ++ q :: rs ∧ trimEnd q ≠ [] ∧ (∀ l ∈ rs, trimEnd l = []) ∧
      pieces '\n' r.text.toList = qs ++ [trimEnd q] := by
  have hsection (noun : String) {ds : List Diagnostic} (hds : ds ≠ []) :
      ∃ l ∈ sectionLines noun ds, trimEnd l ≠ [] := by
    refine ⟨heading noun ds.length, by simp [sectionLines, hds], ?_⟩
    rw [trimEnd_heading]
    exact (isHeading_iff.1 (isHeading_heading ..)).1
  have hlast : ∃ l ∈ r.bodyLines, trimEnd l ≠ [] := by
    by_cases herrors : r.errors = []
    · have hwarnings : r.warnings ≠ [] := fun hw => h (List.append_eq_nil_iff.2 ⟨herrors, hw⟩)
      obtain ⟨l, hl, hne⟩ := hsection "warning" hwarnings
      exact ⟨l, by simp [bodyLines, hl], hne⟩
    · obtain ⟨l, hl, hne⟩ := hsection "error" herrors
      exact ⟨l, by simp [bodyLines, hl], hne⟩
  obtain ⟨qs, q, rs, hbody, hq, hrs⟩ := exists_last_not_blank hlast
  refine ⟨qs, q, rs, hbody, hq, hrs, ?_⟩
  rw [toList_text h, hbody]
  exact pieces_trimEnd_ended (hbody ▸ r.newline_not_mem_bodyLines) hq hrs

theorem filter_isEntry_text (h : r.diagnostics ≠ []) :
    (pieces '\n' r.text.toList).filter isEntry = r.bodyLines.filter isEntry ∨
      ∃ init last, r.bodyLines.filter isEntry = init ++ [last] ∧
        (pieces '\n' r.text.toList).filter isEntry = init ++ [trimEnd last] ∧
        (pieces '\n' r.text.toList).getLast? = some (trimEnd last) := by
  obtain ⟨qs, q, rs, hbody, hq, hrs, hlines⟩ := exists_lines h
  have hblank : rs.filter isEntry = [] := by
    refine List.filter_eq_nil_iff.2 fun l hl => ?_
    rw [← isEntry_trimEnd, hrs l hl]
    simp [isEntry]
  rw [hbody, hlines]
  cases hentry : isEntry q with
  | false => exact .inl (by simp [hentry, isEntry_trimEnd, hblank])
  | true =>
    refine .inr ⟨qs.filter isEntry, q, ?_, ?_, List.getLast?_concat⟩
    · simp [hentry, hblank]
    · simp [hentry, isEntry_trimEnd]

theorem filter_isHeading_text_of_hanging (h : r.diagnostics ≠ [])
    (hhanging : ∀ d ∈ r.diagnostics, Diagnostic.Hanging d.textLines) :
    (pieces '\n' r.text.toList).filter isHeading = r.headings := by
  obtain ⟨qs, q, rs, hbody, hq, hrs, hlines⟩ := exists_lines h
  have hmem : ∀ l ∈ r.bodyLines, isHeading l = true → trimEnd l = l ∧ l ≠ [] := by
    intro l hl hheading
    refine trimEnd_of_mem_headings (r := r) ?_
    rw [← (filter_bodyLines_of_hanging hhanging).2]
    exact List.mem_filter.2 ⟨hl, hheading⟩
  have hblank : rs.filter isHeading = [] := by
    refine List.filter_eq_nil_iff.2 fun l hl hheading => ?_
    obtain ⟨htrim, hne⟩ := hmem l (by simp [hbody, hl]) hheading
    exact hne (htrim.symm.trans (hrs l hl))
  rw [← (filter_bodyLines_of_hanging hhanging).2, hlines, hbody]
  cases hheading : isHeading q with
  | false => simp [hheading, isHeading_trimEnd hq, hblank]
  | true =>
    obtain ⟨htrim, -⟩ := hmem q (by simp [hbody]) hheading
    simp [hheading, htrim, hblank]

theorem filter_isHeading_text (h : r.diagnostics ≠ []) (hflat : ∀ d ∈ r.diagnostics, d.Flat) :
    (pieces '\n' r.text.toList).filter isHeading = r.headings :=
  filter_isHeading_text_of_hanging h fun d hd => (hflat d hd).hanging

/-! ### How a text begins -/

theorem isPrefix_text_of_failure {r : Report} (hsuccess : r.success = false)
    (h : r.diagnostics = []) : "Compilation failed.".toList <+: r.text.toList := by
  have hlast : ∀ c ∈ "Compilation failed.".toList.getLast?, isBlank c = false :=
    not_isBlank_of_all_getLast? (by decide +kernel)
  have hline : "Compilation failed.".toList <+: "Compilation failed.\n".toList := by
    decide +kernel
  have hfailure : "Compilation failed.\n".toList <+: r.failureText.toList :=
    ⟨_, (String.toList_append ..).symm⟩
  rw [toList_text_of_failure hsuccess h]
  exact (isPrefix_trimEnd_iff hlast).2 (hline.trans hfailure)

theorem isPrefix_text_of_success {r : Report} (hsuccess : r.success = true)
    (h : r.diagnostics ≠ []) : "Compilation successful.".toList <+: r.text.toList := by
  have hlast : ∀ c ∈ "Compilation successful.".toList.getLast?, isBlank c = false :=
    not_isBlank_of_all_getLast? (by decide +kernel)
  rw [toList_text h]
  refine (isPrefix_trimEnd_iff hlast).2 ?_
  rw [bodyLines, headline, if_pos hsuccess, List.append_assoc, List.singleton_append, ended_cons]
  exact List.prefix_append _ _

/-- Without a headline, the first section's heading comes first. -/
theorem exists_bodyLines_eq_heading {r : Report} (hsuccess : r.success = false)
    (h : r.diagnostics ≠ []) : ∃ noun n rest, r.bodyLines = heading noun n :: rest := by
  rw [bodyLines, headline, if_neg (by simp [hsuccess]), List.nil_append]
  by_cases herrors : r.errors = []
  · have hwarnings : r.warnings ≠ [] := fun hw => h (List.append_eq_nil_iff.2 ⟨herrors, hw⟩)
    rw [sectionLines, if_pos herrors, sectionLines, if_neg hwarnings]
    exact ⟨_, _, _, rfl⟩
  · rw [sectionLines, if_neg herrors]
    exact ⟨_, _, _, rfl⟩

theorem exists_digit_head?_text {r : Report} (hsuccess : r.success = false)
    (h : r.diagnostics ≠ []) : ∃ c, c.isDigit = true ∧ r.text.toList.head? = some c := by
  obtain ⟨noun, n, rest, hbody⟩ := exists_bodyLines_eq_heading hsuccess h
  obtain ⟨c, t, hhead, hc⟩ := heading_eq_cons noun n
  have hlast : ∀ d ∈ [c].getLast?, isBlank d = false := by
    rintro _ ⟨rfl⟩
    exact isBlank_of_isDigit hc
  have hstart : [c] <+: r.text.toList := by
    rw [toList_text h, isPrefix_trimEnd_iff hlast, hbody, ended_cons, hhead]
    exact ⟨_, rfl⟩
  obtain ⟨s, hs⟩ := hstart
  exact ⟨c, hc, by rw [← hs]; rfl⟩

/-- What a text begins with tells the verdict and whether there are diagnostics. -/
theorem text_begins (r : Report) :
    (r.success = true ∧ r.diagnostics = [] ∧ r.text = successLine) ∨
    (r.success = true ∧ r.diagnostics ≠ [] ∧
      "Compilation successful.".toList <+: r.text.toList) ∨
    (r.success = false ∧ r.diagnostics = [] ∧ "Compilation failed.".toList <+: r.text.toList) ∨
    (r.success = false ∧ r.diagnostics ≠ [] ∧
      ∃ c, c.isDigit = true ∧ r.text.toList.head? = some c) := by
  by_cases h : r.diagnostics = []
  · cases hsuccess : r.success with
    | true =>
      refine .inl ⟨rfl, h, ?_⟩
      rw [text, if_pos ⟨hsuccess, h⟩]
    | false => exact .inr (.inr (.inl ⟨rfl, h, isPrefix_text_of_failure hsuccess h⟩))
  · cases hsuccess : r.success with
    | true => exact .inr (.inl ⟨rfl, h, isPrefix_text_of_success hsuccess h⟩)
    | false => exact .inr (.inr (.inr ⟨rfl, h, exists_digit_head?_text hsuccess h⟩))

theorem not_isPrefix_of_isPrefix {s a b : List Char} (ha : a <+: s) (hab : ¬ a <+: b)
    (hba : ¬ b <+: a) : ¬ b <+: s :=
  fun hb => (List.prefix_or_prefix_of_prefix ha hb).elim hab hba

theorem verdict_of_text (r : Report) :
    (r.text = successLine ↔ r.success = true ∧ r.diagnostics = []) ∧
    ("Compilation successful".toList <+: r.text.toList ↔ r.success = true) ∧
    ("Compilation failed.".toList <+: r.text.toList ↔
      r.success = false ∧ r.diagnostics = []) := by
  have hne {start : List Char} (h : start <+: r.text.toList)
      (hline : ¬ start <+: successLine.toList) : r.text ≠ successLine :=
    fun heq => hline (heq ▸ h)
  rcases r.text_begins with ⟨hs, hd, h⟩ | ⟨hs, hd, h⟩ | ⟨hs, hd, h⟩ | ⟨hs, hd, c, hc, h⟩
  · have hsuccess : "Compilation successful".toList <+: successLine.toList := by decide +kernel
    have hfailed : ¬ "Compilation failed.".toList <+: successLine.toList := by decide +kernel
    simp only [h, hs, hd, hsuccess, hfailed, and_self, Bool.true_eq_false, false_and]
  · have hclean := hne h (by decide +kernel)
    have hsuccess : "Compilation successful".toList <+: r.text.toList :=
      List.IsPrefix.trans (by decide +kernel) h
    have hfailed : ¬ "Compilation failed.".toList <+: r.text.toList :=
      not_isPrefix_of_isPrefix h (by decide +kernel) (by decide +kernel)
    simp only [hs, hd, hclean, hsuccess, hfailed, and_self, Bool.true_eq_false, and_false]
  · have hclean := hne h (by decide +kernel)
    have hsuccess : ¬ "Compilation successful".toList <+: r.text.toList :=
      not_isPrefix_of_isPrefix h (by decide +kernel) (by decide +kernel)
    simp only [hs, hd, hclean, hsuccess, h, and_self, Bool.false_eq_true, false_and]
  · have hstart {start : List Char} (hC : start.head? = some 'C') : ¬ start <+: r.text.toList := by
      rintro ⟨t, ht⟩
      rw [← ht, List.head?_append, hC, Option.some_or, Option.some.injEq] at h
      exact absurd hc (h ▸ by decide)
    have hclean : r.text ≠ successLine := by
      intro heq
      have hC : successLine.toList.head? = some 'C' := by decide +kernel
      exact hstart hC (heq ▸ List.prefix_rfl)
    have hsuccess : ¬ "Compilation successful".toList <+: r.text.toList :=
      hstart (by decide +kernel)
    have hfailed : ¬ "Compilation failed.".toList <+: r.text.toList := hstart (by decide +kernel)
    simp only [hs, hd, hclean, hsuccess, hfailed, and_self, Bool.false_eq_true, and_false]

/-! ### Counts -/

theorem digits?_heading (noun : String) (n : Nat) :
    Numeral.digits? (heading noun n) =
      some (n.repr.toList, ' ' :: (noun ++ (if n = 1 then "" else "s") ++ ":").toList) := by
  have hheading : heading noun n =
      n.repr.toList ++ ' ' :: (noun ++ (if n = 1 then "" else "s") ++ ":").toList := by
    simp [heading]
  rw [hheading]
  refine Numeral.digits?_append (Numeral.repr_ne_nil n) (fun c => Numeral.isDigit_of_mem_repr) ?_
  rintro _ ⟨rfl⟩
  decide

theorem heading_inj {noun noun' : String} {n m : Nat} (h : heading noun n = heading noun' m) :
    noun = noun' ∧ n = m := by
  have hdigits := congrArg Numeral.digits? h
  rw [digits?_heading, digits?_heading, Option.some.injEq, Prod.mk.injEq,
    List.cons.injEq] at hdigits
  obtain ⟨hrepr, -, hrest⟩ := hdigits
  have hnumber := congrArg Numeral.ofDigits hrepr
  rw [Numeral.ofDigits_repr, Numeral.ofDigits_repr] at hnumber
  subst hnumber
  rw [String.toList_inj, String.append_left_inj, String.append_left_inj] at hrest
  exact ⟨hrest, rfl⟩

theorem length_eq_of_sectionHeadings {es es' ws ws' : List Diagnostic}
    (h : sectionHeading "error" es ++ sectionHeading "warning" ws =
      sectionHeading "error" es' ++ sectionHeading "warning" ws') :
    es.length = es'.length ∧ ws.length = ws'.length := by
  have hnoun (n m : Nat) : heading "error" n ≠ heading "warning" m :=
    fun heq => absurd (heading_inj heq).1 (by decide)
  have hcount {noun : String} {n m : Nat} (heq : heading noun n = heading noun m) : n = m :=
    (heading_inj heq).2
  unfold sectionHeading at h
  grind

/-- Reports with the same text have the same verdict and as many errors and warnings. -/
theorem counts_of_text_eq {r r' : Report} (h : r.text = r'.text)
    (hflat : ∀ d ∈ r.diagnostics, d.Flat) (hflat' : ∀ d ∈ r'.diagnostics, d.Flat) :
    r.success = r'.success ∧ r.errors.length = r'.errors.length ∧
      r.warnings.length = r'.warnings.length := by
  obtain ⟨hclean, hsuccess, hfailure⟩ := r.verdict_of_text
  obtain ⟨hclean', hsuccess', hfailure'⟩ := r'.verdict_of_text
  rw [h] at hclean hsuccess hfailure
  have hverdict : r.success = r'.success := by
    rw [Bool.eq_iff_iff, ← hsuccess, ← hsuccess']
  have hnone : r.diagnostics = [] ↔ r'.diagnostics = [] := by
    cases hs : r'.success with
    | true => simpa [hverdict, hs] using hclean.symm.trans hclean'
    | false => simpa [hverdict, hs] using hfailure.symm.trans hfailure'
  refine ⟨hverdict, ?_⟩
  by_cases hd : r.diagnostics = []
  · obtain ⟨herrors, hwarnings⟩ := List.append_eq_nil_iff.1 hd
    obtain ⟨herrors', hwarnings'⟩ := List.append_eq_nil_iff.1 (hnone.1 hd)
    rw [herrors, herrors', hwarnings, hwarnings']
    exact ⟨rfl, rfl⟩
  · have hheadings : r.headings = r'.headings := by
      rw [← filter_isHeading_text hd hflat, h, filter_isHeading_text (hnone.not.1 hd) hflat']
    rw [headings, headings, headline, headline, hverdict, List.append_assoc, List.append_assoc,
      List.append_right_inj] at hheadings
    exact length_eq_of_sectionHeadings hheadings

/-- The text of a report tells its verdict, and which of its lines are entries and headings. There
is one entry for each diagnostic, numbered from one in each section, and one heading for each
section, with the number of its diagnostics; only the last entry may have lost blanks, if it is the
end of the text. Every other line is empty or stands behind five spaces, whatever the messages. -/
theorem verdict_and_numbering_of_text (r : Report) :
    (r.text = successLine ↔ r.success = true ∧ r.errors = [] ∧ r.warnings = []) ∧
    ("Compilation successful".toList <+: r.text.toList ↔ r.success = true) ∧
    ("Compilation failed.".toList <+: r.text.toList ↔
      r.success = false ∧ r.errors = [] ∧ r.warnings = []) ∧
    (r.diagnostics ≠ [] → (∀ d ∈ r.diagnostics, d.Flat) →
      let ls := pieces '\n' r.text.toList
      let es := heads 1 r.errors ++ heads 1 r.warnings
      (ls.filter isEntry = es ∨ ∃ init last, es = init ++ [last] ∧
        ls.filter isEntry = init ++ [trimEnd last] ∧ ls.getLast? = some (trimEnd last)) ∧
      ls.filter isHeading = r.headings ∧
      ∀ l ∈ ls, isEntry l = true ∨ l ∈ r.headings ∨ l = [] ∨
        Diagnostic.indent.toList <+: l) := by
  have hdiagnostics : r.diagnostics = [] ↔ r.errors = [] ∧ r.warnings = [] :=
    List.append_eq_nil_iff
  rw [← hdiagnostics]
  obtain ⟨hclean, hsuccess, hfailure⟩ := r.verdict_of_text
  refine ⟨hclean, hsuccess, hfailure, fun h hflat => ?_⟩
  intro ls es
  have hheadings := filter_isHeading_text h hflat
  refine ⟨?_, hheadings, ?_⟩
  · have hentries := filter_isEntry_text h
    rwa [(filter_bodyLines hflat).1] at hentries
  · intro l hl
    by_cases hheading : isHeading l = true
    · rw [← hheadings]
      exact .inr (.inl (List.mem_filter.2 ⟨hl, hheading⟩))
    · by_contra hnone
      simp only [not_or, Bool.not_eq_true] at hnone
      obtain ⟨hentry, -, hne, hindent⟩ := hnone
      exact hheading (isHeading_iff.2 ⟨hne, hentry, hindent⟩)

/-- A message with lines that look like an entry and a heading, and an entry that loses the blank at
its end. -/
theorem verdict_and_numbering_of_text_forged :
    let forged : Diagnostic :=
      { level := .error, message := "a\n  2. b\n3 errors:\n", line := some 7 }
    let r : Report := { errors := [forged], warnings := [{ level := .warning, message := "\n " }] }
    let ls := pieces '\n' r.text.toList
    r.diagnostics ≠ [] ∧ (∀ d ∈ r.diagnostics, d.Flat) ∧
      ls = ["1 error:", "  1. line 7: a", "       2. b", "     3 errors:", "     ",
        "", "1 warning:", "  1."].map String.toList ∧
      ls.filter isEntry = ["  1. line 7: a", "  1."].map String.toList ∧
      ls.filter isHeading = ["1 error:", "1 warning:"].map String.toList := by
  intro forged r ls
  have hne : r.diagnostics ≠ [] := by simp [r, diagnostics]
  have hflat : ∀ d ∈ r.diagnostics, d.Flat := by
    simp only [r, diagnostics, List.cons_append, List.nil_append, List.forall_mem_cons]
    exact ⟨⟨nofun, nofun, nofun⟩, ⟨nofun, nofun, nofun⟩, nofun⟩
  have hls : ls = ["1 error:", "  1. line 7: a", "       2. b", "     3 errors:", "     ",
      "", "1 warning:", "  1."].map String.toList := by
    show pieces '\n' r.text.toList = _
    rw [toList_text hne]
    decide +kernel
  obtain ⟨-, -, -, h⟩ := verdict_and_numbering_of_text r
  obtain ⟨hentries, hheadings, -⟩ := h hne hflat
  refine ⟨hne, hflat, hls, ?_, ?_⟩
  · rw [hls]
    decide +kernel
  · rw [hheadings]
    decide +kernel

end Report

end SnippetCheck
