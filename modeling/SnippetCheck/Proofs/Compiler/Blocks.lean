import Mathlib.Data.List.Infix
import SnippetCheck.Compiler.Stream

/-! The blocks of a compiler's error text. An opening line and the lines up to the next closing one
form a block, and each block is one diagnostic: its level and code are those of the opening line,
its place is that of the first arrow, and its message is the lines of text. The definitions say this
without a state. The theorems say that a reader, which takes one line at a time and keeps one open
diagnostic, gives the diagnostics of the blocks and nothing else. -/

namespace SnippetCheck.Compiler

/-! ### Lines -/

namespace Line

def opened? : Line → Option Diagnostic
  | opening d => some d
  | _ => none

def place? : Line → Option (String × Nat × Nat)
  | arrow file row column => some (file, row, column)
  | _ => none

def text? : Line → Option String
  | text t => some t
  | _ => none

/-- What a line can be, by the line without the blanks at its end. -/
theorem ofText_cases (line : List Char) :
    (Text.trimEnd line = [] ∧ ofText line = blank) ∨
    (∃ d, opening? (Text.trimEnd line) = some d ∧ ofText line = opening d) ∨
    (∃ file row column, opening? (Text.trimEnd line) = none ∧
      arrow? (Text.trimEnd line) = some (file, row, column) ∧
      ofText line = arrow file row column) ∨
    (Text.trimEnd line ≠ [] ∧ opening? (Text.trimEnd line) = none ∧
      arrow? (Text.trimEnd line) = none ∧
      ofText line = text (String.ofList (Text.trimEnd line))) := by
  unfold ofText
  dsimp only
  by_cases hne : Text.trimEnd line = []
  · exact .inl ⟨hne, by rw [if_pos hne]⟩
  rw [if_neg hne]
  cases ho : opening? (Text.trimEnd line) with
  | some d => exact .inr (.inl ⟨d, rfl, rfl⟩)
  | none =>
    cases ha : arrow? (Text.trimEnd line) with
    | some place =>
      obtain ⟨file, row, column⟩ := place
      exact .inr (.inr (.inl ⟨file, row, column, rfl, rfl, rfl⟩))
    | none => exact .inr (.inr (.inr ⟨hne, rfl, rfl, rfl⟩))

theorem ne_empty_of_text?_eq_some {line : List Char} {t : String}
    (h : (ofText line).text? = some t) : t ≠ "" := by
  obtain ⟨_, hl⟩ | ⟨_, _, hl⟩ | ⟨_, _, _, _, _, hl⟩ | ⟨hne, _, _, hl⟩ := ofText_cases line
  all_goals rw [hl] at h
  · exact absurd h (by simp [text?])
  · exact absurd h (by simp [text?])
  · exact absurd h (by simp [text?])
  · obtain rfl : String.ofList (Text.trimEnd line) = t := by simpa [text?] using h
    exact fun he => hne (by simpa using congrArg String.toList he)

end Line

/-- An opening line names neither a place nor a suggestion. -/
theorem eq_of_opening?_eq_some {line : List Char} {d : Diagnostic} (h : opening? line = some d) :
    d = { level := d.level, message := d.message, code := d.code } := by
  unfold opening? at h
  split at h
  · exact absurd h (by simp)
  · split at h
    · dsimp only at h
      split at h
      · exact absurd h (by simp)
      · injection h with h
        rw [← h]
    · exact absurd h (by simp)

theorem Line.eq_of_opened?_eq_some {line : List Char} {d : Diagnostic}
    (h : (ofText line).opened? = some d) :
    d = { level := d.level, message := d.message, code := d.code } := by
  obtain ⟨_, hl⟩ | ⟨e, ho, hl⟩ | ⟨_, _, _, _, _, hl⟩ | ⟨_, _, _, hl⟩ := ofText_cases line
  all_goals rw [hl] at h
  · exact absurd h (by simp [opened?])
  · obtain rfl : e = d := by simpa [opened?] using h
    exact eq_of_opening?_eq_some ho
  · exact absurd h (by simp [opened?])
  · exact absurd h (by simp [opened?])

/-! ### Blocks -/

/-- The diagnostic that opens a block with a line: a total opens none if totals are dropped. -/
def opened? (dropTotals : Bool) (line : List Char) : Option Diagnostic :=
  if dropTotals && isTotal line then none else (Line.ofText line).opened?

/-- Whether a line ends the block before it. -/
def closes (dropTotals : Bool) (line : List Char) : Bool :=
  (Line.ofText line).opened?.isSome || (dropTotals && isTotal line)

/-- The lines of a block, from the lines that follow its opening line. -/
def block (dropTotals : Bool) (lines : List (List Char)) : List (List Char) :=
  lines.takeWhile (!closes dropTotals ·)

def texts (block : List (List Char)) : List String :=
  block.filterMap fun line => (Line.ofText line).text?

/-- The first place that a block points to. -/
def firstPlace? (block : List (List Char)) : Option (String × Nat × Nat) :=
  (block.filterMap fun line => (Line.ofText line).place?).head?

/-- A message: those of its lines that are not empty, with a line feed between neighbours. -/
def messageOf (lines : List String) : String := "\n".intercalate (lines.filter (· ≠ ""))

/-- The diagnostic of a block whose opening line says `d`. -/
def ofBlock (d : Diagnostic) (block : List (List Char)) : Diagnostic :=
  { level := d.level
    message := messageOf (d.message :: texts block)
    code := d.code
    file := (firstPlace? block).map (·.1)
    line := (firstPlace? block).map (·.2.1)
    column := (firstPlace? block).map (·.2.2)
    suggestion := none }

/-- The diagnostic of the block that the first of some lines opens. -/
def firstBlock? (dropTotals : Bool) : List (List Char) → Option Diagnostic
  | [] => none
  | line :: lines => (opened? dropTotals line).map (ofBlock · (block dropTotals lines))

/-- The diagnostics of the blocks of some lines, one for each opening line, in order. -/
def ofBlocks (dropTotals : Bool) (lines : List (List Char)) : List Diagnostic :=
  lines.tails.filterMap (firstBlock? dropTotals)

theorem eq_of_opened?_eq_some {dropTotals : Bool} {line : List Char} {d : Diagnostic}
    (h : opened? dropTotals line = some d) :
    d = { level := d.level, message := d.message, code := d.code } := by
  unfold opened? at h
  split at h
  · exact absurd h (by simp)
  · exact Line.eq_of_opened?_eq_some h

theorem closes_of_opened? {dropTotals : Bool} {line : List Char} {d : Diagnostic}
    (h : opened? dropTotals line = some d) : closes dropTotals line = true := by
  unfold opened? at h
  split at h
  · exact absurd h (by simp)
  · simp [closes, h]

/-! ### The open diagnostic -/

/-- The open diagnostic after a line of its block. -/
def absorb (d : Diagnostic) (line : List Char) : Diagnostic :=
  match Line.ofText line with
  | .arrow file row column => d.locate file row column
  | .text t => d.extend t
  | _ => d

theorem advance_of_closes {dropTotals : Bool} {line : List Char}
    (h : closes dropTotals line = true) (current : Option Diagnostic) :
    advance dropTotals current line = (current, opened? dropTotals line) := by
  unfold advance opened?
  split
  · rfl
  · next hd =>
    rw [closes, Bool.or_eq_true, or_iff_left hd] at h
    split <;> simp_all [Line.opened?]

theorem advance_of_not_closes {dropTotals : Bool} {line : List Char}
    (h : closes dropTotals line = false) (current : Option Diagnostic) :
    advance dropTotals current line = (none, current.map (absorb · line)) := by
  rw [closes, Bool.or_eq_false_iff] at h
  unfold advance absorb
  rw [h.2]
  cases hl : Line.ofText line with
  | opening d => simp [hl, Line.opened?] at h
  | arrow file row column => rfl
  | blank => simp
  | text t => rfl

/-- The diagnostics of lines that follow an open diagnostic are that diagnostic, with what the lines
of its block add, and those of the blocks that the lines open. -/
theorem diagnosticsFrom_eq (dropTotals : Bool) (current : Option Diagnostic)
    (lines : List (List Char)) :
    diagnosticsFrom dropTotals current lines =
      (current.map ((block dropTotals lines).foldl absorb ·)).toList ++
        lines.tails.filterMap fun
          | [] => none
          | line :: lines =>
            (opened? dropTotals line).map ((block dropTotals lines).foldl absorb ·) := by
  -- `current` varies: it is what the block at hand has made of its opening line so far
  induction lines generalizing current with
  | nil => simp [diagnosticsFrom, block]
  | cons line lines ih =>
    cases hc : closes dropTotals line with
    | true =>
      cases ho : opened? dropTotals line <;>
        simp [diagnosticsFrom, advance_of_closes hc, ih, block, hc, ho]
    | false =>
      have ho : opened? dropTotals line = none := by
        by_contra hne
        obtain ⟨d, hd⟩ := Option.ne_none_iff_exists'.1 hne
        exact absurd (closes_of_opened? hd) (by simp [hc])
      cases current <;>
        simp [diagnosticsFrom, advance_of_not_closes hc, ih, block, hc, ho]

theorem messageOf_singleton (m : String) : messageOf [m] = m := by
  by_cases hm : m = "" <;> simp [messageOf, hm]

theorem messageOf_extend (d : Diagnostic) {t : String} (ht : t ≠ "") (ts : List String) :
    messageOf ((d.extend t).message :: ts) = messageOf (d.message :: t :: ts) := by
  by_cases hm : d.message = ""
  · simp [messageOf, Diagnostic.extend, hm, ht]
  · have hne : d.message ++ "\n" ++ t ≠ "" := by simp
    simp only [messageOf, Diagnostic.extend, if_neg hm, List.filter_cons, decide_eq_true hne,
      decide_eq_true hm, decide_eq_true ht, if_true]
    rfl

theorem foldl_absorb_message (d : Diagnostic) (block : List (List Char)) :
    (block.foldl absorb d).message = messageOf (d.message :: texts block) := by
  induction block generalizing d with
  | nil => exact (messageOf_singleton _).symm
  | cons line block ih =>
    rw [List.foldl_cons, ih, texts, texts, List.filterMap_cons, absorb]
    cases hl : Line.ofText line with
    | text t =>
      -- an opening line without a message leaves no empty line behind
      exact messageOf_extend d (Line.ne_empty_of_text?_eq_some (by rw [hl]; rfl)) _
    | arrow file row column =>
      simp only [Line.text?, Diagnostic.locate]
      split <;> rfl
    | opening _ => rfl
    | blank => rfl

/-- The place of a diagnostic, as far as it is known. -/
def place (d : Diagnostic) : Option String × Option Nat × Option Nat := (d.file, d.line, d.column)

/-- The first arrow of a block gives the place, unless there is one already. -/
theorem place_foldl_absorb (d : Diagnostic) (block : List (List Char)) :
    place (block.foldl absorb d) =
      match d.file, firstPlace? block with
      | none, some (file, row, column) => (some file, some row, some column)
      | _, _ => place d := by
  induction block generalizing d with
  | nil => cases h : d.file <;> simp [firstPlace?]
  | cons line block ih =>
    rw [List.foldl_cons, ih, firstPlace?, firstPlace?, List.filterMap_cons, absorb]
    cases hl : Line.ofText line with
    | arrow file row column =>
      cases hf : d.file <;>
        simp [Line.place?, Diagnostic.locate, Diagnostic.withLocation, hf, place]
    | text t => cases hf : d.file <;> simp [Line.place?, Diagnostic.extend, hf, place]
    | opening _ => rfl
    | blank => rfl

theorem foldl_absorb_head (d : Diagnostic) (block : List (List Char)) :
    (block.foldl absorb d).level = d.level ∧ (block.foldl absorb d).code = d.code ∧
      (block.foldl absorb d).suggestion = d.suggestion := by
  induction block generalizing d with
  | nil => exact ⟨rfl, rfl, rfl⟩
  | cons line block ih =>
    have step : (absorb d line).level = d.level ∧ (absorb d line).code = d.code ∧
        (absorb d line).suggestion = d.suggestion := by
      unfold absorb
      split
      · unfold Diagnostic.locate
        split <;> exact ⟨rfl, rfl, rfl⟩
      · exact ⟨rfl, rfl, rfl⟩
      · exact ⟨rfl, rfl, rfl⟩
    obtain ⟨hl, hc, hs⟩ := ih (absorb d line)
    rw [List.foldl_cons]
    exact ⟨hl.trans step.1, hc.trans step.2.1, hs.trans step.2.2⟩

theorem foldl_absorb (level : Level) (message : String) (code : Option String)
    (block : List (List Char)) :
    block.foldl absorb { level, message, code } = ofBlock { level, message, code } block := by
  generalize hd : ({ level, message, code } : Diagnostic) = d
  obtain ⟨hlevel, hcode, hsuggestion⟩ := foldl_absorb_head d block
  have hplace : place (block.foldl absorb d) = place (ofBlock d block) := by
    rw [place_foldl_absorb, ← hd]
    cases h : firstPlace? block <;> simp [place, ofBlock, h]
  simp only [place, Prod.mk.injEq] at hplace
  obtain ⟨hfile, hline, hcolumn⟩ := hplace
  refine Diagnostic.ext hlevel (foldl_absorb_message d block) hcode hfile hline hcolumn ?_
  rw [hsuggestion, ← hd]
  rfl

theorem diagnosticsFrom_none (dropTotals : Bool) (lines : List (List Char)) :
    diagnosticsFrom dropTotals none lines = ofBlocks dropTotals lines := by
  rw [diagnosticsFrom_eq, Option.map_none, Option.toList_none, List.nil_append, ofBlocks]
  refine List.filterMap_congr fun tail _ => ?_
  cases tail with
  | nil => rfl
  | cons line lines =>
    refine Option.map_congr fun d hd => ?_
    rw [eq_of_opened?_eq_some hd]
    exact foldl_absorb ..

/-! ### Readers -/

namespace Stream

/-- The reader, asked for the next diagnostic until it has none, gives these. -/
inductive Gives : Stream → List Diagnostic → Prop
  | done {s : Stream} : s.next.1 = none → Gives s []
  | more {s : Stream} {d : Diagnostic} {ds : List Diagnostic} :
      s.next.1 = some d → Gives s.next.2 ds → Gives s (d :: ds)

theorem Gives.unique {s : Stream} {ds es : List Diagnostic} (h : s.Gives ds) (h' : s.Gives es) :
    ds = es := by
  induction h generalizing es with
  | done hn =>
    cases h' with
    | done => rfl
    | more hs => exact absurd (hn.symm.trans hs) (by simp)
  | more hs _ ih =>
    cases h' with
    | done hn => exact absurd (hs.symm.trans hn) (by simp)
    | more hs' hg =>
      obtain rfl := Option.some.inj (hs.symm.trans hs')
      rw [ih hg]

theorem Gives.of_next_eq {s s' : Stream} {ds : List Diagnostic} (hs : s.next = s'.next)
    (h : s'.Gives ds) : s.Gives ds := by
  cases h with
  | done hn => exact .done (hs ▸ hn)
  | more hd hg => exact .more (hs ▸ hd) (hs ▸ hg)

theorem gives_diagnosticsFrom (dropTotals : Bool) (current : Option Diagnostic)
    (lines : List (List Char)) :
    Gives { dropTotals, lines, current } (diagnosticsFrom dropTotals current lines) := by
  induction lines generalizing current with
  | nil =>
    cases current with
    | none => exact .done rfl
    | some d => exact .more rfl (.done rfl)
  | cons line lines ih =>
    rcases h : advance dropTotals current line with ⟨_ | d, after⟩
    · -- a line that finishes no diagnostic is taken on the way to the next one
      have hnext : next { dropTotals, lines := line :: lines, current } =
          next { dropTotals, lines, current := after } := by
        simp only [next, nextFrom, h]
      simpa [diagnosticsFrom, h] using (ih after).of_next_eq hnext
    · have hnext : next { dropTotals, lines := line :: lines, current } =
          (some d, { dropTotals, lines, current := after }) := by
        simp only [next, nextFrom, h]
      simpa [diagnosticsFrom, h] using
        Gives.more (congrArg Prod.fst hnext) (congrArg Prod.snd hnext ▸ ih after)

end Stream

/-- A reader at the beginning of some lines gives the diagnostics of their blocks, one for each
opening line, and nothing else. -/
theorem gives_iff_eq_ofBlocks (dropTotals : Bool) (lines : List (List Char))
    (ds : List Diagnostic) :
    Stream.Gives { dropTotals, lines } ds ↔ ds = ofBlocks dropTotals lines := by
  have h : Stream.Gives { dropTotals, lines } (ofBlocks dropTotals lines) := by
    rw [← diagnosticsFrom_none]
    exact Stream.gives_diagnosticsFrom ..
  exact ⟨fun hd => hd.unique h, fun hd => hd ▸ h⟩

example :
    ofBlocks true (["note: before", "error[E0308]: mismatched", "  --> a.rs:3:5",
      "  --> b.rs:1:1", "", "expected", "error: aborting due to 1 previous error", "after",
      "warning:", "unused"].map String.toList) =
      [{ level := .error, message := "mismatched\nexpected", code := some "E0308"
         file := some "a.rs", line := some 3, column := some 5 },
       { level := .warning, message := "unused" }] := by
  decide +kernel

end SnippetCheck.Compiler
