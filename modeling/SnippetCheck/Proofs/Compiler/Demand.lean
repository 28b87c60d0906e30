import SnippetCheck.Proofs.Compiler.Blocks

/-! How many lines a reader takes. A reader that is asked again and again gives the diagnostics of
the blocks one by one and then nothing for ever, and for each it takes the lines up to the one that
closes its block. That line may open the next block, and then the reader holds what it opened: it
goes on as a reader would that had yet to take the line. -/

namespace SnippetCheck.Compiler

namespace Stream

/-- The reader after `n` requests for a diagnostic. -/
def after (s : Stream) : Nat → Stream
  | 0 => s
  | n + 1 => s.next.2.after n

/-- The answer to the request that follows `n` others. -/
def answer? (s : Stream) (n : Nat) : Option Diagnostic := (s.after n).next.1

/-- The lines that the first `n` requests took. -/
def taken (s : Stream) (n : Nat) : List (List Char) :=
  s.lines.take (s.lines.length - (s.after n).lines.length)

end Stream

/-- `d` is the diagnostic of a block that follows `n` others, and the lines `upTo` go as far as the
one that closes the block, or to the end if none does. -/
inductive ReachesEnd (dropTotals : Bool) (lines : List (List Char)) (n : Nat) (d : Diagnostic) :
    List (List Char) → Prop
  | closed {before inside rest : List (List Char)} {line closing : List Char}
      {opening : Diagnostic} :
    lines = before ++ line :: (inside ++ closing :: rest) →
    (before.filterMap (opened? dropTotals)).length = n →
    opened? dropTotals line = some opening →
    (∀ l ∈ inside, closes dropTotals l = false) → closes dropTotals closing = true →
    d = ofBlock opening inside →
    ReachesEnd dropTotals lines n d (before ++ line :: (inside ++ [closing]))
  | ended {before inside : List (List Char)} {line : List Char} {opening : Diagnostic} :
    lines = before ++ line :: inside →
    (before.filterMap (opened? dropTotals)).length = n →
    opened? dropTotals line = some opening →
    (∀ l ∈ inside, closes dropTotals l = false) →
    d = ofBlock opening inside →
    ReachesEnd dropTotals lines n d lines

/-- Lines in front of others add the blocks that they open. -/
theorem ReachesEnd.append {dropTotals : Bool} {lines upTo : List (List Char)} {n : Nat}
    {d : Diagnostic} (h : ReachesEnd dropTotals lines n d upTo) (front : List (List Char)) :
    ReachesEnd dropTotals (front ++ lines) ((front.filterMap (opened? dropTotals)).length + n) d
      (front ++ upTo) := by
  cases h with
  | @closed before inside rest line closing opening hlines hn hopened hinside hclosing hd =>
    subst hlines
    rw [← List.append_assoc, ← List.append_assoc front before]
    refine .closed rfl ?_ hopened hinside hclosing hd
    rw [List.filterMap_append, List.length_append, hn]
  | @ended before inside line opening hlines hn hopened hinside hd =>
    subst hlines
    rw [← List.append_assoc]
    refine .ended rfl ?_ hopened hinside hd
    rw [List.filterMap_append, List.length_append, hn]

/-! ### One request -/

/-- The reader that has just taken the first of some lines, and nothing was open before it. -/
def Stream.behind (dropTotals : Bool) (lines : List (List Char)) : Stream :=
  { dropTotals, lines := lines.tail, current := lines.head?.bind (opened? dropTotals) }

theorem opened?_of_not_closes {dropTotals : Bool} {line : List Char}
    (h : closes dropTotals line = false) : opened? dropTotals line = none := by
  by_contra hne
  obtain ⟨d, hd⟩ := Option.ne_none_iff_exists'.1 hne
  exact absurd (closes_of_opened? hd) (by simp [h])

namespace Stream

theorem nextFrom_none_cons (dropTotals : Bool) (line : List Char) (lines : List (List Char)) :
    nextFrom dropTotals none (line :: lines) =
      nextFrom dropTotals (opened? dropTotals line) lines := by
  have hadvance : advance dropTotals none line = (none, opened? dropTotals line) := by
    cases hc : closes dropTotals line with
    | true => exact advance_of_closes hc none
    | false =>
      rw [advance_of_not_closes hc, opened?_of_not_closes hc]
      rfl
  simp only [nextFrom, hadvance]

/-- What the line that closed a block opened is given next, as if the line were still to be
taken. -/
theorem next_behind (dropTotals : Bool) (lines : List (List Char)) :
    (behind dropTotals lines).next = next { dropTotals, lines } := by
  cases lines with
  | nil => rfl
  | cons line lines => exact (nextFrom_none_cons dropTotals line lines).symm

theorem nextFrom_none_append {dropTotals : Bool} {front : List (List Char)}
    (h : ∀ l ∈ front, opened? dropTotals l = none) (lines : List (List Char)) :
    nextFrom dropTotals none (front ++ lines) = nextFrom dropTotals none lines := by
  induction front with
  | nil => rfl
  | cons line front ih =>
    rw [List.cons_append, nextFrom_none_cons, h line List.mem_cons_self]
    exact ih fun l hl => h l (List.mem_cons_of_mem line hl)

/-- An open diagnostic takes the lines of its block and the one that closes it. -/
theorem nextFrom_some_append {dropTotals : Bool} {inside rest : List (List Char)}
    (hinside : ∀ l ∈ inside, closes dropTotals l = false)
    (hrest : ∀ l ∈ rest.head?, closes dropTotals l = true) (d : Diagnostic) :
    nextFrom dropTotals (some d) (inside ++ rest) =
      (some (inside.foldl absorb d), behind dropTotals rest) := by
  induction inside generalizing d with
  | nil =>
    cases rest with
    | nil => rfl
    | cons closing rest =>
      simp only [List.nil_append, nextFrom, advance_of_closes (hrest closing rfl)]
      rfl
  | cons line inside ih =>
    have hline := advance_of_not_closes (hinside line List.mem_cons_self) (some d)
    simp only [List.cons_append, nextFrom, hline]
    exact ih (fun l hl => hinside l (List.mem_cons_of_mem line hl)) (absorb d line)

/-- A reader without an open diagnostic gives that of the first block, if there is one. -/
theorem next_cases (dropTotals : Bool) (lines : List (List Char)) :
    next { dropTotals, lines } = (none, { dropTotals, lines := [] }) ∨
    ∃ front line opening inside rest, lines = front ++ line :: (inside ++ rest) ∧
      (∀ l ∈ front, opened? dropTotals l = none) ∧ opened? dropTotals line = some opening ∧
      (∀ l ∈ inside, closes dropTotals l = false) ∧
      (∀ l ∈ rest.head?, closes dropTotals l = true) ∧
      next { dropTotals, lines } = (some (ofBlock opening inside), behind dropTotals rest) := by
  cases hfind : lines.find? fun l => (opened? dropTotals l).isSome with
  | none =>
    have hnone : ∀ l ∈ lines, opened? dropTotals l = none := by
      simpa using List.find?_eq_none.1 hfind
    have hnext := nextFrom_none_append hnone []
    rw [List.append_nil] at hnext
    exact .inl hnext
  | some line =>
    obtain ⟨hline, front, tail, hlines, hfront⟩ := List.find?_eq_some_iff_append.1 hfind
    obtain ⟨opening, hopening⟩ := Option.isSome_iff_exists.1 hline
    have hnone : ∀ l ∈ front, opened? dropTotals l = none := by simpa using hfront
    have hsplit : block dropTotals tail ++ tail.dropWhile (!closes dropTotals ·) = tail :=
      List.takeWhile_append_dropWhile
    have hinside : ∀ l ∈ block dropTotals tail, closes dropTotals l = false := by
      intro l hl
      simpa using List.all_eq_true.1 List.all_takeWhile l hl
    have hrest : ∀ l ∈ (tail.dropWhile (!closes dropTotals ·)).head?,
        closes dropTotals l = true := by
      intro l hl
      have := List.head?_dropWhile_not (!closes dropTotals ·) tail
      rw [Option.mem_def.1 hl] at this
      simpa using this
    refine .inr ⟨front, line, opening, _, _, by rw [hsplit, hlines], hnone, hopening, hinside,
      hrest, ?_⟩
    have hblock : (block dropTotals tail).foldl absorb opening =
        ofBlock opening (block dropTotals tail) := by
      rw [eq_of_opened?_eq_some hopening]
      exact foldl_absorb ..
    rw [← hblock, ← nextFrom_some_append hinside hrest, hsplit, hlines, next,
      nextFrom_none_append hnone, nextFrom_none_cons, hopening]

/-! ### Many requests -/

theorem after_succ_congr {s t : Stream} (h : s.next = t.next) (n : Nat) :
    s.after (n + 1) = t.after (n + 1) := by
  rw [after, after, h]

theorem answer?_congr {s t : Stream} (h : s.next = t.next) (n : Nat) :
    s.answer? n = t.answer? n := by
  cases n with
  | zero => exact congrArg Prod.fst h
  | succ n => rw [answer?, answer?, after_succ_congr h]

/-- A reader that has nothing more to give has taken all lines. -/
theorem nextFrom_of_none {dropTotals : Bool} {current : Option Diagnostic}
    {lines : List (List Char)} (h : (nextFrom dropTotals current lines).1 = none) :
    (nextFrom dropTotals current lines).2 = { dropTotals, lines := [] } := by
  induction lines generalizing current with
  | nil => rfl
  | cons line lines ih =>
    rw [nextFrom] at h ⊢
    split at h
    · exact absurd h (by simp)
    · exact ih h

theorem after_exhausted (dropTotals : Bool) (n : Nat) :
    after { dropTotals, lines := [] } n = { dropTotals, lines := [] } := by
  induction n with
  | zero => rfl
  | succ n ih => exact ih

theorem after_of_none {s : Stream} (h : s.next.1 = none) (n : Nat) :
    s.after (n + 1) = { dropTotals := s.dropTotals, lines := [] } := by
  rw [after, next, nextFrom_of_none h, after_exhausted]

theorem after_add (s : Stream) (m n : Nat) : s.after (m + n) = (s.after m).after n := by
  induction m generalizing s with
  | zero => rw [Nat.zero_add, after]
  | succ m ih => rw [Nat.succ_add, after, after, ih]

/-- The answers are the diagnostics that a reader gives until it has none, and then nothing. -/
theorem Gives.answer?_eq {s : Stream} {ds : List Diagnostic} (h : s.Gives ds) (n : Nat) :
    s.answer? n = ds[n]? := by
  induction h generalizing n with
  | @done s hn =>
    cases n with
    | zero => exact hn
    | succ n =>
      rw [answer?, after_of_none hn]
      rfl
  | more hd _ ih =>
    cases n with
    | zero => exact hd
    | succ n => exact ih n

/-- The lines that are left when a request is answered are those behind the end of the block. -/
theorem reachesEnd_of_answer? {dropTotals : Bool} {lines : List (List Char)} {n : Nat}
    {d : Diagnostic} (h : answer? { dropTotals, lines } n = some d) :
    ∃ upTo, ReachesEnd dropTotals lines n d upTo ∧
      lines = upTo ++ (after { dropTotals, lines } (n + 1)).lines := by
  -- the lines vary: a later block is one of the lines from the one that closed the block before
  induction n generalizing lines with
  | zero =>
    obtain hnext | ⟨front, line, opening, inside, rest, hlines, hfront, hline, hinside, hrest,
      hnext⟩ := next_cases dropTotals lines
    · exact absurd h (by simp [answer?, after, hnext])
    · have hd : d = ofBlock opening inside := by
        simpa [answer?, after, hnext, eq_comm] using h
      have hcount : (front.filterMap (opened? dropTotals)).length = 0 := by
        rw [List.filterMap_eq_nil_iff.2 hfront, List.length_nil]
      rw [after, after, hnext]
      cases rest with
      | nil =>
        rw [List.append_nil] at hlines
        exact ⟨_, .ended hlines hcount hline hinside hd, by simp [behind]⟩
      | cons closing rest =>
        exact ⟨_, .closed hlines hcount hline hinside (hrest closing rfl) hd, by
          simp [hlines, behind]⟩
  | succ n ih =>
    obtain hnext | ⟨front, line, opening, inside, rest, hlines, hfront, hline, hinside, hrest,
      hnext⟩ := next_cases dropTotals lines
    · have hnone : answer? { dropTotals, lines } (n + 1) = none := by
        rw [answer?, after, hnext, after_exhausted]
        rfl
      exact absurd (hnone.symm.trans h) (by simp)
    · have hbehind := next_behind dropTotals rest
      have hanswer : answer? { dropTotals, lines } (n + 1) =
          answer? { dropTotals, lines := rest } n := by
        rw [← answer?_congr hbehind, answer?, answer?, after, hnext]
      have hafter : after { dropTotals, lines } (n + 1 + 1) =
          after { dropTotals, lines := rest } (n + 1) := by
        rw [← after_succ_congr hbehind, after, hnext]
      obtain ⟨upTo, hends, hupTo⟩ := ih (hanswer.symm.trans h)
      have hcount : ((front ++ line :: inside).filterMap (opened? dropTotals)).length = 1 := by
        have hnone : ∀ l ∈ inside, opened? dropTotals l = none :=
          fun l hl => opened?_of_not_closes (hinside l hl)
        rw [List.filterMap_append, List.filterMap_cons, hline,
          List.filterMap_eq_nil_iff.2 hfront, List.filterMap_eq_nil_iff.2 hnone]
        rfl
      have hsplit : lines = (front ++ line :: inside) ++ rest := by simp [hlines]
      have happend := hends.append (front ++ line :: inside)
      rw [← hsplit, hcount, Nat.add_comm] at happend
      refine ⟨_, happend, ?_⟩
      rw [hafter, List.append_assoc, ← hupTo]
      exact hsplit

theorem taken_of_append {s : Stream} {n : Nat} {upTo : List (List Char)}
    (h : s.lines = upTo ++ (s.after n).lines) : s.taken n = upTo := by
  have hlength := congrArg List.length h
  rw [List.length_append] at hlength
  rw [taken, hlength, Nat.add_sub_cancel]
  nth_rewrite 1 [h]
  exact List.take_left

end Stream

/-- A reader takes no more lines than it has to and loses nothing. Request by request it gives the
diagnostics of the blocks, which are all that it ever gives. When it has given one, the lines that
it has taken end with the one that closes that block. After the first request without an answer it
has taken all lines, and no later request has an answer. -/
theorem requests_of_lines (dropTotals : Bool) (lines : List (List Char)) :
    let s : Stream := { dropTotals, lines }
    s.Gives (ofBlocks dropTotals lines) ∧
    ∀ n, s.answer? n = (ofBlocks dropTotals lines)[n]? ∧
      s.taken (n + 1) ++ (s.after (n + 1)).lines = lines ∧
      (∀ d, s.answer? n = some d → ReachesEnd dropTotals lines n d (s.taken (n + 1))) ∧
      (s.answer? n = none →
        ∀ m, n ≤ m → s.answer? m = none ∧ s.taken (m + 1) = lines) := by
  intro s
  have hgives : s.Gives (ofBlocks dropTotals lines) := by
    rw [← diagnosticsFrom_none]
    exact Stream.gives_diagnosticsFrom ..
  have hanswer := hgives.answer?_eq
  have htaken {m : Nat} (hm : s.answer? m = none) :
      s.taken (m + 1) = lines ∧ (s.after (m + 1)).lines = [] := by
    have hnil : (s.after (m + 1)).lines = [] := by
      rw [Stream.after_add, Stream.after_of_none hm]
    exact ⟨Stream.taken_of_append (by rw [hnil, List.append_nil]), hnil⟩
  refine ⟨hgives, fun n => ⟨hanswer n, ?_, ?_, ?_⟩⟩
  · cases h : s.answer? n with
    | none => rw [(htaken h).1, (htaken h).2, List.append_nil]
    | some d =>
      obtain ⟨upTo, -, hupTo⟩ := Stream.reachesEnd_of_answer? h
      rw [Stream.taken_of_append (s := s) hupTo]
      exact hupTo.symm
  · intro d h
    obtain ⟨upTo, hends, hupTo⟩ := Stream.reachesEnd_of_answer? h
    rw [Stream.taken_of_append (s := s) hupTo]
    exact hends
  · intro h m hm
    have hnone : s.answer? m = none := by
      rw [hanswer] at h ⊢
      exact List.getElem?_eq_none ((List.getElem?_eq_none_iff.1 h).trans hm)
    exact ⟨hnone, (htaken hnone).1⟩

/-- A dropped total closes a block and opens none, the line behind it is skipped, and the end closes
the last block. -/
theorem requests_of_lines_total :
    let lines := ["error: a", "b", "error: aborting due to c", "d", "warning: e", "f"].map
      String.toList
    let s : Stream := { dropTotals := true, lines }
    let a : Diagnostic := { level := .error, message := "a\nb" }
    let e : Diagnostic := { level := .warning, message := "e\nf" }
    (s.answer? 0 = some a ∧ s.answer? 1 = some e ∧ s.answer? 2 = none) ∧
      s.taken 1 = lines.take 3 ∧ ReachesEnd true lines 0 a (lines.take 3) ∧
      ReachesEnd true lines 1 e lines ∧ s.answer? 7 = none ∧ s.taken 8 = lines := by
  intro lines s a e
  obtain ⟨-, hrequests⟩ := requests_of_lines true lines
  have h0 : s.answer? 0 = some a := by decide +kernel
  have h1 : s.answer? 1 = some e := by decide +kernel
  have h2 : s.answer? 2 = none := by decide +kernel
  have htaken : s.taken 1 = lines.take 3 := by decide +kernel
  have hall : s.taken 2 = lines := by decide +kernel
  have hends0 := (hrequests 0).2.2.1 a h0
  have hends1 := (hrequests 1).2.2.1 e h1
  rw [htaken] at hends0
  rw [hall] at hends1
  exact ⟨⟨h0, h1, h2⟩, htaken, hends0, hends1, (hrequests 2).2.2.2 h2 7 (by decide)⟩

end SnippetCheck.Compiler
