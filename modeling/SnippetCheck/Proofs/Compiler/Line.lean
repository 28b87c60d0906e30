import SnippetCheck.Compiler.Line
import SnippetCheck.Proofs.Numeral
import SnippetCheck.Proofs.Text.Lines

/-! What a line says, from its parts: the level, the code and the message of an opening line, and
the numbers at the end of an arrow. A total is written as an opening line, so it opens a diagnostic
like any other. -/

namespace SnippetCheck.Compiler

open Text

/-! ### Parts of lines -/

theorem leadingLevel?_append (level : Level) (rest : List Char) :
    leadingLevel? (level.name.toList ++ rest) = some (level, rest) := by
  cases level with
  | error => rw [leadingLevel?, after?_eq_some_iff.2 rfl]
  | warning =>
    have herror : after? Level.error.name.toList (Level.warning.name.toList ++ rest) = none := by
      rfl
    rw [leadingLevel?, herror, after?_eq_some_iff.2 rfl]
    rfl

theorem leadingCode_append {code : List Char} (hne : code ≠ []) (hcode : ']' ∉ code)
    (rest : List Char) : leadingCode ('[' :: code ++ ']' :: rest) = (some code, rest) := by
  obtain ⟨htake, hdrop⟩ := span_separator hcode rest
  rw [List.cons_append, leadingCode, htake, hdrop]
  cases code with
  | nil => exact absurd rfl hne
  | cons c code => rfl

theorem opening?_of_parts {line rest tail : List Char} {level : Level} {code : Option (List Char)}
    (hlevel : leadingLevel? (trimStart line) = some (level, rest))
    (hcode : leadingCode rest = (code, ':' :: tail)) (hline : '\n' ∉ trimStart tail) :
    opening? line = some { level, message := String.ofList (trimStart tail)
                           code := code.map String.ofList } := by
  simp only [opening?, hlevel, hcode, if_neg hline]

theorem number?_repr {n : Nat} (h : n ≤ Numeral.wordMax) : number? n.repr.toList = some n := by
  have hall : n.repr.toList.all Char.isDigit = true :=
    List.all_eq_true.2 fun c hc => Numeral.isDigit_of_mem_repr hc
  rw [number?, if_neg (not_or.2 ⟨Numeral.repr_ne_nil n, not_not_intro hall⟩)]
  simp only [Numeral.ofDigits_repr, if_pos h]

theorem splitLastColon?_append (s : List Char) {t : List Char} (h : ':' ∉ t) :
    splitLastColon? (s ++ ':' :: t) = some (s, t) := by
  have hreverse : (s ++ ':' :: t).reverse = t.reverse ++ ':' :: s.reverse := by simp
  obtain ⟨htake, hdrop⟩ := span_separator (mt List.mem_reverse.1 h) s.reverse
  simp only [splitLastColon?, hreverse, htake, hdrop, List.reverse_reverse]

/-! ### Whole lines -/

theorem Line.ofText_of_opening? {line : List Char} {d : Diagnostic}
    (h : opening? (trimEnd line) = some d) : Line.ofText line = .opening d := by
  have hne : trimEnd line ≠ [] := by
    intro hnil
    have hnone : opening? [] = none := rfl
    rw [hnil, hnone] at h
    exact absurd h (by simp)
  simp only [Line.ofText, if_neg hne, h]

/-! ### Totals -/

/-- What a total starts with: a level, without a code. -/
theorem exists_level_of_isTotal {line : List Char} (h : isTotal line = true) :
    ∃ (level : Level) (rest : List Char), trimStart line = level.name.toList ++ ':' :: rest := by
  have hsome {start : List Char} (hs : (after? start (trimStart line)).isSome = true) :
      ∃ rest, trimStart line = start ++ rest :=
    (Option.isSome_iff_exists.1 hs).imp fun _ => after?_eq_some_iff.1
  simp only [isTotal, Bool.or_eq_true] at h
  obtain ((habort | hcompile) | hbuild) | hgenerated := h
  · obtain ⟨rest, hrest⟩ := hsome habort
    exact ⟨.error, " aborting due to".toList ++ rest, hrest⟩
  · obtain ⟨rest, hrest⟩ := hsome hcompile
    exact ⟨.error, " could not compile".toList ++ rest, hrest⟩
  · obtain ⟨rest, hrest⟩ := hsome hbuild
    exact ⟨.warning, " build failed".toList ++ rest, hrest⟩
  · obtain ⟨hfirst, -⟩ := (Option.any_eq_true_iff_get _ _).1 hgenerated
    obtain ⟨rest, hrest⟩ := hsome hfirst
    exact ⟨.warning, ' ' :: rest, hrest⟩

/-- A total on one line opens a diagnostic. -/
theorem Line.exists_opening_of_isTotal {line : List Char} (hline : '\n' ∉ line)
    (h : isTotal line = true) : ∃ d, Line.ofText line = .opening d := by
  obtain ⟨level, rest, hrest⟩ := exists_level_of_isTotal h
  have htrim : trimStart (trimEnd line) = level.name.toList ++ ':' :: trimEnd rest := by
    rw [trimStart_trimEnd, hrest, trimEnd_append_cons _ _ (by decide)]
  have hlevel : leadingLevel? (trimStart (trimEnd line)) = some (level, ':' :: trimEnd rest) := by
    rw [htrim, leadingLevel?_append]
  have hmessage : '\n' ∉ trimStart (trimEnd rest) := by
    intro hmem
    have hrest' : '\n' ∈ trimStart (trimEnd line) := by
      rw [htrim]
      exact List.mem_append_right _ (List.mem_cons_of_mem _ (mem_of_mem_trimStart hmem))
    exact hline (mem_of_mem_trimEnd (mem_of_mem_trimStart hrest'))
  exact ⟨_, Line.ofText_of_opening? (opening?_of_parts hlevel rfl hmessage)⟩

end SnippetCheck.Compiler
