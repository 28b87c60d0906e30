/-! What a text starts with. -/

namespace SnippetCheck.Text

/-- The text after `start`, if the text starts with it. -/
def after? (start s : List Char) : Option (List Char) :=
  match start, s with
  | [], s => some s
  | _ :: _, [] => none
  | c :: start, d :: s => if c = d then after? start s else none

/-- The text after `start` is what remains when `start` is taken off. -/
theorem after?_eq_some_iff {start s rest : List Char} :
    after? start s = some rest ↔ s = start ++ rest := by
  induction start generalizing s with
  | nil => simp [after?]
  | cons c start ih =>
    cases s with
    | nil => simp [after?]
    | cons d s =>
      by_cases h : c = d
      · simp [after?, h, ih]
      · simp [after?, h, Ne.symm h]

theorem isSome_after?_iff {start s : List Char} :
    (after? start s).isSome = true ↔ start <+: s := by
  rw [Option.isSome_iff_exists]
  exact exists_congr fun _ => after?_eq_some_iff.trans eq_comm

/-- Whether a text holds `part` somewhere. -/
def contains (part : List Char) : List Char → Bool
  | [] => part.isEmpty
  | c :: s => (after? part (c :: s)).isSome || contains part s

end SnippetCheck.Text
