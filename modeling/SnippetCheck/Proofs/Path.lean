import Mathlib.Data.List.Infix
import SnippetCheck.Path
import SnippetCheck.Proofs.Text.Lines

/-! Paths by their components. A path is seen from a directory exactly if the components of the
directory are the first components of the path, and then it is seen as the path of the others. -/

namespace SnippetCheck.Path

open Text

/-- What a path consists of: the root or a leading `.`, if it starts with one, and the steps that
lead somewhere. -/
inductive Component where
  | root
  | here
  | step (s : List Char)
deriving DecidableEq, Repr

def realSteps (steps : List (List Char)) : List (List Char) := steps.filter (!isIdle ·)

def origin (path : List Char) : List Component :=
  if path.head? = some '/' then [.root]
  else if (pieces '/' path).head? = some ['.'] then [.here]
  else []

def components (path : List Char) : List Component :=
  origin path ++ (realSteps (pieces '/' path)).map .step

def Start.components : Start → List Component
  | .root => [.root]
  | .here => [.here]
  | .relative => []

/-! ### Steps -/

theorem realSteps_cons_of_idle {s : List Char} (h : isIdle s = true) (steps : List (List Char)) :
    realSteps (s :: steps) = realSteps steps :=
  List.filter_cons_of_neg (by simp [h])

theorem realSteps_cons {s : List Char} (h : isIdle s = false) (steps : List (List Char)) :
    realSteps (s :: steps) = s :: realSteps steps :=
  List.filter_cons_of_pos (by simp [h])

theorem isIdle_of_head?_dropWhile {steps : List (List Char)} {s : List Char}
    (h : (steps.dropWhile isIdle).head? = some s) : isIdle s = false := by
  have hhead := List.head?_dropWhile_not isIdle steps
  rw [h] at hhead
  simpa using hhead

theorem realSteps_dropWhile (steps : List (List Char)) :
    realSteps (steps.dropWhile isIdle) = realSteps steps := by
  induction steps with
  | nil => rfl
  | cons s steps ih =>
    cases h : isIdle s with
    | true => rw [List.dropWhile_cons_of_pos h, ih, realSteps_cons_of_idle h]
    | false => rw [List.dropWhile_cons_of_neg (by simp [h])]

theorem isPrefix_trimSteps (steps : List (List Char)) : trimSteps steps <+: steps := by
  rw [trimSteps, ← List.reverse_suffix, List.reverse_reverse]
  exact List.dropWhile_suffix isIdle

theorem realSteps_trimSteps (steps : List (List Char)) :
    realSteps (trimSteps steps) = realSteps steps := by
  have h := realSteps_dropWhile steps.reverse
  rw [realSteps, realSteps, List.filter_reverse] at h
  rw [trimSteps, realSteps, List.filter_reverse, h, List.reverse_reverse, realSteps]

/-- The steps behind a prefix are what the prefix leaves. -/
theorem realSteps_of_afterSteps? {ps steps rest : List (List Char)}
    (h : afterSteps? ps steps = some rest) :
    realSteps steps = ps ++ realSteps rest ∧ rest <:+ steps := by
  induction ps generalizing steps with
  | nil =>
    obtain rfl := Option.some.inj h
    exact ⟨rfl, List.suffix_rfl⟩
  | cons p ps ih =>
    rw [afterSteps?] at h
    split at h
    next s steps' hdrop =>
      split at h
      next hp =>
        have hidle := isIdle_of_head?_dropWhile (by rw [hdrop, List.head?_cons])
        obtain ⟨hreal, hsuffix⟩ := ih h
        have hbelow : s :: steps' <:+ steps := hdrop ▸ List.dropWhile_suffix isIdle
        refine ⟨?_, hsuffix.trans ((List.suffix_cons s steps').trans hbelow)⟩
        rw [← realSteps_dropWhile, hdrop, realSteps_cons hidle, hreal, hp, List.cons_append]
      next => cases h
    next => cases h

theorem exists_afterSteps? {ps steps : List (List Char)} (h : ps <+: realSteps steps) :
    ∃ rest, afterSteps? ps steps = some rest := by
  induction ps generalizing steps with
  | nil => exact ⟨steps, by rw [afterSteps?]⟩
  | cons p ps ih =>
    rw [← realSteps_dropWhile] at h
    rw [afterSteps?]
    split
    next s steps' hdrop =>
      have hidle := isIdle_of_head?_dropWhile (by rw [hdrop, List.head?_cons])
      rw [hdrop, realSteps_cons hidle, List.cons_prefix_cons] at h
      obtain ⟨rfl, h⟩ := h
      rw [if_pos rfl]
      exact ih h
    next hdrop =>
      rw [hdrop] at h
      exact absurd (List.prefix_nil.1 h) (List.cons_ne_nil p ps)

/-! ### Texts of paths -/

theorem split_cases (path : List Char) :
    (∃ rest, path = '/' :: rest ∧ split path = (.root, pieces '/' rest)) ∨
    (∃ steps, pieces '/' path = ['.'] :: steps ∧ split path = (.here, steps)) ∨
    (∃ p ps, pieces '/' path = p :: ps ∧ (p = [] → path = []) ∧ p ≠ ['.'] ∧
      split path = (.relative, p :: ps)) := by
  cases path with
  | nil => exact .inr (.inr ⟨[], [], rfl, fun _ => rfl, by simp, rfl⟩)
  | cons c rest =>
    obtain ⟨p, ps, hp⟩ := List.exists_cons_of_ne_nil (pieces_ne_nil '/' rest)
    by_cases hc : c = '/'
    · subst hc
      refine .inl ⟨rest, rfl, ?_⟩
      rw [split, pieces, if_pos rfl, hp]
    · have hpieces : pieces '/' (c :: rest) = (c :: p) :: ps := by rw [pieces, if_neg hc, hp]
      by_cases hdot : c :: p = ['.']
      · refine .inr (.inl ⟨ps, by rw [hpieces, hdot], ?_⟩)
        rw [split, hpieces, hdot]
        rfl
      · refine .inr (.inr ⟨c :: p, ps, hpieces, by simp, hdot, ?_⟩)
        rw [split, hpieces]
        split
        next heq => simp at heq
        next heq => exact absurd (List.cons.inj heq).1 hdot
        next => rfl

theorem head?_ne_of_pieces {path p : List Char} {ps : List (List Char)}
    (h : pieces '/' path = p :: ps) (hp : p ≠ [] ∨ path = []) : path.head? ≠ some '/' := by
  cases path with
  | nil => simp
  | cons c rest =>
    rintro ⟨rfl⟩
    rw [pieces, if_pos rfl] at h
    exact hp.elim (· (List.cons.inj h).1.symm) (List.cons_ne_nil '/' rest)

theorem components_eq (path : List Char) :
    components path =
      (split path).1.components ++ (realSteps (split path).2).map .step := by
  rcases split_cases path with ⟨rest, rfl, hsplit⟩ | ⟨steps, hpieces, hsplit⟩ |
    ⟨p, ps, hpieces, hempty, hdot, hsplit⟩
  · rw [hsplit, components, origin, List.head?_cons, if_pos rfl, pieces, if_pos rfl,
      realSteps_cons_of_idle rfl, Start.components]
  · have hslash := head?_ne_of_pieces hpieces (.inl (by simp))
    rw [hsplit, components, origin, if_neg hslash, hpieces, List.head?_cons, if_pos rfl,
      realSteps_cons_of_idle rfl, Start.components]
  · have hslash := head?_ne_of_pieces hpieces (or_iff_not_imp_left.2 fun h => hempty (not_not.1 h))
    rw [hsplit, components, origin, if_neg hslash, hpieces, List.head?_cons,
      if_neg (by simpa using hdot), Start.components]

theorem unsplit_split (path : List Char) : unsplit (split path).1 (split path).2 = path := by
  rcases split_cases path with ⟨rest, rfl, hsplit⟩ | ⟨steps, hpieces, hsplit⟩ |
    ⟨p, ps, hpieces, -, -, hsplit⟩
  · rw [hsplit, unsplit, join_pieces]
  · have hjoin := join_pieces '/' path
    rw [hpieces] at hjoin
    rw [hsplit]
    cases steps with
    | nil => exact hjoin
    | cons s steps => exact hjoin
  · rw [hsplit, unsplit, ← hpieces, join_pieces]

theorem join_cons_of_ne_nil (s : List Char) {steps : List (List Char)} (h : steps ≠ []) :
    join ['/'] (s :: steps) = s ++ '/' :: join ['/'] steps := by
  obtain ⟨t, ts, rfl⟩ := List.exists_cons_of_ne_nil h
  simp [join]

theorem isPrefix_join {ss steps : List (List Char)} (h : ss <+: steps) :
    join ['/'] ss <+: join ['/'] steps := by
  obtain ⟨tail, rfl⟩ := h
  induction ss with
  | nil => exact List.nil_prefix
  | cons s ss ih =>
    by_cases hss : ss = []
    · subst hss
      by_cases htail : tail = []
      · rw [htail, List.append_nil]
      · rw [List.cons_append, List.nil_append, join_cons_of_ne_nil s htail]
        exact List.prefix_append s _
    · rw [List.cons_append, join_cons_of_ne_nil s hss,
        join_cons_of_ne_nil s (List.append_ne_nil_of_left_ne_nil hss tail)]
      exact (List.prefix_append_right_inj s).2 ((List.prefix_cons_inj '/').2 ih)

theorem isSuffix_join {ss steps : List (List Char)} (h : ss <:+ steps) :
    join ['/'] ss <:+ join ['/'] steps := by
  obtain ⟨front, rfl⟩ := h
  induction front with
  | nil => exact List.suffix_rfl
  | cons s front ih =>
    by_cases hnil : front ++ ss = []
    · rw [(List.append_eq_nil_iff.1 hnil).2]
      exact List.nil_suffix
    · rw [List.cons_append, join_cons_of_ne_nil s hnil]
      exact ih.trans ((List.suffix_cons '/' _).trans (List.suffix_append s _))

theorem isSuffix_unsplit (start : Start) (steps : List (List Char)) :
    join ['/'] steps <:+ unsplit start steps := by
  cases start with
  | root => exact List.suffix_cons '/' _
  | here =>
    cases steps with
    | nil => exact List.nil_suffix
    | cons s steps => exact (List.suffix_cons '/' _).trans (List.suffix_cons '.' _)
  | relative => exact List.suffix_rfl

theorem slash_not_mem_split {path : List Char} : ∀ s ∈ (split path).2, '/' ∉ s := by
  intro s hs
  rcases split_cases path with ⟨rest, -, hsplit⟩ | ⟨steps, hpieces, hsplit⟩ |
    ⟨p, ps, hpieces, -, -, hsplit⟩
  · exact not_mem_of_mem_pieces (hsplit ▸ hs)
  · rw [hsplit] at hs
    exact not_mem_of_mem_pieces (hpieces ▸ List.mem_cons_of_mem ['.'] hs)
  · rw [hsplit, ← hpieces] at hs
    exact not_mem_of_mem_pieces hs

theorem realSteps_pieces_join {steps : List (List Char)} (hslash : ∀ s ∈ steps, '/' ∉ s) :
    realSteps (pieces '/' (join ['/'] steps)) = realSteps steps := by
  cases steps with
  | nil => rfl
  | cons s steps => rw [pieces_join (List.cons_ne_nil s steps) hslash]

/-- Where nothing is said of the start of a path, its first step has to lead somewhere. -/
theorem components_unsplit (start : Start) {steps : List (List Char)}
    (hslash : ∀ s ∈ steps, '/' ∉ s)
    (hhead : start = .relative → ∀ s ∈ steps.head?, isIdle s = false) :
    components (unsplit start steps) = start.components ++ (realSteps steps).map .step := by
  cases start with
  | root =>
    rw [unsplit, components, origin, List.head?_cons, if_pos rfl, pieces, if_pos rfl,
      realSteps_cons_of_idle rfl, realSteps_pieces_join hslash, Start.components]
  | here =>
    cases steps with
    | nil => rfl
    | cons s steps =>
      have hpieces : pieces '/' ('.' :: '/' :: join ['/'] (s :: steps)) =
          ['.'] :: pieces '/' (join ['/'] (s :: steps)) :=
        pieces_append (p := ['.']) (by simp) _
      rw [unsplit, components, origin, List.head?_cons, if_neg (by simp), hpieces,
        List.head?_cons, if_pos rfl, realSteps_cons_of_idle rfl, realSteps_pieces_join hslash,
        Start.components]
      exact List.cons_ne_nil s steps
  | relative =>
    cases steps with
    | nil => rfl
    | cons s steps =>
      have hpieces := pieces_join (List.cons_ne_nil s steps) hslash
      have hs : s ≠ [] ∧ s ≠ ['.'] := by simpa [isIdle] using hhead rfl s rfl
      rw [unsplit, components, origin, if_neg (head?_ne_of_pieces hpieces (.inl hs.1)), hpieces,
        List.head?_cons, if_neg (by simpa using hs.2), Start.components]

theorem isPrefix_unsplit (start : Start) {ss steps : List (List Char)} (h : ss <+: steps) :
    unsplit start ss <+: unsplit start steps := by
  have hjoin := isPrefix_join h
  cases start with
  | root => exact (List.prefix_cons_inj '/').2 hjoin
  | here =>
    cases steps with
    | nil =>
      obtain rfl := List.prefix_nil.1 h
      exact List.prefix_rfl
    | cons s steps =>
      cases ss with
      | nil => exact (List.prefix_cons_inj '.').2 List.nil_prefix
      | cons r ss => exact (List.prefix_cons_inj '.').2 ((List.prefix_cons_inj '/').2 hjoin)
  | relative => exact hjoin

/-! ### Prefixes -/

theorem head?_of_isPrefix {α : Type} {ss steps : List α} (h : ss <+: steps) {s : α}
    (hs : ss.head? = some s) : steps.head? = some s := by
  obtain ⟨tail, rfl⟩ := h
  rw [List.head?_append, hs, Option.some_or]

/-- Steps at the end of a path, without idle ones around them, are a path of those that lead
somewhere. -/
theorem components_behind {path : List Char} {rest : List (List Char)}
    (h : rest <:+ (split path).2) :
    let name := join ['/'] (trimSteps (rest.dropWhile isIdle))
    components name = (realSteps rest).map .step ∧ name <:+: path := by
  intro name
  have htrim := isPrefix_trimSteps (rest.dropWhile isIdle)
  have hbehind := (List.dropWhile_suffix isIdle).trans h
  constructor
  · have hslash : ∀ s ∈ trimSteps (rest.dropWhile isIdle), '/' ∉ s :=
      fun s hs => slash_not_mem_split s (hbehind.mem (htrim.mem hs))
    have hcomponents := components_unsplit .relative hslash fun _ s hs =>
      isIdle_of_head?_dropWhile (head?_of_isPrefix htrim hs)
    rw [realSteps_trimSteps, realSteps_dropWhile] at hcomponents
    exact hcomponents
  · have hsuffix : join ['/'] (rest.dropWhile isIdle) <:+ path := by
      conv => rhs; rw [← unsplit_split path]
      exact (isSuffix_join hbehind).trans (isSuffix_unsplit _ _)
    exact (isPrefix_join htrim).isInfix.trans hsuffix.isInfix

theorem components_trimmed (path : List Char) :
    let name := unsplit (split path).1 (trimSteps (split path).2)
    components name = components path ∧ name <:+: path := by
  intro name
  have htrim := isPrefix_trimSteps (split path).2
  constructor
  · have hslash : ∀ s ∈ trimSteps (split path).2, '/' ∉ s :=
      fun s hs => slash_not_mem_split s (htrim.mem hs)
    have hhead : (split path).1 = .relative →
        ∀ s ∈ (trimSteps (split path).2).head?, isIdle s = false := by
      intro hstart s hs
      rcases split_cases path with ⟨rest, -, hsplit⟩ | ⟨steps, -, hsplit⟩ |
        ⟨p, ps, hpieces, hempty, hdot, hsplit⟩
      · simp [hsplit] at hstart
      · simp [hsplit] at hstart
      · have hp := head?_of_isPrefix htrim hs
        rw [hsplit] at hp hs
        obtain rfl := Option.some.inj hp
        by_cases hnil : p = []
        · -- a path without a first step is empty, and nothing is left of it
          obtain rfl := hempty hnil
          cases hpieces
          cases hs
        · simp [isIdle, hnil, hdot]
    rw [components_unsplit _ hslash hhead, realSteps_trimSteps, ← components_eq]
  · have hstarts := isPrefix_unsplit (split path).1 htrim
    rw [unsplit_split] at hstarts
    exact hstarts.isInfix

theorem map_step_isPrefix_iff (start : Start) {ps steps : List (List Char)} :
    start.components ++ ps.map .step <+: start.components ++ steps.map .step ↔ ps <+: steps := by
  rw [List.prefix_append_right_inj]
  exact List.prefix_map_iff_of_injective fun _ _ h => Component.step.inj h

theorem afterSteps?_cases (path : List Char) (ps : List (List Char)) :
    (∃ rest, afterSteps? ps (split path).2 = some rest ∧
      let name := join ['/'] (trimSteps (rest.dropWhile isIdle))
      components path = (split path).1.components ++ ps.map .step ++ components name ∧
        name <:+: path) ∨
    (afterSteps? ps (split path).2 = none ∧
      ¬ (split path).1.components ++ ps.map .step <+: components path) := by
  rw [components_eq path]
  cases h : afterSteps? ps (split path).2 with
  | none =>
    refine .inr ⟨rfl, fun hstarts => ?_⟩
    obtain ⟨rest, hrest⟩ := exists_afterSteps? ((map_step_isPrefix_iff _).1 hstarts)
    rw [h] at hrest
    cases hrest
  | some rest =>
    obtain ⟨hreal, hsuffix⟩ := realSteps_of_afterSteps? h
    obtain ⟨hname, hinfix⟩ := components_behind hsuffix
    refine .inl ⟨rest, rfl, ?_, hinfix⟩
    rw [hname, hreal, List.map_append, List.append_assoc]

/-- Where a path starts is told by its first component. -/
theorem Start.eq_of_isPrefix {s t : Start} {ps steps : List (List Char)}
    (hps : s = .relative → ps ≠ [])
    (h : s.components ++ ps.map .step <+: t.components ++ steps.map .step) : s = t := by
  have hmap (c : Component) (hc : (steps.map Component.step).head? = some c) :
      ∃ p, c = .step p := by
    obtain ⟨p, -, rfl⟩ := List.mem_map.1 (List.mem_of_head? hc)
    exact ⟨p, rfl⟩
  cases s with
  | root =>
    have hhead := head?_of_isPrefix h rfl
    cases t with
    | root => rfl
    | here => cases hhead
    | relative => simpa using hmap _ hhead
  | here =>
    have hhead := head?_of_isPrefix h rfl
    cases t with
    | root => cases hhead
    | here => rfl
    | relative => simpa using hmap _ hhead
  | relative =>
    obtain ⟨p, ps, rfl⟩ := List.exists_cons_of_ne_nil (hps rfl)
    have hhead := head?_of_isPrefix h rfl
    cases t with
    | root => cases hhead
    | here => cases hhead
    | relative => rfl

theorem stripPrefix?_of_bare {before : List Char} (hstart : (split before).1 = .relative)
    (hsteps : realSteps (split before).2 = []) (path : List Char) :
    stripPrefix? before path = some (unsplit (split path).1 (trimSteps (split path).2)) := by
  rw [stripPrefix?]
  rcases hsplit : split before with ⟨s, ps⟩
  rw [hsplit] at hstart hsteps
  subst hstart
  rw [realSteps] at hsteps
  simp only [hsteps]

theorem stripPrefix?_of_not_bare {before : List Char}
    (h : (split before).1 = .relative → realSteps (split before).2 ≠ []) (path : List Char) :
    stripPrefix? before path =
      if (split path).1 = (split before).1 then
        (afterSteps? (realSteps (split before).2) (split path).2).map fun rest =>
          join ['/'] (trimSteps (rest.dropWhile isIdle))
      else none := by
  rw [stripPrefix?]
  rcases hsplit : split before with ⟨s, ps⟩
  rw [hsplit] at h
  cases s with
  | root => rfl
  | here => rfl
  | relative =>
    obtain ⟨q, qs, hq⟩ := List.exists_cons_of_ne_nil (h rfl)
    rw [realSteps] at hq
    simp only [realSteps, hq]

/-- A path is stripped of a prefix exactly if it starts with the components of the prefix. -/
theorem stripPrefix?_cases (before path : List Char) :
    (∃ name, stripPrefix? before path = some name ∧
      components path = components before ++ components name ∧ name <:+: path) ∨
    (stripPrefix? before path = none ∧ ¬ components before <+: components path) := by
  by_cases hbare : (split before).1 = .relative ∧ realSteps (split before).2 = []
  · obtain ⟨hname, hinfix⟩ := components_trimmed path
    refine .inl ⟨_, stripPrefix?_of_bare hbare.1 hbare.2 path, ?_, hinfix⟩
    rw [components_eq before, hbare.1, hbare.2, hname]
    rfl
  · have hsteps := not_and.1 hbare
    rw [stripPrefix?_of_not_bare hsteps, components_eq before]
    by_cases hstart : (split path).1 = (split before).1
    · rw [if_pos hstart, ← hstart]
      rcases afterSteps?_cases path (realSteps (split before).2) with
        ⟨rest, hrest, hname, hinfix⟩ | ⟨hrest, hstarts⟩
      · exact .inl ⟨_, by rw [hrest, Option.map_some], hname, hinfix⟩
      · exact .inr ⟨by rw [hrest, Option.map_none], hstarts⟩
    · refine .inr ⟨if_neg hstart, fun hstarts => hstart ?_⟩
      rw [components_eq path] at hstarts
      exact (Start.eq_of_isPrefix hsteps hstarts).symm

/-- A path is seen from a directory exactly if its components start with those of the directory.
Then it has the other components, and it is a part of the text of the path; else it stays. -/
theorem relativeTo_cases (directory path : String) :
    (components directory.toList <+: components path.toList ∧
      components path.toList =
        components directory.toList ++ components (relativeTo directory path).toList ∧
      (relativeTo directory path).toList <:+: path.toList) ∨
    (¬ components directory.toList <+: components path.toList ∧
      relativeTo directory path = path) := by
  rcases stripPrefix?_cases directory.toList path.toList with
    ⟨name, hname, hcomponents, hinfix⟩ | ⟨hnone, hstarts⟩
  · rw [relativeTo, hname, String.toList_ofList]
    exact .inl ⟨⟨_, hcomponents.symm⟩, hcomponents, hinfix⟩
  · rw [relativeTo, hnone]
    exact .inr ⟨hstarts, rfl⟩

/-- A name that goes on with other letters is another step. -/
example : relativeTo "/tmp/work" "/tmp/work2/a.rs" = "/tmp/work2/a.rs" ∧
    relativeTo "/tmp/work/" "/tmp//work/./src/a.rs" = "src/a.rs" := by
  decide +kernel

end SnippetCheck.Path
