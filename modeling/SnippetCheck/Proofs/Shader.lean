import SnippetCheck.Proofs.Text.Utf8
import SnippetCheck.Shader

/-! Where the attributes of a shader stand, and what is said of it for that. `Occurs` spells out
where a name counts as an attribute, without a search; the search finds the first such place if
there is one, and the report is the one that these places call for. -/

namespace SnippetCheck.Shader

open Text

/-! ### Places -/

/-- The part of a line that counts: what stands before the first `//`, or the whole of a line that
has none. -/
structure Counts (line part : List Char) : Prop where
  cut : line = part ∨ ∃ comment, line = part ++ '/' :: '/' :: comment
  first : ∀ before comment, line = before ++ '/' :: '/' :: comment → part.length ≤ before.length

/-- A word stands in a text behind `k` characters, and no word character follows it. -/
def Stands (word s : List Char) (k : Nat) : Prop :=
  ∃ before rest, s = before ++ word ++ rest ∧ before.length = k ∧
    ∀ c ∈ rest.head?, isWord c = false

/-- An attribute in lines that are counted from `start` on, at a line and at a column that is
counted from one. -/
def OccursFrom (start : Nat) (ls : List (List Char)) (name : String) (row column : Nat) : Prop :=
  ∃ line part k, (line, row) ∈ ls.zipIdx start ∧ Counts line part ∧
    Stands ('@' :: name.toList) part k ∧ column = k + 1

/-- An attribute in a shader, at a line and at a column that are both counted from one. -/
def Occurs (name source : String) (row column : Nat) : Prop :=
  OccursFrom 1 (lines source.toList) name row column

/-- The first place of an attribute: no other is on a line before or on its left. -/
structure First (name source : String) (row column : Nat) : Prop where
  occurs : Occurs name source row column
  least : ∀ i j, Occurs name source i j → row < i ∨ row = i ∧ column ≤ j

/-! ### Code -/

theorem Counts.begins {line part : List Char} (h : Counts line part) : part <+: line := by
  obtain hcut | ⟨comment, hcut⟩ := h.cut
  · exact hcut ▸ List.prefix_rfl
  · exact ⟨_, hcut.symm⟩

theorem Counts.length_le {line p q : List Char} (hp : Counts line p) (hq : Counts line q) :
    p.length ≤ q.length := by
  obtain hcut | ⟨comment, hcut⟩ := hq.cut
  · exact hcut ▸ hp.begins.length_le
  · exact hp.first q comment hcut

theorem Counts.unique {line p q : List Char} (hp : Counts line p) (hq : Counts line q) : p = q := by
  have hpq := List.prefix_of_prefix_length_le hp.begins hq.begins (hp.length_le hq)
  exact hpq.eq_of_length (Nat.le_antisymm (hp.length_le hq) (hq.length_le hp))

theorem counts_codeOf (line : List Char) : Counts line (codeOf line) := by
  fun_induction codeOf line with
  | case1 comment => exact ⟨.inr ⟨comment, rfl⟩, fun _ _ _ => Nat.zero_le _⟩
  | case2 => exact ⟨.inl rfl, fun _ _ _ => Nat.zero_le _⟩
  | case3 c s hslashes ih =>
    refine ⟨?_, fun before comment h => ?_⟩
    · obtain hcut | ⟨comment, hcut⟩ := ih.cut
      · exact .inl (by rw [← hcut])
      · exact .inr ⟨comment, by rw [List.cons_append, ← hcut]⟩
    · cases before with
      | nil =>
        obtain ⟨rfl, rfl⟩ := List.cons.inj h
        exact absurd rfl (hslashes comment rfl)
      | cons d before =>
        exact Nat.succ_le_succ (ih.first before comment (List.cons.inj h).2)

theorem counts_iff {line part : List Char} : Counts line part ↔ codeOf line = part :=
  ⟨fun h => (counts_codeOf line).unique h, fun h => h ▸ counts_codeOf line⟩

/-! ### Words -/

section Words

variable {c d : Char} {word s : List Char} {k l : Nat}

theorem not_stands_nil : ¬ Stands (c :: word) [] k := by
  rintro ⟨before, rest, h, -⟩
  simp at h

theorem stands_zero_iff :
    Stands word s 0 ↔ ∃ rest, after? word s = some rest ∧ ∀ c ∈ rest.head?, isWord c = false := by
  constructor
  · rintro ⟨before, rest, rfl, hbefore, hrest⟩
    obtain rfl := List.length_eq_zero_iff.1 hbefore
    exact ⟨rest, after?_eq_some_iff.2 rfl, hrest⟩
  · rintro ⟨rest, h, hrest⟩
    exact ⟨[], rest, after?_eq_some_iff.1 h, rfl, hrest⟩

theorem stands_succ_iff : Stands word (c :: s) (k + 1) ↔ Stands word s k := by
  constructor
  · rintro ⟨before, rest, h, hbefore, hrest⟩
    obtain ⟨d, before, rfl⟩ := List.exists_cons_of_length_eq_add_one hbefore
    exact ⟨before, rest, (List.cons.inj h).2, Nat.succ.inj hbefore, hrest⟩
  · rintro ⟨before, rest, rfl, rfl, hrest⟩
    exact ⟨c :: before, rest, rfl, rfl, hrest⟩

/-- A search looks at the beginning, and where the word does not stand there it goes on behind
the first character. -/
theorem wordAt?_cons (word : List Char) (c : Char) (s : List Char) :
    Stands word (c :: s) 0 ∧ wordAt? word (c :: s) = some 0 ∨
      ¬ Stands word (c :: s) 0 ∧ wordAt? word (c :: s) = (wordAt? word s).map (· + 1) := by
  rw [stands_zero_iff, wordAt?]
  cases hafter : after? word (c :: s) with
  | none => exact .inr ⟨by simp, rfl⟩
  | some rest =>
    cases rest with
    | nil => exact .inl ⟨⟨[], rfl, by simp⟩, rfl⟩
    | cons d rest =>
      cases hd : isWord d with
      | false => exact .inl ⟨⟨d :: rest, rfl, by simp [hd]⟩, by simp [hd]⟩
      | true => exact .inr ⟨by simp [hd], by simp [hd]⟩

theorem stands_of_wordAt? (h : wordAt? word s = some k) : Stands word s k := by
  induction s generalizing k with
  | nil => simp [wordAt?] at h
  | cons c s ih =>
    obtain ⟨hstands, heq⟩ | ⟨-, heq⟩ := wordAt?_cons word c s
    · obtain rfl := Option.some.inj (heq.symm.trans h)
      exact hstands
    · obtain ⟨k, hk, rfl⟩ := Option.map_eq_some_iff.1 (heq.symm.trans h)
      exact stands_succ_iff.2 (ih hk)

theorem exists_wordAt?_le (h : Stands (d :: word) s l) :
    ∃ k, wordAt? (d :: word) s = some k ∧ k ≤ l := by
  induction s generalizing l with
  | nil => exact absurd h not_stands_nil
  | cons c s ih =>
    obtain ⟨-, heq⟩ | ⟨hnot, heq⟩ := wordAt?_cons (d :: word) c s
    · exact ⟨0, heq, Nat.zero_le l⟩
    · cases l with
      | zero => exact absurd h hnot
      | succ l =>
        obtain ⟨k, hk, hle⟩ := ih (stands_succ_iff.1 h)
        exact ⟨k + 1, by rw [heq, hk]; rfl, Nat.succ_le_succ hle⟩

end Words

/-! ### Lines -/

section Lines

variable {start row column i j : Nat} {line : List Char} {ls : List (List Char)}
  {name source : String}

/-- An attribute is on the first line or on one behind it. -/
theorem occursFrom_cons_iff : OccursFrom start (line :: ls) name i j ↔
    (i = start ∧ ∃ k, Stands ('@' :: name.toList) (codeOf line) k ∧ j = k + 1) ∨
      OccursFrom (start + 1) ls name i j := by
  constructor
  · rintro ⟨l, part, k, hmem, hcounts, hstands, rfl⟩
    rw [List.zipIdx_cons, List.mem_cons] at hmem
    obtain hhere | hmem := hmem
    · obtain ⟨rfl, rfl⟩ := Prod.mk.inj hhere
      exact .inl ⟨rfl, k, counts_iff.1 hcounts ▸ hstands, rfl⟩
    · exact .inr ⟨l, part, k, hmem, hcounts, hstands, rfl⟩
  · rintro (⟨rfl, k, hstands, rfl⟩ | ⟨l, part, k, hmem, h⟩)
    · exact ⟨line, _, k, by simp [List.zipIdx_cons], counts_codeOf line, hstands, rfl⟩
    · exact ⟨l, part, k, by simp [List.zipIdx_cons, hmem], h⟩

theorem OccursFrom.le (h : OccursFrom start ls name i j) : start ≤ i := by
  obtain ⟨_, _, _, hmem, -⟩ := h
  exact List.le_snd_of_mem_zipIdx hmem

theorem occursFrom_of_locateFrom?
    (h : locateFrom? ('@' :: name.toList) start ls = some (row, column)) :
    OccursFrom start ls name row column := by
  induction ls generalizing start with
  | nil => simp [locateFrom?] at h
  | cons line ls ih =>
    rw [occursFrom_cons_iff]
    rw [locateFrom?] at h
    cases hword : wordAt? ('@' :: name.toList) (codeOf line) with
    | some k =>
      rw [hword] at h
      obtain ⟨rfl, rfl⟩ := Prod.mk.inj (Option.some.inj h)
      exact .inl ⟨rfl, k, stands_of_wordAt? hword, rfl⟩
    | none =>
      rw [hword] at h
      exact .inr (ih h)

/-- Where an attribute occurs, one is found, and it is found there or before. -/
theorem exists_locateFrom?_le (h : OccursFrom start ls name i j) :
    ∃ row column, locateFrom? ('@' :: name.toList) start ls = some (row, column) ∧
      (row < i ∨ row = i ∧ column ≤ j) := by
  induction ls generalizing start with
  | nil =>
    obtain ⟨_, _, _, hmem, -⟩ := h
    simp at hmem
  | cons line ls ih =>
    rw [locateFrom?]
    obtain ⟨rfl, l, hstands, rfl⟩ | h := occursFrom_cons_iff.1 h
    · obtain ⟨k, hk, hle⟩ := exists_wordAt?_le hstands
      exact ⟨i, k + 1, by rw [hk], .inr ⟨rfl, Nat.succ_le_succ hle⟩⟩
    · cases hword : wordAt? ('@' :: name.toList) (codeOf line) with
      | some k => exact ⟨start, k + 1, rfl, .inl h.le⟩
      | none => exact ih h

theorem locate?_eq_some_iff : locate? name source = some (row, column) ↔
    First name source row column := by
  constructor
  · intro h
    refine ⟨occursFrom_of_locateFrom? h, fun i j hocc => ?_⟩
    obtain ⟨row', column', h', hle⟩ := exists_locateFrom?_le hocc
    obtain ⟨rfl, rfl⟩ := Prod.mk.inj (Option.some.inj (h.symm.trans h'))
    exact hle
  · intro h
    obtain ⟨row', column', h', hle⟩ := exists_locateFrom?_le h.occurs
    have hge := h.least _ _ (occursFrom_of_locateFrom? h')
    obtain ⟨rfl, rfl⟩ : row' = row ∧ column' = column := by omega
    exact h'

theorem locate?_eq_none_iff : locate? name source = none ↔
    ¬ ∃ row column, Occurs name source row column := by
  constructor
  · rintro h ⟨i, j, hocc⟩
    obtain ⟨row, column, h', -⟩ := exists_locateFrom?_le hocc
    rw [locate?, h'] at h
    cases h
  · intro h
    cases hlocate : locate? name source with
    | none => rfl
    | some place => exact absurd ⟨_, _, occursFrom_of_locateFrom? hlocate⟩ h

end Lines

/-! ### Reports -/

/-- What is said of a shader, with the file that it is from if that is known: an entry point
without a size has a place, a missing entry point has none. -/
inductive Judged (source : String) (file : Option String) : Report → Prop
  | noEntry (h : ¬ ∃ i j, Occurs "compute" source i j) :
    Judged source file
      { success := false
        errors := [{ level := .error, message := "missing @compute attribute" }]
        warnings := [], stdout := "", stderr := "" }
  | noSize {row column : Nat} (h : First "compute" source row column)
      (hsize : ¬ ∃ i j, Occurs "workgroup_size" source i j) :
    Judged source file
      { success := false
        errors := [{ level := .error, message := "missing @workgroup_size attribute", file,
                     line := some row, column := some column }]
        warnings := [], stdout := "", stderr := "" }
  | sound {i j i' j' : Nat} (h : Occurs "compute" source i j)
      (hsize : Occurs "workgroup_size" source i' j') :
    Judged source file { success := true, errors := [], warnings := [], stdout := "", stderr := "" }

theorem First.unique {name source : String} {i j i' j' : Nat} (h : First name source i j)
    (h' : First name source i' j') : i = i' ∧ j = j' := by
  have hle := h.least _ _ h'.occurs
  have hge := h'.least _ _ h.occurs
  omega

/-- At most one report is called for. -/
theorem Judged.unique {source : String} {file : Option String} {r r' : Report}
    (h : Judged source file r) (h' : Judged source file r') : r = r' := by
  cases h with
  | noEntry h =>
    cases h' with
    | noEntry => rfl
    | noSize h' => exact absurd ⟨_, _, h'.occurs⟩ h
    | sound h' => exact absurd ⟨_, _, h'⟩ h
  | noSize h hsize =>
    cases h' with
    | noEntry h' => exact absurd ⟨_, _, h.occurs⟩ h'
    | noSize h' =>
      obtain ⟨rfl, rfl⟩ := h.unique h'
      rfl
    | sound _ hsize' => exact absurd ⟨_, _, hsize'⟩ hsize
  | sound h hsize =>
    cases h' with
    | noEntry h' => exact absurd ⟨_, _, h⟩ h'
    | noSize _ hsize' => exact absurd ⟨_, _, hsize⟩ hsize'
    | sound => rfl

theorem judged_report (source : String) : Judged source none (report source) := by
  unfold report errors
  cases hentry : locate? "compute" source with
  | none => exact .noEntry (locate?_eq_none_iff.1 hentry)
  | some place =>
    obtain ⟨row, column⟩ := place
    cases hsize : locate? "workgroup_size" source with
    | none => exact .noSize (locate?_eq_some_iff.1 hentry) (locate?_eq_none_iff.1 hsize)
    | some place =>
      exact .sound (locate?_eq_some_iff.1 hentry).occurs (locate?_eq_some_iff.1 hsize).occurs

theorem judged_reportFile (path source : String) :
    Judged source (some path) (reportFile path source) := by
  have h := judged_report source
  unfold reportFile
  generalize report source = r at h
  cases h with
  | noEntry h => exact .noEntry h
  | noSize h hsize => exact .noSize h hsize
  | sound h hsize => exact .sound h hsize

/-! ### Files -/

theorem text_eq_ok_iff {files : Files} {path source : String} :
    files.text path = .ok source ↔ files path = .ok (Utf8.encode source.toList) := by
  unfold Files.text
  cases files path with
  | error fault => exact ⟨nofun, nofun⟩
  | ok content =>
    change Files.decode content = _ ↔ _
    rw [Files.decode, Except.ok.injEq, ← Utf8.decode?_eq_some_iff]
    cases Utf8.decode? content <;> simp

theorem text_eq_error_iff {files : Files} {path : String} {fault : FileFault} :
    files.text path = .error fault ↔
      files path = .error fault ∨
        fault = .notText ∧ ∃ content, files path = .ok content ∧
          ∀ source : String, content ≠ Utf8.encode source.toList := by
  unfold Files.text
  cases files path with
  | error fault' =>
    change Except.error fault' = _ ↔ _
    simp only [Except.error.injEq, reduceCtorEq, false_and, exists_false, and_false, or_false]
  | ok content =>
    change Files.decode content = _ ↔ _
    rw [Files.decode]
    cases hdecode : Utf8.decode? content with
    | some source =>
      have hcontent := Utf8.decode?_eq_some_iff.1 hdecode
      simp only [reduceCtorEq, false_or, false_iff, Except.ok.injEq, not_and, not_exists]
      rintro - _ rfl h
      exact h source hcontent
    | none =>
      have hcontent (source : String) : content ≠ Utf8.encode source.toList := fun h => by
        rw [Utf8.decode?_eq_some_iff.2 h] at hdecode
        cases hdecode
      simp only [reduceCtorEq, false_or, Except.error.injEq, Except.ok.injEq]
      exact ⟨fun h => ⟨h.symm, content, rfl, hcontent⟩, fun h => h.1.symm⟩

/-- The report on a shader is the one that the places of its two attributes call for, and so is the
report on a file that holds it, which its located error names. A file that cannot be read, or that
holds what no text encodes, gets no report. -/
theorem report_of_attributes :
    (∀ source r, report source = r ↔ Judged source none r) ∧
    (∀ (files : Files) path r, checkFile files path = .ok r ↔
      ∃ source : String, files path = .ok (Utf8.encode source.toList) ∧
        Judged source (some path) r) ∧
    ∀ (files : Files) path failure, checkFile files path = .error failure ↔
      ∃ fault : FileFault, failure = .io fault.message ∧
        (files path = .error fault ∨
          fault = .notText ∧ ∃ content, files path = .ok content ∧
            ∀ source : String, content ≠ Utf8.encode source.toList) := by
  refine ⟨fun source r => ?_, fun files path r => ?_, fun files path failure => ?_⟩
  · exact ⟨fun h => h ▸ judged_report source, (judged_report source).unique⟩
  · simp only [← text_eq_ok_iff, checkFile]
    cases files.text path with
    | error fault => simp
    | ok source =>
      simp only [Except.ok.injEq, exists_eq_left']
      exact ⟨fun h => h ▸ judged_reportFile path source, (judged_reportFile path source).unique⟩
  · simp only [← text_eq_error_iff, checkFile]
    cases files.text path with
    | error fault => simp [Failure.ofFile, eq_comm]
    | ok source => simp

-- a comment, a longer name and a letter of two bytes in front of the entry point
example : (reportFile "s.wgsl"
    "// @compute\r\né @compute_x @compute // @workgroup_size(1)\n").errors.map (·.location) =
      [some "s.wgsl:2:14"] := by decide +kernel

end SnippetCheck.Shader
