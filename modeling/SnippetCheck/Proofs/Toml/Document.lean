import SnippetCheck.Proofs.Toml.Quoted

/-! Documents of tables of strings read back from what is printed of them. Each printed line is read
as one statement wherever it stands, the lines of a document are read as its statements in order,
and the statements make the tables again if no name occurs twice. -/

namespace SnippetCheck.Toml

/-! ### Lines -/

theorem skipSpaces_cons {c : Char} (s : List Char) (h : isSpace c = false) :
    skipSpaces (c :: s) = c :: s :=
  List.dropWhile_cons_of_neg (by simp [h])

theorem isSpace_of_isBare {c : Char} (h : isBare c = true ∨ c = '"' ∨ c = '\'') :
    isSpace c = false := by
  rw [Bool.eq_false_iff]
  intro hspace
  simp only [isSpace, Bool.or_eq_true, beq_iff_eq] at hspace
  obtain rfl | rfl := hspace <;> revert h <;> decide

theorem key?_printKey (s : List Char) {levels : Nat} (hlevels : levels ≠ 0) {rest : List Char}
    (hbare : ∀ c ∈ rest.head?, isBare c = false) (hpoint : ∀ c ∈ (skipSpaces rest).head?, c ≠ '.') :
    key? levels (printKey s ++ rest) = some ([String.ofList s], skipSpaces rest) := by
  obtain ⟨n, rfl⟩ := Nat.exists_eq_add_one_of_ne_zero hlevels
  obtain ⟨c, t, hkey, hc⟩ := printKey_eq_cons s
  have hread := simpleKey?_printKey s hbare
  have hskip : skipSpaces (printKey s ++ rest) = printKey s ++ rest := by
    rw [hkey]
    exact skipSpaces_cons _ (isSpace_of_isBare hc)
  rw [key?, hskip, hread]
  simp only [Option.bind_eq_bind, Option.bind_some]
  split
  · next heq =>
    rw [heq] at hpoint
    exact absurd rfl (hpoint '.' rfl)
  · rfl

theorem value?_printString (s : List Char) (levels : Nat) {rest : List Char}
    (hquote : NotMark '"' rest) (hmark : NotMark '\'' rest) :
    value? levels (printString s ++ rest) = some (.string (String.ofList s), rest) := by
  have hscalar : scalar? (printString s ++ rest) = some (.string (String.ofList s), rest) := by
    rw [scalar?, quoted?_printString s hquote hmark]
    rfl
  obtain ⟨c, t, hs, hc⟩ := printString_eq_cons s
  rw [hs, List.cons_append] at hscalar ⊢
  -- a quote opens neither an array nor an inline table
  unfold value?
  split
  · next heq =>
    obtain ⟨rfl, -⟩ := List.cons.inj heq
    exact absurd hc (by decide)
  · next heq =>
    obtain ⟨rfl, -⟩ := List.cons.inj heq
    exact absurd hc (by decide)
  · exact hscalar

/-- A line that starts like a key holds the statement that is read from it. -/
theorem line?_of_statement? {c : Char} {s rest : List Char} {st : Statement}
    (hc : isBare c = true ∨ c = '[' ∨ c = '"' ∨ c = '\'')
    (h : statement? (c :: s) = some (st, '\n' :: rest)) :
    line? (c :: s) = some (some st, rest) := by
  have hspace : isSpace c = false := by
    obtain hc | rfl | hc := hc
    · exact isSpace_of_isBare (.inl hc)
    · decide
    · exact isSpace_of_isBare (.inr hc)
  have hskip := skipSpaces_cons s hspace
  have hend : afterLine? ('\n' :: rest) = some rest := rfl
  -- the line is neither empty nor a comment
  have hfull : afterLine? (c :: s) = none := by
    unfold afterLine?
    rw [hskip]
    split
    · next heq => exact absurd heq (by simp)
    · next heq =>
      obtain ⟨rfl, -⟩ := List.cons.inj heq
      exact absurd hc (by decide)
    · refine afterNewline?_cons s ?_ ?_ <;> rintro rfl <;> exact absurd hc (by decide)
  simp only [line?, hfull, hskip, h, hend, Option.bind_eq_bind, Option.bind_some, Option.pure_def]

/-- The statement of an entry with a string. -/
def Statement.ofEntry (e : String × String) : Statement := .entry [e.1] (.string e.2)

theorem pair?_printEntry (e : String × String) (levels : Nat) (rest : List Char) :
    pair? (value? levels) (printEntry e ++ rest) = some (([e.1], .string e.2), '\n' :: rest) := by
  have hequals : " = ".toList = [' ', '=', ' '] := by decide
  have hprint : printEntry e ++ rest = printKey e.1.toList ++
      ' ' :: '=' :: ' ' :: (printString e.2.toList ++ '\n' :: rest) := by
    simp [printEntry, hequals]
  have hkey : key? maxDepth (printEntry e ++ rest) =
      some ([e.1], '=' :: ' ' :: (printString e.2.toList ++ '\n' :: rest)) := by
    rw [hprint]
    exact (key?_printKey e.1.toList (by decide) (by simp [isBare])
      (by simp [skipSpaces, isSpace])).trans (by simp [skipSpaces, isSpace])
  have hvalue : value? levels (printString e.2.toList ++ '\n' :: rest) =
      some (.string e.2, '\n' :: rest) := by
    rw [value?_printString _ _ (.cons _ (by decide)) (.cons _ (by decide)), String.ofList_toList]
  have hskip : skipSpaces (' ' :: (printString e.2.toList ++ '\n' :: rest)) =
      printString e.2.toList ++ '\n' :: rest := by
    obtain ⟨c, t, hs, hc⟩ := printString_eq_cons e.2.toList
    rw [hs]
    exact skipSpaces_cons _ (isSpace_of_isBare (.inr hc))
  rw [pair?, hkey]
  simp only [Option.bind_eq_bind, Option.bind_some, Option.pure_def, Text.after?, if_true, hskip,
    hvalue]
  rw [skipSpaces_cons _ (by decide)]

theorem line?_printEntry (e : String × String) (rest : List Char) :
    line? (printEntry e ++ rest) = some (some (.ofEntry e), rest) := by
  obtain ⟨c, t, hkey, hc⟩ := printKey_eq_cons e.1.toList
  have hpair := pair?_printEntry e maxDepth rest
  obtain ⟨s, hs⟩ : ∃ s, printEntry e ++ rest = c :: s := by
    simp [printEntry, hkey]
  rw [hs] at hpair ⊢
  apply line?_of_statement? (hc.imp_right .inr)
  unfold statement?
  split
  · next heq =>
    obtain ⟨rfl, -⟩ := List.cons.inj heq
    exact absurd hc (by decide)
  · next heq =>
    obtain ⟨rfl, -⟩ := List.cons.inj heq
    exact absurd hc (by decide)
  · rw [hpair]
    rfl

theorem line?_header (name : String) (rest : List Char) :
    line? ('[' :: (printKey name.toList ++ ']' :: '\n' :: rest)) =
      some (some (.table [name]), rest) := by
  have hkey : key? maxDepth (printKey name.toList ++ ']' :: '\n' :: rest) =
      some ([name], ']' :: '\n' :: rest) :=
    (key?_printKey name.toList (by decide) (by simp [isBare])
      (by simp [skipSpaces, isSpace])).trans (by simp [skipSpaces, isSpace])
  obtain ⟨c, t, hname, hc⟩ := printKey_eq_cons name.toList
  apply line?_of_statement? (.inr (.inl rfl))
  rw [hname, List.cons_append] at hkey ⊢
  have hbracket : c ≠ '[' := by
    rintro rfl
    exact absurd hc (by decide)
  have hclose : "]".toList = [']'] := by decide
  unfold statement?
  split
  · next heq => exact absurd (List.cons.inj (List.cons.inj heq).2).1 hbracket
  · next heq =>
    rw [← (List.cons.inj heq).2, hkey, hclose]
    rfl
  · next hheader => exact absurd rfl (hheader _)

/-! ### Statements -/

theorem statements?_of_line? {s rest : List Char} {st : Option Statement}
    (h : line? s = some (st, rest)) (hlt : rest.length < s.length) :
    statements? s = (statements? rest).map (st.toList ++ ·) := by
  have hne : s ≠ [] := by
    rintro rfl
    exact absurd hlt (Nat.not_lt_zero _)
  rw [statements?, if_neg hne, h]
  simp only [Option.bind_eq_bind, Option.bind_some, if_pos hlt]
  cases statements? rest <;> rfl

theorem statements?_printEntries (es : List (String × String)) (rest : List Char) :
    statements? (es.flatMap printEntry ++ rest) =
      (statements? rest).map (es.map .ofEntry ++ ·) := by
  induction es with
  | nil => simp
  | cons e es ih =>
    have hlt : (es.flatMap printEntry ++ rest).length <
        (printEntry e ++ (es.flatMap printEntry ++ rest)).length := by
      simp only [printEntry, List.length_append, List.length_singleton]
      omega
    rw [List.flatMap_cons, List.append_assoc, statements?_of_line? (line?_printEntry e _) hlt, ih]
    simp [Function.comp_def]

/-- The statements of a table of strings. -/
def Statement.ofTable (t : String × List (String × String)) : List Statement :=
  .table [t.1] :: t.2.map .ofEntry

theorem statements?_printTable (t : String × List (String × String)) (rest : List Char) :
    statements? (printTable t ++ rest) =
      (statements? rest).map (Statement.ofTable t ++ ·) := by
  have hprint : printTable t ++ rest =
      '[' :: (printKey t.1.toList ++ ']' :: '\n' :: (t.2.flatMap printEntry ++ rest)) := by
    simp [printTable]
  have hlt : (t.2.flatMap printEntry ++ rest).length < (printTable t ++ rest).length := by
    rw [hprint]
    simp only [List.length_cons, List.length_append]
    omega
  rw [statements?_of_line? (hprint ▸ line?_header t.1 _) hlt, statements?_printEntries]
  simp [Function.comp_def, Statement.ofTable]

theorem statements?_printTables (ts : List (String × List (String × String))) :
    statements? (printTables ts) = some (ts.flatMap Statement.ofTable) := by
  have hnil : statements? [] = some [] := by
    rw [statements?]
    rfl
  induction ts with
  | nil => exact hnil
  | cons t ts ih =>
    cases ts with
    | nil => simpa [printTables, hnil] using statements?_printTable t []
    | cons u ts =>
      have hblank (s : List Char) : statements? ('\n' :: s) = statements? s := by
        have hline : line? ('\n' :: s) = some (none, s) := rfl
        rw [statements?_of_line? hline (by simp)]
        simp
      rw [printTables, statements?_printTable, hblank, ih]
      · rfl
      · exact List.cons_ne_nil u ts

/-! ### Tables -/

/-- The entries of a table, as a document's statements set them. -/
def pairsOf (es : List (String × String)) : List (List String × Toml) :=
  es.map fun e => ([e.1], .string e.2)

theorem sections_ofEntries (es : List (String × String)) (sts : List Statement) :
    sections (es.map Statement.ofEntry ++ sts) =
      (pairsOf es ++ (sections sts).1, (sections sts).2) := by
  induction es with
  | nil => rfl
  | cons e es ih =>
    rw [List.map_cons, List.cons_append, Statement.ofEntry, sections, ih]
    rfl

theorem sections_ofTables (ts : List (String × List (String × String))) :
    sections (ts.flatMap Statement.ofTable) =
      ([], ts.map fun t => (.table [t.1], pairsOf t.2)) := by
  induction ts with
  | nil => rfl
  | cons t ts ih =>
    rw [List.flatMap_cons, Statement.ofTable, List.cons_append, sections, sections_ofEntries, ih]
    · simp
    · simp

/-- A new key comes last. -/
theorem alter?_of_not_mem {f : Option Node → Option Node} {key : String} {es : Entries} {n : Node}
    (hkey : key ∉ es.map Prod.fst) (hf : f none = some n) :
    alter? f key es = some (es ++ [(key, n)]) := by
  induction es with
  | nil => simp [alter?, hf]
  | cons e es ih =>
    rw [List.map_cons, List.mem_cons, not_or] at hkey
    rw [alter?, if_neg (Ne.symm hkey.1), ih hkey.2]
    rfl

/-- The node of an entry that holds a string. -/
def nodeOf (e : String × String) : String × Node := (e.1, .value (.string e.2))

theorem insertAll?_cons (key : List String) (v : Toml) (pairs : List (List String × Toml))
    (es : Entries) :
    insertAll? ((key, v) :: pairs) es = (insert? v key es).bind (insertAll? pairs) := rfl

theorem insertAll?_pairsOf (es : List (String × String)) (acc : Entries)
    (h : (acc.map Prod.fst ++ es.map Prod.fst).Nodup) :
    insertAll? (pairsOf es) acc = some (acc ++ es.map nodeOf) := by
  induction es generalizing acc with
  | nil => simp [pairsOf, insertAll?]
  | cons e es ih =>
    have hkey : e.1 ∉ acc.map Prod.fst := by
      intro hmem
      exact (List.nodup_append.1 h).2.2 _ hmem _ List.mem_cons_self rfl
    have hinsert : insert? (.string e.2) [e.1] acc = some (acc ++ [nodeOf e]) :=
      alter?_of_not_mem hkey rfl
    have hrest := ih (acc ++ [nodeOf e]) (by simpa [nodeOf] using h)
    rw [pairsOf, List.map_cons, insertAll?_cons, hinsert, Option.bind_some, ← pairsOf, hrest]
    simp

/-- The node of a table of strings under a header of its own. -/
def tableOf (t : String × List (String × String)) : String × Node :=
  (t.1, .table .header (t.2.map nodeOf))

theorem foldlM_addSection? (ts : List (String × List (String × String))) (acc : Entries)
    (h : (acc.map Prod.fst ++ ts.map Prod.fst).Nodup)
    (hkeys : ∀ t ∈ ts, (t.2.map Prod.fst).Nodup) :
    (ts.map fun t => (Statement.table [t.1], pairsOf t.2)).foldlM addSection? acc =
      some (acc ++ ts.map tableOf) := by
  induction ts generalizing acc with
  | nil => simp
  | cons t ts ih =>
    have hname : t.1 ∉ acc.map Prod.fst := by
      intro hmem
      exact (List.nodup_append.1 h).2.2 _ hmem _ List.mem_cons_self rfl
    have hentries : insertAll? (pairsOf t.2) [] = some (t.2.map nodeOf) :=
      insertAll?_pairsOf t.2 [] (hkeys t List.mem_cons_self)
    have hheader : giveHeader? (pairsOf t.2) none = some (tableOf t).2 := by
      rw [giveHeader?, hentries]
      rfl
    have hsection : addSection? acc (.table [t.1], pairsOf t.2) = some (acc ++ [tableOf t]) :=
      alter?_of_not_mem hname hheader
    have hrest := ih (acc ++ [tableOf t]) (by simpa [tableOf] using h)
      fun u hu => hkeys u (List.mem_cons_of_mem t hu)
    rw [List.map_cons, List.foldlM_cons, hsection]
    simpa using hrest

theorem ofEntries_map_nodeOf (es : List (String × String)) :
    ofEntries (es.map nodeOf) = es.map fun e => (e.1, .string e.2) := by
  induction es with
  | nil => rfl
  | cons e es ih =>
    rw [List.map_cons, nodeOf, ofEntries, ih]
    rfl

theorem ofEntries_map_tableOf (ts : List (String × List (String × String))) :
    ofEntries (ts.map tableOf) =
      ts.map fun t => (t.1, .table (t.2.map fun e => (e.1, .string e.2))) := by
  induction ts with
  | nil => rfl
  | cons t ts ih =>
    rw [List.map_cons, tableOf, ofEntries, ih, Node.toToml, ofEntries_map_nodeOf]
    rfl

theorem dropMark_printTables (ts : List (String × List (String × String))) :
    Text.Utf8.dropMark (printTables ts) = printTables ts := by
  match ts with
  | [] => rfl
  | [_] => rfl
  | _ :: _ :: _ => rfl

/-- Tables of strings read back from what is printed of them, if no two of them have one name and no
two entries of a table have one key. -/
theorem read?_printTables {ts : List (String × List (String × String))}
    (hnames : (ts.map Prod.fst).Nodup) (hkeys : ∀ t ∈ ts, (t.2.map Prod.fst).Nodup) :
    read? (String.ofList (printTables ts)) =
      some (ts.map fun t => (t.1, .table (t.2.map fun e => (e.1, .string e.2)))) := by
  have hfirst : insertAll? [] [] = some [] := rfl
  have htables := foldlM_addSection? ts [] hnames hkeys
  rw [read?, String.toList_ofList, dropMark_printTables, statements?_printTables]
  simp only [Option.bind_eq_bind, Option.bind_some, ofStatements?, sections_ofTables, hfirst,
    htables, List.nil_append, ofEntries_map_tableOf, Option.pure_def]

end SnippetCheck.Toml
