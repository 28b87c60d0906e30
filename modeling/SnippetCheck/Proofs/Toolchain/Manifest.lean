import Mathlib.Data.List.Induction
import SnippetCheck.Proofs.Toml.Document
import SnippetCheck.Toolchain

/-! The manifest reads back as the package and the dependencies that it was made for: two tables,
and in the table of the dependencies each name once, with the version that was given for it last. No
text can break out of its place, since the tables read back whatever their keys and strings hold. -/

namespace SnippetCheck.Toolchain

/-! ### The table of the dependencies -/

/-- The keys of a table are in order, so that none of them occurs twice. -/
def Sorted (es : List (String × String)) : Prop := es.Pairwise fun e e' => e.1 < e'.1

theorem Sorted.nodup {es : List (String × String)} (h : Sorted es) : (es.map Prod.fst).Nodup := by
  rw [List.Nodup, List.pairwise_map]
  refine h.imp fun {e e'} hlt heq => ?_
  exact String.lt_irrefl _ (heq ▸ hlt)

/-- A table with another value for a key holds that value and all else that it held. -/
theorem mem_put {es : List (String × String)} (h : Sorted es) (key value : String)
    (e : String × String) :
    e ∈ put key value es ↔ e = (key, value) ∨ (e.1 ≠ key ∧ e ∈ es) := by
  induction es with
  | nil => simp [put]
  | cons e' es ih =>
    obtain ⟨hfirst, hes⟩ := List.pairwise_cons.1 h
    have hne : e ∈ es → e.1 ≠ e'.1 := by
      rintro hmem heq
      exact String.lt_irrefl _ (heq ▸ hfirst e hmem)
    unfold put
    split
    · next heq =>
      subst heq
      rw [List.mem_cons, List.mem_cons]
      refine or_congr_right ⟨fun hmem => ⟨hne hmem, .inr hmem⟩, fun ⟨hkey, hmem⟩ => ?_⟩
      exact hmem.resolve_left fun he => hkey (he ▸ rfl)
    split
    · next hlt =>
      rw [List.mem_cons]
      refine or_congr_right ⟨fun hmem => ⟨?_, hmem⟩, And.right⟩
      rintro rfl
      rcases List.mem_cons.1 hmem with rfl | hmem
      · exact String.lt_irrefl _ hlt
      · exact String.lt_irrefl _ (String.lt_trans hlt (hfirst e hmem))
    · next hkey _ =>
      rw [List.mem_cons, ih hes, List.mem_cons]
      have hfirst : e = e' → e.1 ≠ key := by
        rintro rfl
        exact Ne.symm hkey
      grind

theorem Sorted.put {es : List (String × String)} (h : Sorted es) (key value : String) :
    Sorted (put key value es) := by
  induction es with
  | nil => exact List.pairwise_singleton ..
  | cons e es ih =>
    obtain ⟨hfirst, hes⟩ := List.pairwise_cons.1 h
    unfold Toolchain.put
    split
    · next heq => exact List.pairwise_cons.2 ⟨fun e' he' => heq ▸ hfirst e' he', hes⟩
    split
    · next hlt =>
      refine List.pairwise_cons.2 ⟨fun e' he' => ?_, h⟩
      rcases List.mem_cons.1 he' with rfl | he'
      · exact hlt
      · exact String.lt_trans hlt (hfirst e' he')
    · next hne hnlt =>
      have hgt : e.1 < key := Std.lt_of_le_of_ne (String.not_lt.1 hnlt) (Ne.symm hne)
      refine List.pairwise_cons.2 ⟨fun e' he' => ?_, ih hes⟩
      rcases (mem_put hes key value e').1 he' with rfl | ⟨-, he'⟩
      · exact hgt
      · exact hfirst e' he'

theorem dependencyTable_concat (ds : List Dependency) (d : Dependency) :
    dependencyTable (ds ++ [d]) = put d.name d.version (dependencyTable ds) := by
  rw [dependencyTable, List.foldl_append, ← dependencyTable]
  rfl

theorem sorted_dependencyTable (ds : List Dependency) : Sorted (dependencyTable ds) := by
  -- from the back, as the last dependency is put into the table of those before it
  induction ds using List.reverseRecOn with
  | nil => exact .nil
  | append_singleton ds d ih =>
    rw [dependencyTable_concat]
    exact ih.put d.name d.version

/-- A dependency that no other one of its name follows. -/
def IsLast (d : Dependency) (ds : List Dependency) : Prop :=
  ∃ before after, ds = before ++ d :: after ∧ ∀ e ∈ after, e.name ≠ d.name

theorem isLast_concat {d e : Dependency} {ds : List Dependency} :
    IsLast d (ds ++ [e]) ↔ d = e ∨ (d.name ≠ e.name ∧ IsLast d ds) := by
  constructor
  · rintro ⟨before, after, heq, hafter⟩
    rcases List.eq_nil_or_concat after with rfl | ⟨after, e', rfl⟩
    · exact .inl (List.cons.inj (List.append_inj' heq rfl).2).1.symm
    · have heq' : ds ++ [e] = (before ++ d :: after) ++ [e'] := by simpa using heq
      obtain ⟨rfl, hlast⟩ := List.append_inj' heq' rfl
      obtain rfl : e = e' := (List.cons.inj hlast).1
      exact .inr ⟨(hafter e (by simp)).symm, before, after, rfl,
        fun f hf => hafter f (by simp [hf])⟩
  · rintro (rfl | ⟨hne, before, after, rfl, hafter⟩)
    · exact ⟨ds, [], rfl, by simp⟩
    · refine ⟨before, after ++ [e], by simp, fun f hf => ?_⟩
      rcases List.mem_append.1 hf with hf | hf
      · exact hafter f hf
      · rw [List.mem_singleton.1 hf]
        exact hne.symm

/-- The table holds the last dependency of each name. -/
theorem mem_dependencyTable (ds : List Dependency) (d : Dependency) :
    (d.name, d.version) ∈ dependencyTable ds ↔ IsLast d ds := by
  induction ds using List.reverseRecOn with
  | nil => simp [dependencyTable, IsLast]
  | append_singleton ds e ih =>
    have heq : (d.name, d.version) = (e.name, e.version) ↔ d = e := by
      cases d
      cases e
      simp
    rw [dependencyTable_concat, mem_put (sorted_dependencyTable ds), isLast_concat, ← ih, heq]

theorem exists_isLast {ds : List Dependency} {d : Dependency} (h : d ∈ ds) :
    ∃ e, IsLast e ds ∧ e.name = d.name := by
  induction ds using List.reverseRecOn with
  | nil => exact absurd h List.not_mem_nil
  | append_singleton ds e ih =>
    by_cases hname : d.name = e.name
    · exact ⟨e, isLast_concat.2 (.inl rfl), hname.symm⟩
    rcases List.mem_append.1 h with h | h
    · obtain ⟨f, hf, hfd⟩ := ih h
      exact ⟨f, isLast_concat.2 (.inr ⟨hfd ▸ hname, hf⟩), hfd⟩
    · exact absurd (congrArg Dependency.name (List.mem_singleton.1 h)) hname

theorem mem_keys_dependencyTable (ds : List Dependency) (name : String) :
    name ∈ (dependencyTable ds).map Prod.fst ↔ ∃ d ∈ ds, d.name = name := by
  constructor
  · intro hname
    obtain ⟨e, hmem, rfl⟩ := List.mem_map.1 hname
    obtain ⟨before, after, rfl, -⟩ := (mem_dependencyTable ds ⟨e.1, e.2⟩).1 hmem
    exact ⟨⟨e.1, e.2⟩, by simp, rfl⟩
  · rintro ⟨d, hd, rfl⟩
    obtain ⟨e, he, hname⟩ := exists_isLast hd
    exact List.mem_map.2 ⟨_, (mem_dependencyTable ds e).2 he, hname⟩

/-! ### The manifest -/

/-- The manifest of a snippet is a document of two tables, whatever the edition and the dependencies
are: the package, and each dependency's name once with the version that stands last for it. -/
theorem read?_manifest (edition : String) (ds : List Dependency) :
    ∃ dependencies : List (String × Toml),
      Toml.read? (manifest edition ds) =
        some [("dependencies", .table dependencies),
          ("package", .table [("edition", .string edition),
            ("name", .string "blockly_check_snippet"), ("version", .string "0.1.0")])] ∧
      (dependencies.map Prod.fst).Nodup ∧
      (∀ name, name ∈ dependencies.map Prod.fst ↔ ∃ d ∈ ds, d.name = name) ∧
      ∀ name v, (name, v) ∈ dependencies ↔
        ∃ version, v = .string version ∧ IsLast ⟨name, version⟩ ds := by
  have hnames : ((manifestTables edition ds).map Prod.fst).Nodup := by simp [manifestTables]
  have hkeys : ∀ t ∈ manifestTables edition ds, (t.2.map Prod.fst).Nodup := by
    intro t ht
    rcases List.mem_cons.1 ht with rfl | ht
    · exact (sorted_dependencyTable ds).nodup
    · rw [List.mem_singleton.1 ht]
      simp
  have hmap : ((dependencyTable ds).map fun e => (e.1, Toml.string e.2)).map Prod.fst =
      (dependencyTable ds).map Prod.fst := by simp
  refine ⟨(dependencyTable ds).map fun e => (e.1, .string e.2), ?_, ?_, ?_, fun name v => ?_⟩
  · rw [manifest, Toml.read?_printTables hnames hkeys]
    rfl
  · rw [hmap]
    exact (sorted_dependencyTable ds).nodup
  · rw [hmap]
    exact mem_keys_dependencyTable ds
  · rw [List.mem_map]
    constructor
    · rintro ⟨e, he, heq⟩
      obtain ⟨rfl, rfl⟩ := Prod.mk.inj heq
      exact ⟨e.2, rfl, (mem_dependencyTable ds ⟨e.1, e.2⟩).1 he⟩
    · rintro ⟨version, rfl, hlast⟩
      exact ⟨(name, version), (mem_dependencyTable ds ⟨name, version⟩).2 hlast, rfl⟩

end SnippetCheck.Toolchain
