import Mathlib.Logic.Relation
import SnippetCheck.Proofs.Json.Fault
import SnippetCheck.Proofs.Json.Grammar
import SnippetCheck.Proofs.Json.Record
import SnippetCheck.Proofs.Json.Spread
import SnippetCheck.Reply

/-! How the answer of a primary service is read. At each of the three levels, the answer, the report
in it and the diagnostics in that, an object's members may change their order, members of other
names may come and go, and what is missing may be `null`; a diagnostic's own level may be any text;
and white space may stand between any two tokens. But there must be a report, and at no level may a
field be given twice or with a value that it cannot take. -/

namespace SnippetCheck

open Json

namespace Json

/-- One item of an array is altered. -/
inductive ItemAltered (altered : Json → Json → Prop) : Json → Json → Prop
  | mk {items items' : List Json} {j j' : Json} (h : altered j j') :
    ItemAltered altered (.array (items ++ j :: items')) (.array (items ++ j' :: items'))

/-! ### What is seen of a value that is read in steps -/

theorem eq_of_eqvGen {r : α → α → Prop} (f : α → β) (h : ∀ a b, r a b → f a = f b) {a b : α}
    (hab : Relation.EqvGen r a b) : f a = f b :=
  congrArg (Quot.lift f h) (Quot.eqvGen_sound hab)

theorem map_bind_congr {x y : Option α} {f f' : α → Option β} {p : α → γ} {g : β → δ}
    (hx : x.map p = y.map p) (hf : ∀ a b, p a = p b → (f a).map g = (f' b).map g) :
    (x.bind f).map g = (y.bind f').map g := by
  cases x with
  | none =>
    cases y with
    | none => rfl
    | some b => cases hx
  | some a =>
    cases y with
    | none => cases hx
    | some b => exact hf a b (Option.some.inj hx)

theorem map_mapM {f : α → Option β} (c : β → γ) (as : List α) :
    (as.mapM f).map (List.map c) = as.mapM fun a => (f a).map c := by
  induction as with
  | nil => rfl
  | cons a as ih =>
    rw [List.mapM_cons, List.mapM_cons, ← ih]
    cases f a with
    | none => rfl
    | some b => cases as.mapM f <;> rfl

theorem ItemAltered.map_list {altered : Json → Json → Prop} {d : Decoder α} {c : α → β}
    (hd : ∀ j j', altered j j' → ∀ n, (d n j).map c = (d n j').map c) {v v' : Json}
    (h : ItemAltered altered v v') (n : Nat) :
    (Decoder.list d n v).map (List.map c) = (Decoder.list d n v').map (List.map c) := by
  cases h with
  | @mk items items' j j' h =>
    cases n with
    | zero => rfl
    | succ n =>
      show ((items ++ j :: items').mapM (d n)).map _ = ((items ++ j' :: items').mapM (d n)).map _
      rw [map_mapM, map_mapM, List.mapM_append, List.mapM_append, List.mapM_cons, List.mapM_cons,
        hd _ _ h n]

section Slots

variable {optional : List String} {inner : String → Json → Json → Prop} {k : String} {s s' : Slot}
  {d : Decoder α}

/-- What is seen of a field that an object may lack. -/
theorem Slot.Altered.map_optional {p : Option α → β} {n : Nat}
    (h : Slot.Altered optional inner k s s')
    (hinner : ∀ v v', inner k v v' → (d.optional n v).map p = (d.optional n v').map p) :
    (s.optional d n).map p = (s'.optional d n).map p := by
  cases h with
  | same => rfl
  | null => rfl
  | inner h => exact hinner _ _ h

theorem Slot.Altered.optional_eq {n : Nat} (h : Slot.Altered optional inner k s s')
    (hinner : ∀ v v', ¬ inner k v v') : s.optional d n = s'.optional d n := by
  have hid := h.map_optional (d := d) (p := id) (n := n) fun v v' hv => absurd hv (hinner v v')
  rwa [Option.map_id, id, id] at hid

theorem Slot.Altered.map_required {p : α → β} {n : Nat} (h : Slot.Altered optional inner k s s')
    (hk : k ∉ optional)
    (hinner : ∀ v v', inner k v v' → (d n v).map p = (d n v').map p) :
    (s.required d n).map p = (s'.required d n).map p := by
  cases h with
  | same => rfl
  | null h => exact absurd h hk
  | inner h => exact hinner _ _ h

/-- A field that both an object and an array may lack. -/
theorem Slot.Altered.orElse_eq {n : Nat} (h : Slot.Altered optional inner k s s')
    (hinner : ∀ v v', ¬ inner k v v') :
    s.orElse none d.optional n = s'.orElse none d.optional n := by
  cases h with
  | same => rfl
  | null => rfl
  | inner h => exact absurd h (hinner _ _)

end Slots

/-! ### What is not read -/

theorem Slot.optional_eq_none {kind : Kind} {d : Decoder α} (hd : d.Only kind) {s : Slot} {v : Json}
    (hs : s = .given v) (hv : v ≠ .null) (hkind : kind.takes v = false) (n : Nat) :
    s.optional d n = none := by
  rw [hs]
  exact hd.optional hv hkind n

theorem mapM_eq_none {f : α → Option β} {as : List α} {a : α} (ha : a ∈ as) (h : f a = none) :
    as.mapM f = none := by
  induction as with
  | nil => cases ha
  | cons b as ih =>
    rw [List.mapM_cons]
    rcases List.mem_cons.1 ha with rfl | ha
    · rw [h]
      rfl
    · rw [ih ha]
      cases f b <;> rfl

end Json

/-! ### Fields -/

/-- The fields of a diagnostic, and what each of them can take. -/
def PartialDiagnostic.kinds : List (String × Kind) :=
  [("level", .text), ("message", .text), ("code", .text), ("file", .text), ("line", .word),
    ("column", .word), ("suggestion", .text)]

def PartialDiagnostic.names : List String := kinds.map Prod.fst

def PartialReport.kinds : List (String × Kind) :=
  [("success", .flag), ("errors", .list), ("warnings", .list), ("stdout", .text), ("stderr", .text)]

def PartialReport.names : List String := kinds.map Prod.fst

def CheckReply.kinds : List (String × Kind) := [("result", .record), ("rust_available", .flag)]

def CheckReply.names : List String := kinds.map Prod.fst

/-! ### Altered answers -/

namespace PartialDiagnostic

/-- An alteration of a diagnostic, or another text for its level. -/
def Altered : Json → Json → Prop :=
  Json.Altered names names fun k v v' => k = "level" ∧ ∃ s s', v = .string s ∧ v' = .string s'

theorem map_complete_of_altered (level : Level) {j j' : Json} (h : Altered j j') (n : Nat) :
    (decoder n j).map (·.complete level) = (decoder n j').map (·.complete level) := by
  refine record_altered (fun n f f₁ hf => ?_) h n
  have heq {β : Type} {d : Decoder β} (k : String) (hk : k ≠ "level") :
      (f k).optional d n = (f₁ k).optional d n :=
    (hf k).optional_eq fun _ _ h => hk h.1
  have hlevel : ((f "level").optional .text n).map (fun _ => ()) =
      ((f₁ "level").optional .text n).map fun _ => () := by
    refine (hf "level").map_optional ?_
    rintro _ _ ⟨-, s, s', rfl, rfl⟩
    rfl
  refine map_bind_congr hlevel fun _ _ _ => ?_
  rw [heq "message" (by decide), heq "code" (by decide), heq "file" (by decide),
    heq "line" (by decide), heq "column" (by decide), heq "suggestion" (by decide)]
  simp only [Option.bind_eq_bind, Option.map_bind, Function.comp_def, Option.pure_def,
    Option.map_some]
  rfl

end PartialDiagnostic

namespace PartialReport

/-- An alteration of a report, or of one of its diagnostics. -/
def Altered : Json → Json → Prop :=
  Json.Altered names names fun k v v' =>
    (k = "errors" ∨ k = "warnings") ∧ ItemAltered PartialDiagnostic.Altered v v'

theorem map_complete_of_altered {j j' : Json} (h : Altered j j') (n : Nat) :
    (decoder n j).map complete = (decoder n j').map complete := by
  refine record_altered (fun n f f₁ hf => ?_) h n
  have heq {β : Type} {d : Decoder β} (k : String) (hk : ¬ (k = "errors" ∨ k = "warnings")) :
      (f k).optional d n = (f₁ k).optional d n :=
    (hf k).optional_eq fun _ _ h => hk h.1
  have hlist (k : String) (level : Level) :
      ((f k).optional (.list PartialDiagnostic.decoder) n).map
          (fun ds => (ds.getD []).map (·.complete level)) =
        ((f₁ k).optional (.list PartialDiagnostic.decoder) n).map
          fun ds => (ds.getD []).map (·.complete level) := by
    refine (hf k).map_optional ?_
    rintro v v' ⟨-, hitem⟩
    have hmap := hitem.map_list
      (fun _ _ hd => PartialDiagnostic.map_complete_of_altered level hd) n
    cases hitem
    simp only [Decoder.optional, Option.map_map]
    exact hmap
  rw [heq "success" (by decide), heq "stdout" (by decide), heq "stderr" (by decide)]
  refine map_bind_congr (p := id) rfl fun success success' hsuccess => ?_
  obtain rfl : success = success' := hsuccess
  refine map_bind_congr (hlist "errors" .error) fun errors errors' herrors => ?_
  refine map_bind_congr (hlist "warnings" .warning) fun warnings warnings' hwarnings => ?_
  simp only [Option.bind_eq_bind, Option.map_bind, Function.comp_def, Option.pure_def,
    Option.map_some, complete]
  rw [herrors, hwarnings]

end PartialReport

namespace CheckReply

/-- An alteration of an answer, or of the report in it. -/
def Altered : Json → Json → Prop :=
  Json.Altered names ["rust_available"] fun k v v' => k = "result" ∧ PartialReport.Altered v v'

/-- What is seen of an answer: the completed report, and whether there is a toolchain. -/
def seen (r : CheckReply) : Report × Option Bool := (r.result.complete, r.rustAvailable)

theorem map_seen_of_altered {j j' : Json} (h : Altered j j') (n : Nat) :
    (decoder n j).map seen = (decoder n j').map seen := by
  refine record_altered (fun n f f₁ hf => ?_) h n
  have hresult : ((f "result").required PartialReport.decoder n).map PartialReport.complete =
      ((f₁ "result").required PartialReport.decoder n).map PartialReport.complete := by
    refine (hf "result").map_required (by decide) ?_
    rintro v v' ⟨-, hreport⟩
    exact PartialReport.map_complete_of_altered hreport n
  have hflag : (f "rust_available").orElse none (.optional .flag) n =
      (f₁ "rust_available").orElse none (.optional .flag) n :=
    (hf "rust_available").orElse_eq fun _ _ h => absurd h.1 (by decide)
  refine map_bind_congr hresult fun result result' hcomplete => ?_
  rw [hflag]
  simp only [Option.bind_eq_bind, Option.map_bind, Function.comp_def, Option.pure_def,
    Option.map_some, seen]
  rw [hcomplete]

/-- The second text is the first one, spread, or its value is that of the first one after any number
of alterations, each of which may be taken back. -/
inductive Restyled : String → String → Prop
  | spread {text text' : String} (h : Spread text.toList text'.toList) : Restyled text text'
  | altered {text text' : String} {j j' : Json} (hj : Spells (Token.scan text.toList) j)
    (hj' : Spells (Token.scan text'.toList) j') (h : Relation.EqvGen Altered j j') :
    Restyled text text'

theorem map_seen_of_restyled {text text' : String} (h : Restyled text text') :
    (decode? decoder text).map seen = (decode? decoder text').map seen := by
  cases h with
  | spread h => rw [decode?, decode?, h.read?_eq]
  | @altered j j' hj hj' h =>
    rw [decode?, decode?, read?_eq_some_iff.2 hj, read?_eq_some_iff.2 hj']
    exact eq_of_eqvGen (fun j => (decoder maxDepth j).map seen)
      (fun _ _ h => map_seen_of_altered h maxDepth) h

/-- An answer stays an answer, and is seen as the same one, however often its text is restyled or
was. -/
theorem exists_decode?_of_eqvGen {text text' : String} (h : Relation.EqvGen Restyled text text')
    {r : CheckReply} (hr : decode? decoder text = some r) :
    ∃ r', decode? decoder text' = some r' ∧ r'.seen = r.seen := by
  have hseen : (decode? decoder text).map seen = (decode? decoder text').map seen :=
    eq_of_eqvGen (fun text => (decode? decoder text).map seen)
      (fun _ _ => map_seen_of_restyled) h
  rw [hr] at hseen
  exact Option.map_eq_some_iff.1 hseen.symm

end CheckReply

/-! ### Refused answers -/

namespace PartialDiagnostic

/-- What is no diagnostic: what is no record at all, or a faulty one. -/
def Refused (j : Json) : Prop := Kind.record.takes j = false ∨ Faulty kinds j

theorem decoder_eq_none {j : Json} (h : Refused j) (n : Nat) : decoder n j = none := by
  rcases h with h | h
  · exact Decoder.only_record _ _ n j h
  · refine h.record_eq_none (by decide) (fun k kind v hk hv hkind n f hf => ?_) n
    have htext (hkind : Kind.text.takes v = false) : (f k).optional .text n = none :=
      Slot.optional_eq_none Decoder.only_text hf hv hkind n
    have hword (hkind : Kind.word.takes v = false) : (f k).optional .word n = none :=
      Slot.optional_eq_none Decoder.only_word hf hv hkind n
    simp only [kinds, List.mem_cons, List.not_mem_nil, or_false, Prod.mk.injEq] at hk
    obtain ⟨rfl, rfl⟩ | ⟨rfl, rfl⟩ | ⟨rfl, rfl⟩ | ⟨rfl, rfl⟩ | ⟨rfl, rfl⟩ | ⟨rfl, rfl⟩ |
      ⟨rfl, rfl⟩ := hk
    · simp [htext hkind]
    · simp [htext hkind]
    · simp [htext hkind]
    · simp [htext hkind]
    · simp [hword hkind]
    · simp [hword hkind]
    · simp [htext hkind]

end PartialDiagnostic

namespace PartialReport

/-- A faulty report, or one with something among its errors or warnings that is no diagnostic. -/
inductive Refused : Json → Prop
  | faulty {j : Json} (h : Faulty kinds j) : Refused j
  | diagnostic {j d : Json} {k : String} {items : List Json} (hk : k = "errors" ∨ k = "warnings")
    (h : Gives names k (.array items) j) (hd : d ∈ items)
    (hrefused : PartialDiagnostic.Refused d) : Refused j

theorem decoder_eq_none {j : Json} (h : Refused j) (n : Nat) : decoder n j = none := by
  cases h with
  | faulty h =>
    refine h.record_eq_none (by decide) (fun k kind v hk hv hkind n f hf => ?_) n
    have hflag (hkind : Kind.flag.takes v = false) : (f k).optional .flag n = none :=
      Slot.optional_eq_none Decoder.only_flag hf hv hkind n
    have hlist (hkind : Kind.list.takes v = false) :
        (f k).optional (.list PartialDiagnostic.decoder) n = none :=
      Slot.optional_eq_none (Decoder.only_list _) hf hv hkind n
    have htext (hkind : Kind.text.takes v = false) : (f k).optional .text n = none :=
      Slot.optional_eq_none Decoder.only_text hf hv hkind n
    simp only [kinds, List.mem_cons, List.not_mem_nil, or_false, Prod.mk.injEq] at hk
    obtain ⟨rfl, rfl⟩ | ⟨rfl, rfl⟩ | ⟨rfl, rfl⟩ | ⟨rfl, rfl⟩ | ⟨rfl, rfl⟩ := hk
    · simp [hflag hkind]
    · simp [hlist hkind]
    · simp [hlist hkind]
    · simp [htext hkind]
    · simp [htext hkind]
  | @diagnostic d k items hk h hd hrefused =>
    refine record_eq_none_of_gives h (by decide) ?_ (fun n f hf => ?_) n
    · rcases hk with rfl | rfl <;> decide
    · have hitems : Decoder.list PartialDiagnostic.decoder n (.array items) = none := by
        cases n with
        | zero => rfl
        | succ n => exact mapM_eq_none hd (PartialDiagnostic.decoder_eq_none hrefused n)
      have hlist : (f k).optional (.list PartialDiagnostic.decoder) n = none := by
        rw [hf, Slot.optional]
        show (Decoder.list _ n (.array items)).map some = none
        rw [hitems, Option.map_none]
      rcases hk with rfl | rfl <;> simp [hlist]

end PartialReport

namespace CheckReply

/-- A faulty answer, one that has no report, or one whose report is refused. -/
inductive Refused : Json → Prop
  | faulty {j : Json} (h : Faulty kinds j) : Refused j
  | missing {j : Json} (h : ∀ v, ¬ Gives names "result" v j) : Refused j
  | null {j : Json} (h : Gives names "result" .null j) : Refused j
  | report {j v : Json} (h : Gives names "result" v j)
    (hrefused : PartialReport.Refused v) : Refused j

theorem decoder_eq_none {j : Json} (h : Refused j) (n : Nat) : decoder n j = none := by
  -- no record is read from a value for the result that is not read as a report
  have hresult {v : Json} (hgives : Gives names "result" v j)
      (hv : ∀ n, PartialReport.decoder n v = none) : decoder n j = none := by
    refine record_eq_none_of_gives hgives (by decide) (by decide) (fun n f hf => ?_) n
    simp [hf, Slot.required, hv n]
  cases h with
  | faulty h =>
    refine h.record_eq_none (by decide) (fun k kind v hk hv hkind n f hf => ?_) n
    simp only [kinds, List.mem_cons, List.not_mem_nil, or_false, Prod.mk.injEq] at hk
    obtain ⟨rfl, rfl⟩ | ⟨rfl, rfl⟩ := hk
    · have hrecord : PartialReport.decoder n v = none := Decoder.only_record _ _ n v hkind
      simp [hf, Slot.required, hrecord]
    · have hflag := Decoder.only_flag.optional hv hkind n
      simp [hf, Slot.orElse, hflag]
  | missing h =>
    refine record_eq_none_of_missing h (fun n f hf => ?_) n
    have hnone : (f "result").required PartialReport.decoder n = none := by
      cases hs : f "result" with
      | given v => exact absurd hs (hf v)
      | missing => rfl
      | cut => rfl
    simp [hnone]
  | null h => exact hresult h fun n => Decoder.only_record _ _ n .null rfl
  | report h hrefused => exact hresult h (PartialReport.decoder_eq_none hrefused)

/-- A refused answer is not read, however it is written. -/
theorem decode?_eq_none {text : String} {j : Json} (hj : Spells (Token.scan text.toList) j)
    (h : Refused j) : decode? decoder text = none := by
  rw [decode?, read?_eq_some_iff.2 hj]
  exact decoder_eq_none h maxDepth

end CheckReply

end SnippetCheck
