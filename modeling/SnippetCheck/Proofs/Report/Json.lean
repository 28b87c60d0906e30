import SnippetCheck.Command
import SnippetCheck.Proofs.Json.Decoder

/-! Reports and diagnostics read back from the JSON text that is printed of them. The one thing that
the text cannot hold is a line or a column beyond 64 bits; a report without one `Fits`. -/

namespace SnippetCheck

open Json

namespace Diagnostic

/-- The line and the column, as far as they are known, have at most 64 bits. -/
structure Fits (d : Diagnostic) : Prop where
  line : ∀ n ∈ d.line, n ≤ Numeral.wordMax
  column : ∀ n ∈ d.column, n ≤ Numeral.wordMax

theorem plain_ofTextOrNone (s : Option String) : (ofTextOrNone s).Plain := by
  cases s with
  | none => exact .null
  | some s => exact .string s

theorem plain_ofCountOrNone {n : Option Nat} (h : ∀ k ∈ n, k ≤ Numeral.wordMax) :
    (ofCountOrNone n).Plain := by
  cases n with
  | none => exact .null
  | some k => exact .number (h k rfl)

/-- The members of the object that is written of a diagnostic. -/
def members (d : Diagnostic) : List (String × Json) :=
  [("level", .string d.level.name), ("message", .string d.message),
    ("code", ofTextOrNone d.code), ("file", ofTextOrNone d.file),
    ("line", ofCountOrNone d.line), ("column", ofCountOrNone d.column)] ++
  (d.suggestion.map fun s => ("suggestion", Json.string s)).toList

theorem toJson_eq (d : Diagnostic) : d.toJson = .object d.members := rfl

theorem nodup_members (d : Diagnostic) : (d.members.map Prod.fst).Nodup := by
  cases h : d.suggestion <;> simp [members, h]

theorem Fits.plain_toJson {d : Diagnostic} (h : d.Fits) : d.toJson.Plain := by
  rw [toJson_eq]
  apply Plain.object
  intro m hm
  simp only [members, List.mem_append, List.mem_cons, List.not_mem_nil, or_false,
    Option.mem_toList, Option.map_eq_some_iff] at hm
  obtain (rfl | rfl | rfl | rfl | rfl | rfl) | ⟨s, -, rfl⟩ := hm
  · exact .string d.level.name
  · exact .string d.message
  · exact plain_ofTextOrNone d.code
  · exact plain_ofTextOrNone d.file
  · exact plain_ofCountOrNone h.line
  · exact plain_ofCountOrNone h.column
  · exact .string s

theorem optional_ofTextOrNone (n : Nat) (s : Option String) :
    Decoder.text.optional n (ofTextOrNone s) = some s := by
  cases s <;> rfl

theorem optional_ofCountOrNone (n : Nat) {k : Option Nat} (h : ∀ i ∈ k, i ≤ Numeral.wordMax) :
    Decoder.word.optional n (ofCountOrNone k) = some k := by
  cases k with
  | none => rfl
  | some i =>
    have hi : Decoder.word n (.number (.natural i)) = some i := if_pos (h i rfl)
    exact congrArg (Option.map some) hi

/-- A diagnostic is decoded from its object, with its suggestion or without one. -/
theorem Fits.decoder_toJson {d : Diagnostic} (h : d.Fits) (n : Nat) :
    decoder (n + 1) d.toJson = some d := by
  have hlevel : Decoder.choice Level.ofName? n (.string d.level.name) = some d.level := by
    cases n <;> exact Level.ofName?_name d.level
  have hline := optional_ofCountOrNone n h.line
  have hcolumn := optional_ofCountOrNone n h.column
  rw [decoder, toJson_eq, record_object n (nodup_members d)]
  obtain ⟨level, message, code, file, line, column, suggestion⟩ := d
  cases suggestion with
  | none =>
    simp [field, members, List.lookup_cons, Slot.required, Slot.optional, Slot.orElse,
      Decoder.text, optional_ofTextOrNone, hlevel, hline, hcolumn]
  | some s =>
    have hsuggestion : Decoder.text.optional n (.string s) = some (some s) := rfl
    simp [field, members, List.lookup_cons, Slot.required, Slot.optional, Slot.orElse,
      Decoder.text, optional_ofTextOrNone, hlevel, hline, hcolumn, hsuggestion]

end Diagnostic

namespace Report

/-- The lines and columns of the diagnostics have at most 64 bits. -/
def Fits (r : Report) : Prop := ∀ d ∈ r.diagnostics, d.Fits

theorem plain_map_toJson {ds : List Diagnostic} (h : ∀ d ∈ ds, d.Fits) :
    (Json.array (ds.map Diagnostic.toJson)).Plain := by
  apply Plain.array
  intro j hj
  obtain ⟨d, hd, rfl⟩ := List.mem_map.1 hj
  exact (h d hd).plain_toJson

theorem list_map_toJson {ds : List Diagnostic} (h : ∀ d ∈ ds, d.Fits) (n : Nat) :
    Decoder.list Diagnostic.decoder (n + 2) (.array (ds.map Diagnostic.toJson)) = some ds :=
  list_map (n + 1) fun d hd => (h d hd).decoder_toJson n

theorem Fits.plain_toJson {r : Report} (h : r.Fits) : r.toJson.Plain := by
  have herrors := plain_map_toJson fun d hd => h d (List.mem_append_left r.warnings hd)
  have hwarnings := plain_map_toJson fun d hd => h d (List.mem_append_right r.errors hd)
  apply Plain.object
  intro m hm
  simp only [List.mem_cons, List.not_mem_nil, or_false] at hm
  obtain rfl | rfl | rfl | rfl | rfl := hm
  · exact .bool r.success
  · exact herrors
  · exact hwarnings
  · exact .string r.stdout
  · exact .string r.stderr

/-- A report is decoded from its object. -/
theorem Fits.decoder_toJson {r : Report} (h : r.Fits) (n : Nat) :
    decoder (n + 3) r.toJson = some r := by
  have herrors := list_map_toJson (fun d hd => h d (List.mem_append_left r.warnings hd)) n
  have hwarnings := list_map_toJson (fun d hd => h d (List.mem_append_right r.errors hd)) n
  rw [decoder, toJson, record_object (n + 2) (by simp)]
  simp [field, List.lookup_cons, Slot.required, herrors, hwarnings, Decoder.text, Decoder.flag]

/-- The text of a report is decoded as the report. -/
theorem Fits.decode?_pretty {r : Report} (h : r.Fits) {blanks : String}
    (hblanks : ∀ c ∈ blanks.toList, isSpace c = true) :
    decode? decoder (r.pretty ++ blanks) = some r :=
  Json.decode?_pretty h.plain_toJson (h.decoder_toJson 124) hblanks

/-- The text of the diagnostics on a line is decoded as these diagnostics. -/
theorem Fits.decode?_prettyAtLine {r : Report} (h : r.Fits) (line : Nat) {blanks : String}
    (hblanks : ∀ c ∈ blanks.toList, isSpace c = true) :
    decode? (.list Diagnostic.decoder) (r.prettyAtLine line ++ blanks) = some (r.atLine line) := by
  have hline : ∀ d ∈ r.atLine line, d.Fits := fun d hd => h d (List.mem_filter.1 hd).1
  exact Json.decode?_pretty (plain_map_toJson hline) (list_map_toJson hline 125) hblanks

end Report

namespace Command

/-- What is printed of a report as JSON is decoded as the report, and with a line, as the errors and
then the warnings on that line. -/
theorem decode?_reported {a : Arguments} {r : Report} (hjson : a.json = true) (h : r.Fits) :
    (a.line = none → decode? Report.decoder (reported a r).stdout = some r) ∧
      ∀ line, a.line = some line →
        decode? (.list Diagnostic.decoder) (reported a r).stdout =
          some (r.errors.filter (·.line == some line) ++
            r.warnings.filter (·.line == some line)) := by
  have hend : ∀ c ∈ "\n".toList, isSpace c = true := by simp [isSpace]
  refine ⟨fun hline => ?_, fun line hline => ?_⟩
  · simp only [reported, display, hjson, hline]
    exact h.decode?_pretty hend
  · simp only [reported, display, hjson, hline]
    rw [h.decode?_prettyAtLine line hend, Report.atLine, Report.diagnostics, List.filter_append]

/-- A failed report whose texts hold what JSON escapes and what it does not. -/
def thorny : Report where
  errors := [
    { level := .error, message := "\"\\/\x08\t\n\x0c\r\x00\x1f\x7f", code := some ""
      file := some "\\u0041.rs", line := some 18446744073709551615, column := some 0 },
    { level := .warning, message := "", line := some 7, suggestion := some "\u2028" }]
  warnings := [
    { level := .warning, message := "😀", line := some 18446744073709551615
      suggestion := some "null" }]
  stdout := "[1,\n"
  stderr := "\"\""

theorem decode?_reported_thorny :
    thorny.Fits ∧
      decode? Report.decoder (reported { json := true } thorny).stdout = some thorny ∧
      decode? (.list Diagnostic.decoder)
          (reported { json := true, line := some 18446744073709551615 } thorny).stdout =
        some (thorny.errors.take 1 ++ thorny.warnings) := by
  have hfits : thorny.Fits := by
    intro d hd
    simp only [Report.diagnostics, thorny, List.cons_append, List.nil_append, List.mem_cons,
      List.not_mem_nil, or_false] at hd
    obtain rfl | rfl | rfl := hd
    · exact ⟨by rintro n ⟨⟩; decide, by rintro n ⟨⟩; decide⟩
    · exact ⟨by rintro n ⟨⟩; decide, by rintro n ⟨⟩⟩
    · exact ⟨by rintro n ⟨⟩; decide, by rintro n ⟨⟩⟩
  refine ⟨hfits, (decode?_reported rfl hfits).1 rfl, ?_⟩
  rw [(decode?_reported rfl hfits).2 _ rfl]
  rfl

end Command

end SnippetCheck
