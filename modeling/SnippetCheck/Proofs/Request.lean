import SnippetCheck.Proofs.Json.Decoder
import SnippetCheck.Request

/-! Requests read back from the text that is sent of them, whatever the snippet holds. -/

namespace SnippetCheck

open Json

theorem Json.plain_map {f : α → Json} {as : List α} (h : ∀ a ∈ as, (f a).Plain) :
    (Json.array (as.map f)).Plain := by
  apply Plain.array
  intro j hj
  obtain ⟨a, ha, rfl⟩ := List.mem_map.1 hj
  exact h a ha

namespace Dependency

theorem plain_toJson (d : Dependency) : d.toJson.Plain := by
  apply Plain.object
  intro m hm
  simp only [List.mem_cons, List.not_mem_nil, or_false] at hm
  obtain rfl | rfl := hm
  · exact .string d.name
  · exact .string d.version

theorem decoder_toJson (d : Dependency) (n : Nat) : decoder (n + 1) d.toJson = some d := by
  rw [decoder, toJson, record_object n (by simp)]
  rfl

end Dependency

namespace CheckRequest

theorem plain_toJson (r : CheckRequest) : r.toJson.Plain := by
  apply Plain.object
  intro m hm
  simp only [List.mem_cons, List.not_mem_nil, or_false] at hm
  obtain rfl | rfl | rfl := hm
  · exact .string r.code
  · exact plain_map fun d _ => d.plain_toJson
  · exact .bool r.quickCheck

theorem decoder_toJson (r : CheckRequest) (n : Nat) : decoder (n + 3) r.toJson = some r := by
  have hlist : Decoder.list Dependency.decoder (n + 2) (.array (r.dependencies.map (·.toJson))) =
      some r.dependencies :=
    list_map (n + 1) fun d _ => d.decoder_toJson n
  rw [decoder, toJson, record_object (n + 2) (by simp)]
  simp [field, List.lookup_cons, Slot.required, Slot.orElse, hlist, Decoder.text, Decoder.flag]

theorem decode?_content (r : CheckRequest) :
    decode? decoder (String.ofList r.toJson.compact) = some r :=
  decode?_compact r.plain_toJson (r.decoder_toJson 124)

end CheckRequest

namespace ExecuteRequest

theorem plain_toJson (r : ExecuteRequest) : r.toJson.Plain := by
  apply Plain.object
  intro m hm
  simp only [List.mem_cons, List.not_mem_nil, or_false] at hm
  obtain rfl | rfl | rfl | rfl | rfl | rfl | rfl := hm
  · exact .string r.channel
  · exact .string r.mode
  · exact .string r.edition
  · exact .string r.crateType
  · exact .bool r.tests
  · exact .string r.code
  · exact .bool r.backtrace

theorem decoder_toJson (r : ExecuteRequest) (n : Nat) : decoder (n + 1) r.toJson = some r := by
  rw [decoder, toJson, record_object n (by simp)]
  simp [field, List.lookup_cons, Slot.required, Decoder.text, Decoder.flag]

theorem decode?_content (r : ExecuteRequest) :
    decode? decoder (String.ofList r.toJson.compact) = some r :=
  decode?_compact r.plain_toJson (r.decoder_toJson 126)

end ExecuteRequest

/-! ### Programs and libraries -/

/-- A part that a text holds somewhere stands between two other parts of it. -/
theorem Text.contains_iff_infix {part s : List Char} :
    Text.contains part s = true ↔ part <:+: s := by
  induction s with
  | nil => cases part <;> simp [contains]
  | cons c s ih =>
    rw [contains, Bool.or_eq_true, isSome_after?_iff, ih, List.infix_cons_iff]

theorem isProgram_iff {code : String} :
    isProgram code = true ↔ "fn main".toList <:+: code.toList :=
  Text.contains_iff_infix

end SnippetCheck
