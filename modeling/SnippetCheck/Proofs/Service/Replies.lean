import SnippetCheck.Http.Client
import SnippetCheck.Proofs.Http
import SnippetCheck.Proofs.Json.RoundTrip
import SnippetCheck.Proofs.Reply
import SnippetCheck.Proofs.Service.Check

/-! How a service takes the answers of its primary. It looks past what is merely written in another
way, and an answer that lacks something that it needs, or says something else than it should, is as
good as none: the check falls back, and the primary counts as unavailable. -/

namespace SnippetCheck

open Json

/-- A number is spelled by its literal. -/
theorem Json.spells_literal {literal : List Char} {value : Option Number}
    (h : number? literal = some (value, [])) : Spells (Token.scan literal) (ofNumber? value) := by
  cases literal with
  | nil => cases h
  | cons c s =>
    have hhead := head_of_number? h
    have hscan : Token.scan (c :: s) = [.number value] := by
      rw [Token.scan_of_first (isSpace_of_isDigit hhead) (Token.first_number hhead h)]
      exact congrArg _ (Token.scan_blanks (List.forall_mem_nil _))
    rw [hscan]
    exact .number value

/-- What a check over HTTP is answered is what the response to it means. -/
theorem Backends.check_overHttp {c : Config} {t : Http.Transport} {request : CheckRequest}
    {response : Http.Response}
    (h : t.send c.requestTimeoutSecs ((Call.check request).request c) = .ok response) :
    (overHttp c t).check request = response.read CheckReply.decoder :=
  Http.ask_of_send_eq_ok h

/-- What is seen of an answer does not change when the order of its members does, or that of its
report's or of a diagnostic's, when other members come or go there, when what is missing is given as
`null`, when a diagnostic says another level of itself, and when white space goes in between
tokens. An answer without a report, with a field given twice, or with a value that a field cannot
take, is malformed, and the check falls back. A number can be taken for a line or a column exactly
if it is written in digits only and has at most 64 bits. -/
theorem replies_read_tolerantly :
    (∀ text text' r, Relation.EqvGen CheckReply.Restyled text text' →
      decode? CheckReply.decoder text = some r →
      ∃ r', decode? CheckReply.decoder text' = some r' ∧
        r'.result.complete = r.result.complete ∧ r'.rustAvailable = r.rustAvailable) ∧
    (∀ text j, Spells (Token.scan text.toList) j → CheckReply.Refused j →
      decode? CheckReply.decoder text = none ∧
      ∀ (s : Service) (c : Config) t source options response,
        let b := Backends.overHttp c t
        let request := CheckRequest.ofOptions s.config source options
        let after := s.fallBack b source Failure.notJson.message
        s.availability.worthTrying = true →
        t.send c.requestTimeoutSecs ((Call.check request).request c) = .ok response →
        Http.isSuccess response.status = true → response.text = .ok text →
        b.check request = .error .notJson ∧
          s.check b source options = (after.1, s.record false, .check request :: after.2)) ∧
    ∀ literal value, number? literal = some (value, []) →
      Spells (Token.scan literal) (ofNumber? value) ∧
      (Kind.word.takes (ofNumber? value) = true ↔
        literal.all Char.isDigit = true ∧ Numeral.ofDigits literal ≤ Numeral.wordMax) := by
  refine ⟨?_, ?_, ?_⟩
  · intro text text' r hstyle hr
    obtain ⟨r', hr', hseen⟩ := CheckReply.exists_decode?_of_eqvGen hstyle hr
    obtain ⟨hreport, hflag⟩ := Prod.mk.inj hseen
    exact ⟨r', hr', hreport, hflag⟩
  · intro text j hj hrefused
    have hnone := CheckReply.decode?_eq_none hj hrefused
    refine ⟨hnone, ?_⟩
    intro s c t source options response b request after hw hsend hstatus htext
    have herror : b.check request = .error .notJson := by
      rw [Backends.check_overHttp hsend, Http.read_of_text_eq_ok hstatus htext, hnone]
      rfl
    exact ⟨herror, Service.check_of_check_error hw herror⟩
  · intro literal value hliteral
    exact ⟨spells_literal hliteral, takes_word_iff hliteral⟩

/-- An answer whose report has one warning, with a level and a line of its own. -/
def CheckReply.warned (level : String) (line : Number) (members : List (String × Json)) : Json :=
  .object <| ("result", .object [("success", .bool true),
    ("warnings", .array [.object [("level", .string level), ("line", .number line)]])]) :: members

theorem CheckReply.spells_warned (level : String) {line : Number} (hline : line.InRange)
    {members : List (String × Json)} (h : ∀ m ∈ members, m.2.Plain) :
    Spells (Token.scan (warned level line members).compact) (warned level line members) := by
  apply read?_eq_some_iff.1
  apply read?_compact
  refine .object (List.forall_mem_cons.2 ⟨.object ?_, h⟩)
  refine List.forall_mem_cons.2 ⟨.bool true, List.forall_mem_singleton.2 (.array ?_)⟩
  refine List.forall_mem_singleton.2 (.object ?_)
  exact List.forall_mem_cons.2 ⟨.string level, List.forall_mem_singleton.2 (.number hline)⟩

/-- Another level, a member that nobody asked for, twice, and a flag that is `null`. -/
theorem CheckReply.eqvGen_altered_warned (line : Number) :
    Relation.EqvGen Altered (warned "warning" line [])
      (warned "help" line [("id", .null), ("id", .array []), ("rust_available", .null)]) := by
  have hlevel : Altered (warned "warning" line []) (warned "help" line []) :=
    @Json.Altered.inner _ _ _ [] [] "result" _ _ ⟨rfl,
      @Json.Altered.inner _ _ _ [("success", .bool true)] [] "warnings" _ _ ⟨.inr rfl,
        @ItemAltered.mk _ [] [] _ _ <|
          @Json.Altered.inner _ _ _ [] [("line", .number line)] "level" _ _
            ⟨rfl, "warning", "help", rfl, rfl⟩⟩⟩
  have hflag : Altered (warned "help" line [])
      (warned "help" line [("rust_available", .null)]) :=
    @Json.Altered.null _ _ _ [_] [] "rust_available" (by simp) (by simp)
  have hid (v : Json) (members : List (String × Json)) :
      Altered (warned "help" line members) (warned "help" line (("id", v) :: members)) :=
    @Json.Altered.insert _ _ _ [_] members "id" v (by decide)
  have hplain := (Relation.EqvGen.rel _ _ hlevel).trans _ _ _ (.rel _ _ hflag)
  exact (hplain.trans _ _ _ (.rel _ _ (hid (.array []) _))).trans _ _ _ (.rel _ _ (hid .null _))

theorem CheckReply.refused_warned (level : String) (k : Nat) (members : List (String × Json)) :
    Refused (warned level (.negative k) members) := by
  let d : Json := .object [("level", .string level), ("line", .number (.negative k))]
  have hfaulty : Faulty PartialDiagnostic.kinds d :=
    @Faulty.kind _ _ _ "line" .word (by decide) (.member (.tail _ (.head _))) nofun rfl
  have hreport :
      PartialReport.Refused (.object [("success", .bool true), ("warnings", .array [d])]) :=
    .diagnostic (.inr rfl) (.member (.tail _ (.head _))) (.head _) (.inr hfaulty)
  exact .report (.member (.head _)) hreport

/-- An answer with another level for its warning, a member that nobody asked for, twice, a flag that
is `null`, and white space is seen as the plain one. With a negative line it is refused, and an
exponent would make no line either. -/
theorem replies_read_tolerantly_warned :
    let text := (CheckReply.warned "warning" (.natural 3) []).compact
    let text' := ' ' :: (CheckReply.warned "help" (.natural 3)
      [("id", .null), ("id", .array []), ("rust_available", .null)]).compact
    let r : CheckReply := {
      result := { success := some true
                  warnings := some [{ level := some "warning", line := some 3 }] } }
    let c : Config := {}
    let body := Text.Utf8.encode (CheckReply.warned "warning" (.negative 3) []).compact
    let t : Http.Transport := .through fun _ r => .answered { status := 200, url := r.url, body }
    let b := Backends.overHttp c t
    let s := Service.new c "first" none
    decode? CheckReply.decoder (String.ofList text) = some r ∧
      (∃ r', decode? CheckReply.decoder (String.ofList text') = some r' ∧
        r'.result.complete = r.result.complete ∧ r'.rustAvailable = none) ∧
      s.check b "" {} = (.error (Service.noService Failure.notJson.message "disabled"),
        s.record false, [.check (.ofOptions c "" {})]) ∧
      number? ['3', 'e', '0'] = some (some (.real false 3 0), []) ∧
      Kind.word.takes (ofNumber? (some (.real false 3 0))) = false := by
  intro text text' r c body t b s
  obtain ⟨htolerant, hrefuse, hword⟩ := replies_read_tolerantly
  have hr : decode? CheckReply.decoder (String.ofList text) = some r := by decide +kernel
  refine ⟨hr, ?_, ?_, ?_⟩
  · have hline : (Number.natural 3).InRange := show 3 ≤ Numeral.wordMax by decide
    have hplain : ∀ m ∈ [("id", Json.null), ("id", .array []), ("rust_available", .null)],
        m.2.Plain := by
      intro m hm
      simp only [List.mem_cons, List.not_mem_nil, or_false] at hm
      rcases hm with rfl | rfl | rfl
      · exact .null
      · exact .array (List.forall_mem_nil _)
      · exact .null
    have haltered : CheckReply.Restyled (String.ofList text) (String.ofList text'.tail) := by
      refine .altered ?_ ?_ (CheckReply.eqvGen_altered_warned (.natural 3))
      · rw [String.toList_ofList]
        exact CheckReply.spells_warned "warning" hline (List.forall_mem_nil _)
      · rw [String.toList_ofList]
        exact CheckReply.spells_warned "help" hline hplain
    have hspread : CheckReply.Restyled (String.ofList text'.tail) (String.ofList text') := by
      refine .spread ?_
      rw [String.toList_ofList, String.toList_ofList]
      exact .insert rfl (.refl (by decide +kernel))
    exact htolerant _ _ r (.trans _ _ _ (.rel _ _ haltered) (.rel _ _ hspread)) hr
  · have hline : (Number.negative 3).InRange :=
      show 1 ≤ 3 ∧ 3 ≤ 0x8000000000000000 by decide
    have hspells := CheckReply.spells_warned "warning" hline (List.forall_mem_nil _)
    let a : Http.Answer := { status := 200, url := "http://127.0.0.1:3030/check", body }
    have haddress : Http.address? (c.baseUrl ++ "/check") =
        some ⟨"http", "http://127.0.0.1:3030/check"⟩ := by decide +kernel
    have hsend : t.send c.requestTimeoutSecs ((Call.check (.ofOptions s.config "" {})).request c) =
        .ok a.response := by
      simp only [t, Http.Transport.through, Call.request, haddress]
      rfl
    have htext : a.response.text =
        .ok (String.ofList (CheckReply.warned "warning" (.negative 3) []).compact) :=
      congrArg Except.ok (Http.ofMarked_object _)
    have hstatus : Http.isSuccess a.response.status = true :=
      show Http.isSuccess 200 = true from rfl
    obtain ⟨-, hservice⟩ := hrefuse _ _ (by rw [String.toList_ofList]; exact hspells)
      (CheckReply.refused_warned "warning" 3 [])
    exact (hservice s c t "" {} a.response rfl hsend hstatus htext).2
  · have hliteral : number? ['3', 'e', '0'] = some (some (.real false 3 0), []) := by
      decide +kernel
    refine ⟨hliteral, Bool.eq_false_iff.2 fun htakes => ?_⟩
    exact absurd ((hword _ _ hliteral).2.1 htakes).1 (by decide)

end SnippetCheck
