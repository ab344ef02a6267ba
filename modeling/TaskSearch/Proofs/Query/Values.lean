import TaskSearch.Proofs.Query.Spelling
import TaskSearch.Proofs.Query.Streaming

set_option autoImplicit false

namespace TaskSearch

open Lexer (isWordChar Spans Tiles spell)
open Grammar (IsValue Derives)

namespace Lexer

theorem word_end (word : List Char) (inside : ∀ c ∈ word, isWordChar c = true) :
    word.getLast? ≠ some '\\' := by
  intro ended
  have slash := inside '\\' (List.mem_of_getLast? ended)
  exact absurd slash (by decide)

theorem span_value_end (token : Token) (piece after : List Char) (value : String)
    (spans : Spans token piece after) (isValue : IsValue token value) :
    value.toList.getLast? ≠ some '\\' := by
  cases isValue with
  | field field =>
      obtain ⟨c, rest, chars, -, -, inside⟩ := field_begins field
      exact chars ▸ word_end (c :: rest) inside
  | number =>
      cases spans with
      | mark listed => simp [marks] at listed
      | word inside ended whole classified =>
          cases classified
          rw [String.toList_ofList]
          exact word_end _ inside
  | value =>
      cases spans with
      | mark listed => simp [marks] at listed
      | quoted opens closed =>
          rw [String.toList_ofList]
          exact quoted_value_end _ _ _ (quote_not_slash _ opens) closed
      | word inside ended whole classified =>
          cases classified
          rw [String.toList_ofList]
          exact word_end _ inside

theorem next_spans (cursor : Cursor) (lexeme : Lexeme) (read : cursor.next.1 = .ok lexeme) :
    lexeme.token = .endOfInput ∨ ∃ piece after, Spans lexeme.token piece after := by
  cases here : cursor.skipBlanks.rest with
  | nil =>
      rw [next_end cursor here] at read
      cases read
      exact .inl rfl
  | cons c rest =>
      cases scanned : scan c rest with
      | token token width =>
          rw [next_token cursor c rest here token width scanned] at read
          cases read
          obtain ⟨span, after, -, spans, -⟩ := scan_sound c rest token width scanned
          exact .inr ⟨c :: span, after, spans⟩
      | unexpected character =>
          rw [next_unexpected cursor c rest here character scanned] at read
          cases read
      | unterminated quote =>
          rw [next_unterminated cursor c rest here quote scanned] at read
          cases read

theorem results_spans (cursor : Cursor) (calls : Nat) (lexeme : Lexeme)
    (among : .ok lexeme ∈ cursor.results calls) :
    lexeme.token = .endOfInput ∨ ∃ piece after, Spans lexeme.token piece after := by
  induction calls generalizing cursor with
  | zero => cases among
  | succ calls ih =>
      rw [Cursor.results] at among
      rcases List.mem_cons.mp among with first | later
      · exact next_spans cursor lexeme first.symm
      · exact ih cursor.next.2 later

theorem result_value_end (cursor : Cursor) (calls : Nat) (lexeme : Lexeme)
    (among : .ok lexeme ∈ cursor.results calls) (value : String)
    (isValue : IsValue lexeme.token value) : value.toList.getLast? ≠ some '\\' := by
  rcases results_spans cursor calls lexeme among with ends | ⟨piece, after, spans⟩
  · rw [ends] at isValue
    cases isValue
  · exact span_value_end lexeme.token piece after value spans isValue

end Lexer

namespace Grammar

open TaskSearch.Parser (parseUpTo)

theorem cut_within (lexemes : List Lexeme) (segments : List Segment) (cut : Cut lexemes segments)
    (segment : Segment) (among : segment ∈ segments) : segment.lexemes ⊆ lexemes := by
  intro lexeme member
  rw [cut_lexemes lexemes segments cut]
  exact List.mem_flatMap.mpr ⟨segment, among, member⟩

theorem cut_fits (lexemes : List Lexeme) (segments : List Segment) (cut : Cut lexemes segments)
    (segment : Segment) (among : segment ∈ segments) : ∃ after, Fits segment after := by
  induction cut with
  | done => cases among
  | next fits rest ih =>
      rcases List.mem_cons.mp among with rfl | later
      · exact ⟨_, fits⟩
      · exact ih later

theorem parsed_words (stop : Nat) (lexemes : List Lexeme) (word : String)
    (parsed : word ∈ (parseUpTo stop lexemes).freeText) :
    ∃ lexeme ∈ lexemes, IsValue lexeme.token word := by
  obtain ⟨segments, cut, -, -, words⟩ := parse_up_to_accounts stop lexemes
  rw [words] at parsed
  obtain ⟨segment, among, wrote⟩ := List.mem_filterMap.mp parsed
  have within := cut_within lexemes segments cut segment among
  obtain ⟨after, fits⟩ := cut_fits lexemes segments cut segment among
  cases fits with
  | word written =>
      cases wrote
      rename_i lexeme
      refine ⟨lexeme, within (List.mem_singleton_self lexeme), ?_⟩
      rcases written with written | written
      · exact written ▸ .value word
      · exact written ▸ .number word
  | clause | failed | stray => cases wrote

theorem parsed_values (stop : Nat) (lexemes : List Lexeme) (clause : Clause)
    (parsed : clause ∈ (parseUpTo stop lexemes).clauses) :
    ∃ lexeme ∈ lexemes, IsValue lexeme.token clause.value := by
  obtain ⟨segments, cut, clauses, -, -⟩ := parse_up_to_accounts stop lexemes
  rw [clauses] at parsed
  obtain ⟨segment, among, wrote⟩ := List.mem_filterMap.mp parsed
  have within := cut_within lexemes segments cut segment among
  obtain ⟨after, fits⟩ := cut_fits lexemes segments cut segment among
  cases fits with
  | clause derives =>
      cases wrote
      obtain ⟨begun, token, place, rfl, value, -⟩ := derives_leads _ clause derives
      exact ⟨⟨token, place⟩, within (by simp [Segment.lexemes]), value⟩
  | failed | word | stray => cases wrote

end Grammar

namespace Query

theorem parsed_value_end (text : String) (lexemes : List Lexeme)
    (read : tokenize text = .ok lexemes) (lexeme : Lexeme) (among : lexeme ∈ Parser.body lexemes)
    (value : String) (isValue : IsValue lexeme.token value) :
    value.toList.getLast? ≠ some '\\' := by
  have front : Parser.body lexemes <+: lexemes := List.takeWhile_prefix _
  have called : .ok lexeme ∈ (Lexer.Cursor.start text).results (lexemes.length + 0) := by
    rw [Lexer.calls_tokenized text lexemes read]
    simpa using front.subset among
  exact Lexer.result_value_end (.start text) _ lexeme called value isValue

section

variable (value : String) (quote : Char) (opens : quote = '"' ∨ quote = '\'')
  (ended : value.toList.getLast? ≠ some '\\')

include opens ended

theorem quoted_spans (after : List Char) :
    Spans (.value value) (Lexer.quoteWith quote value.toList) after := by
  have closed := Lexer.quoted_escape quote value.toList (Lexer.quote_not_slash quote opens) ended
  have spans : Spans _ (Lexer.quoteWith quote value.toList) after := .quoted opens closed
  rwa [String.ofList_toList] at spans

theorem parse_quoted (begun : List Token) (clause : Clause)
    (spelled : ∀ after, Lexer.Spelled begun after)
    (derives : ∀ place, Derives (Lexer.row 0 begun ++ [⟨.value value, place⟩]) clause)
    (text : String) (written : text.toList = spell begun ++ Lexer.quoteWith quote value.toList) :
    parse text = .ok { clauses := [clause] } := by
  rw [← String.ofList_toList (s := text), written]
  have spans := quoted_spans value quote opens ended []
  exact Grammar.parse_begun begun clause _ _ (spelled _) spans derives

end

theorem values_end_unescaped :
    (∀ (text : String) (calls position : Nat) (value : String),
      .ok ⟨.value value, position⟩ ∈ (Lexer.Cursor.start text).results calls →
        value.toList.getLast? ≠ some '\\') ∧
    (∀ (text : String) (query : Query), parse text = .ok query →
      (∀ clause ∈ query.clauses, clause.value.toList.getLast? ≠ some '\\') ∧
        ∀ word ∈ query.freeText, word.toList.getLast? ≠ some '\\') ∧
    ∀ value : String, value.toList.getLast? ≠ some '\\' →
      ∀ quote : Char, quote = '"' ∨ quote = '\'' →
        let written := String.ofList (Lexer.quoteWith quote value.toList)
        (∀ (field : Field) (operator : Operator),
          parse (field.name ++ operator.text ++ written) =
            .ok { clauses := [{ field, operator, value }] }) ∧
        (∀ fuzzy : Bool, parse ((if fuzzy then "@~" else "@") ++ written) =
          .ok { clauses := [.mention value fuzzy] }) ∧
        ∀ field : Field, parse ("-" ++ field.name ++ ":" ++ written) =
          .ok { clauses := [.excluding field value] } := by
  refine ⟨?_, ?_, ?_⟩
  · intro text calls position value among
    exact Lexer.result_value_end (.start text) calls _ among value (.value value)
  · intro text query parsed
    obtain ⟨lexemes, read, rfl⟩ := (Parser.parse_ok_iff text query).mp parsed
    refine ⟨fun clause member => ?_, fun word member => ?_⟩
    · obtain ⟨lexeme, among, isValue⟩ := Grammar.parsed_values _ _ clause member
      exact parsed_value_end text lexemes read lexeme among _ isValue
    · obtain ⟨lexeme, among, isValue⟩ := Grammar.parsed_words _ _ word member
      exact parsed_value_end text lexemes read lexeme among _ isValue
  · intro value ended quote opens written
    refine ⟨fun field operator => ?_, fun fuzzy => ?_, fun field => ?_⟩
    · refine parse_quoted value quote opens ended (.field field :: operator.tokens) _
        (Lexer.comparison_spelled field operator)
        (fun place => Grammar.comparison_derives field operator value _ 0 place (.value value)) _ ?_
      cases operator <;> simp [written, spell, Token.text, Operator.tokens, Operator.text]
    · cases fuzzy with
      | false =>
          refine parse_quoted value quote opens ended [.atSign] _
            (fun after => Lexer.marks_spelled _ after (by decide))
            (fun place => .mention 0 place .absent (.value value)) _ ?_
          simp [written, spell, Token.text]
      | true =>
          refine parse_quoted value quote opens ended [.atSign, .tilde] _
            (fun after => Lexer.marks_spelled _ after (by decide))
            (fun place => .mention 0 place (.present _) (.value value)) _ ?_
          simp [written, spell, Token.text]
    · refine parse_quoted value quote opens ended [.minus, .field field, .colon] _ ?_
        (fun place => .negated _ _ _ place (.value value)) _ ?_
      · intro after
        have spelled := Lexer.lead_spelled (.excluding field value) after
        rwa [Grammar.lead_excluding] at spelled
      · simp [written, spell, Token.text]

theorem backslash_before_quote :
    let value := "\\'"
    let written := String.ofList (Lexer.quoteWith '\'' value.toList)
    written = "'\\\\''" ∧ value.toList.getLast? ≠ some '\\' ∧
    .ok ⟨.value value, 0⟩ ∈ (Lexer.Cursor.start written).results 1 ∧
    parse (Field.due.name ++ Operator.lessEqual.text ++ written) =
      .ok { clauses := [{ field := .due, operator := .lessEqual, value }] } ∧
    parse ("@" ++ written) = .ok { clauses := [.mention value false] } ∧
    parse ("-" ++ Field.tag.name ++ ":" ++ written) =
      .ok { clauses := [.excluding .tag value] } ∧
    parse "NOT 'due'" = .ok { freeText := ["due"] } ∧ "due".toList.getLast? ≠ some '\\' := by
  intro value written
  obtain ⟨lexed, parsed, quoted⟩ := values_end_unescaped
  have spelled : written = "'\\\\''" := by decide
  have read : .ok ⟨.value value, 0⟩ ∈ (Lexer.Cursor.start written).results 1 := by
    rw [spelled]
    have call : (Lexer.Cursor.start "'\\\\''").results 1 = [.ok ⟨.value "\\'", 0⟩] := by decide
    simp [call, value]
  have words : parse "NOT 'due'" = .ok { freeText := ["due"] } := by decide +kernel
  have ended := lexed written 1 0 value read
  obtain ⟨compared, mentioned, excluded⟩ := quoted value ended '\'' (.inr rfl)
  exact ⟨spelled, ended, read, compared .due .lessEqual, mentioned false, excluded .tag, words,
    (parsed _ _ words).2 "due" (by simp)⟩

end Query

end TaskSearch
