import TaskSearch.Interpretation
import TaskSearch.Proofs.Query.Juxtaposition

set_option autoImplicit false

namespace TaskSearch

theorem marks_iff (tokens : List Token) :
    anyPairMarksQuery tokens = true ↔
      ∃ first second, [first, second] <:+: tokens ∧ marksQuery first second = true := by
  induction tokens with
  | nil => simp [anyPairMarksQuery]
  | cons token rest ih =>
      cases rest with
      | nil => simp [anyPairMarksQuery, List.infix_cons_iff]
      | cons next behind =>
          rw [anyPairMarksQuery, Bool.or_eq_true, ih]
          constructor
          · rintro (marks | ⟨first, second, within, marks⟩)
            · exact ⟨token, next, ⟨[], behind, rfl⟩, marks⟩
            · exact ⟨first, second, List.infix_cons within, marks⟩
          · rintro ⟨first, second, within, marks⟩
            rcases List.infix_cons_iff.mp within with front | later
            · obtain ⟨left, same⟩ := front
              cases same
              exact .inl marks
            · exact .inr ⟨first, second, later, marks⟩

theorem marks_within (part whole : List Token) (within : part <:+: whole)
    (marked : anyPairMarksQuery part = true) : anyPairMarksQuery whole = true := by
  obtain ⟨first, second, inside, marks⟩ := (marks_iff part).mp marked
  exact (marks_iff whole).mpr ⟨first, second, inside.trans within, marks⟩

theorem mark_begins (first second : Token) (marks : marksQuery first second = true) :
    Parser.beginsClause first = true := by
  cases first with
  | field | minus => rfl
  | _ => cases marks

namespace Grammar

open TaskSearch.Parser (parseUpTo beginsClause)

theorem derives_marks (part : List Lexeme) (clause : Clause) (derives : Derives part clause) :
    (∃ name fuzzy, clause = .mention name fuzzy) ∨
      anyPairMarksQuery (part.map (·.token)) = true := by
  cases derives with
  | mention p q mark value => exact .inl ⟨_, _, rfl⟩
  | negated p q r s value => exact .inr rfl
  | comparison p q mark spelled meant value =>
      right
      cases mark with
      | present => rfl
      | absent =>
          cases spelled with
          | absent => cases meant
          | _ => rfl

theorem parsed_derives (stop : Nat) (lexemes : List Lexeme) (clause : Clause)
    (parsed : clause ∈ (parseUpTo stop lexemes).clauses) :
    ∃ part, part <:+: lexemes ∧ Derives part clause := by
  fun_induction parseUpTo stop lexemes with
  | case1 => cases parsed
  | case2 lexeme rest found left read ih =>
      obtain ⟨whole, split, derives⟩ := clause_fits lexeme rest left found read
      rcases List.mem_cons.mp parsed with rfl | later
      · exact ⟨whole, ⟨[], left, split.symm⟩, derives⟩
      · obtain ⟨part, within, derives⟩ := ih later
        exact ⟨part, within.trans ⟨whole, [], by rw [split, List.append_nil]⟩, derives⟩
  | case3 lexeme rest fault left read ih =>
      obtain ⟨part, within, derives⟩ := ih parsed
      have kept : Parser.synchronize left <:+ left := List.dropWhile_suffix _
      have behind := (kept.trans (Parser.read_clause_suffix _ _ _ _ read)).isInfix
      exact ⟨part, (within.trans behind).trans (List.suffix_cons lexeme rest).isInfix, derives⟩
  | case4 lexeme rest none word written ih | case5 lexeme rest none word written ih
  | case6 lexeme rest none noWord noNumber ih =>
      obtain ⟨part, within, derives⟩ := ih parsed
      exact ⟨part, List.infix_cons within, derives⟩

theorem parsed_nothing (stop : Nat) (lexemes : List Lexeme)
    (noClause : (parseUpTo stop lexemes).clauses = [])
    (noError : (parseUpTo stop lexemes).errors = []) :
    ∀ lexeme ∈ lexemes, beginsClause lexeme.token = false := by
  fun_induction parseUpTo stop lexemes with
  | case1 => simp
  | case2 lexeme rest clause left read ih => exact absurd noClause (List.cons_ne_nil _ _)
  | case3 lexeme rest fault left read ih => exact absurd noError (List.cons_ne_nil _ _)
  | case4 lexeme rest none word written ih | case5 lexeme rest none word written ih
  | case6 lexeme rest none noWord noNumber ih =>
      have begins := begins_of_read lexeme.token rest
      rw [none] at begins
      exact List.forall_mem_cons.mpr ⟨begins.symm, ih noClause noError⟩

end Grammar

namespace Lexer

theorem read_all_front (cursor : Cursor) (more : List Char)
    (apart : ∀ c ∈ more.head?, Text.isBlank c = true) :
    (readAll cursor).1 <+: (readAll ⟨cursor.rest ++ more, cursor.position⟩).1 := by
  induction cursor using readAll.induct with
  | case1 cursor here done =>
      rw [read_all_end cursor done]
      exact List.nil_prefix
  | case2 cursor here c rest begins token width scanned lexemes ending later ih =>
      obtain ⟨blanks, split, blank, place⟩ := skip_splits cursor
      obtain ⟨span, after, rfl, spans, rfl⟩ := scan_sound c rest token width scanned
      have kept := spans_append token (c :: span) after more apart spans
      have passed : here.advance (span.length + 1) =
          ⟨after, cursor.position + blanks.length + (c :: span).length⟩ := by
        simp [Cursor.advance, here, begins, place]
      rw [passed] at ih later
      rw [read_all_token cursor c (span ++ after) token _ begins scanned, passed, split, begins,
        List.append_assoc, List.cons_append, List.append_assoc, ← List.cons_append,
        read_all_next cursor.position blanks (c :: span) (after ++ more) token blank kept, place]
      exact List.cons_prefix_cons.mpr ⟨rfl, ih⟩
  | case3 cursor here c rest begins character scanned =>
      rw [read_all_failed cursor c rest _ begins (congrArg _ scanned)]
      exact List.nil_prefix
  | case4 cursor here c rest begins quote scanned =>
      rw [read_all_failed cursor c rest _ begins (congrArg _ scanned)]
      exact List.nil_prefix

end Lexer

theorem looks_like_query_front (text more : String)
    (apart : ∀ c ∈ more.toList.head?, Text.isBlank c = true)
    (marked : looksLikeQuery text = true) : looksLikeQuery (text ++ more) = true := by
  have whole : Lexer.Cursor.start (text ++ more) =
      ⟨(Lexer.Cursor.start text).rest ++ more.toList, 0⟩ := by
    simp [Lexer.Cursor.start]
  obtain ⟨behind, front⟩ := Lexer.read_all_front (.start text) more.toList apart
  refine marks_within _ _ ⟨[], behind.map (·.token), ?_⟩ marked
  rw [List.nil_append, ← List.map_append, front, whole]
  rfl

theorem looks_like_query_tokens (text : String) (lexemes : List Lexeme)
    (read : tokenize text = .ok lexemes) :
    looksLikeQuery text = anyPairMarksQuery ((Parser.body lexemes).map (·.token)) := by
  have tiles := (Lexer.tokenize_iff text lexemes).mp read
  obtain ⟨tokens, last, rfl, whole⟩ := Lexer.tiles_read 0 text.toList lexemes tiles
  obtain ⟨others, same, inside⟩ := Lexer.tiles_end 0 text.toList _ tiles
  obtain ⟨rfl, _⟩ := List.append_inj' same rfl
  rw [looksLikeQuery, Lexer.Cursor.start, whole, Parser.body_ended tokens _ inside]

section

variable (text : String) (lexemes : List Lexeme) (read : tokenize text = .ok lexemes)

include read

theorem plain_derives (plain : looksLikeQuery text = false) (part : List Lexeme) (clause : Clause)
    (within : part <:+: Parser.body lexemes) (derives : Grammar.Derives part clause) :
    ∃ name fuzzy, clause = .mention name fuzzy := by
  rw [looks_like_query_tokens text lexemes read] at plain
  refine (Grammar.derives_marks part clause derives).resolve_right fun marked => ?_
  rw [marks_within _ _ (within.map _) marked] at plain
  cases plain

theorem marked_parsed (marked : looksLikeQuery text = true) :
    (Query.ofLexemes lexemes).clauses ≠ [] ∨ (Query.ofLexemes lexemes).errors ≠ [] := by
  rw [looks_like_query_tokens text lexemes read, marks_iff] at marked
  obtain ⟨first, second, within, marks⟩ := marked
  rw [← not_and_or]
  rintro ⟨noClause, noError⟩
  obtain ⟨lexeme, member, rfl⟩ := List.mem_map.mp (within.subset List.mem_cons_self)
  have outside := Grammar.parsed_nothing _ _ noClause noError lexeme member
  rw [mark_begins lexeme.token second marks] at outside
  cases outside

end

theorem interpret_fails_iff (converter : Converter) (text : String) (error : LexError) :
    converter.interpret text = .error error ↔
      looksLikeQuery text = true ∧ tokenize text = .error error := by
  unfold Converter.interpret Query.parse
  cases looksLikeQuery text with
  | false => simp
  | true => cases tokenize text <;> simp [Except.map]

theorem routing_hides_no_clause (text : String) :
    (∀ lexemes, tokenize text = .ok lexemes → looksLikeQuery text = false →
      (∃ query, Query.parse text = .ok query ∧
        ∀ clause ∈ query.clauses, ∃ name fuzzy, clause = .mention name fuzzy) ∧
      ∀ part clause, part <:+: Parser.body lexemes → Grammar.Derives part clause →
        ∃ name fuzzy, clause = .mention name fuzzy) ∧
    (∀ lexemes, tokenize text = .ok lexemes → looksLikeQuery text = true →
      ∃ query, Query.parse text = .ok query ∧ (query.clauses ≠ [] ∨ query.errors ≠ [])) ∧
    (looksLikeQuery text = true → ∀ blanks more : String,
      (∀ c ∈ blanks.toList, Text.isBlank c = true) → blanks ≠ "" →
        looksLikeQuery (text ++ blanks ++ more) = true) ∧
    ∀ (converter : Converter) (error : LexError), converter.interpret text = .error error ↔
      looksLikeQuery text = true ∧ tokenize text = .error error := by
  refine ⟨?_, ?_, ?_, fun converter error => interpret_fails_iff converter text error⟩
  · intro lexemes read plain
    have mentions := plain_derives text lexemes read plain
    refine ⟨⟨_, (Parser.parse_ok_iff text _).mpr ⟨lexemes, read, rfl⟩, ?_⟩, mentions⟩
    intro clause parsed
    obtain ⟨part, within, derives⟩ := Grammar.parsed_derives _ _ clause parsed
    exact mentions part clause within derives
  · intro lexemes read marked
    exact ⟨_, (Parser.parse_ok_iff text _).mpr ⟨lexemes, read, rfl⟩,
      marked_parsed text lexemes read marked⟩
  · intro marked blanks more blank apart
    rw [String.append_assoc]
    apply looks_like_query_front text (blanks ++ more) _ marked
    cases chars : blanks.toList with
    | nil => exact absurd (String.toList_eq_nil_iff.mp chars) apart
    | cons c rest =>
        simpa [String.toList_append, chars] using blank c (by simp [chars])

theorem field_mentioned_before_colon :
    looksLikeQuery "-5 status @~due" = false ∧
    (∃ query, Query.parse "-5 status @~due" = .ok query ∧
      ∀ clause ∈ query.clauses, ∃ name fuzzy, clause = .mention name fuzzy) ∧
    looksLikeQuery "@due:" = true ∧
    (∃ query, Query.parse "@due:" = .ok query ∧ (query.clauses ≠ [] ∨ query.errors ≠ [])) ∧
    looksLikeQuery ("@due:" ++ " " ++ "\"open") = true := by
  have read : tokenize "-5 status @~due" = .ok [⟨.value "-5", 0⟩, ⟨.field .status, 3⟩,
      ⟨.atSign, 10⟩, ⟨.tilde, 11⟩, ⟨.field .due, 12⟩, ⟨.endOfInput, 15⟩] := by decide +kernel
  have readMarked : tokenize "@due:" =
      .ok [⟨.atSign, 0⟩, ⟨.field .due, 1⟩, ⟨.colon, 4⟩, ⟨.endOfInput, 5⟩] := by decide +kernel
  have plain := (looks_like_query_tokens _ _ read).trans (by decide : _ = false)
  have marked := (looks_like_query_tokens _ _ readMarked).trans (by decide : _ = true)
  have blank : ∀ c ∈ " ".toList, Text.isBlank c = true := by
    simpa using (by decide : Text.isBlank ' ' = true)
  obtain ⟨_, parsed, stays, _⟩ := routing_hides_no_clause "@due:"
  exact ⟨plain, ((routing_hides_no_clause _).1 _ read plain).1, marked,
    parsed _ readMarked marked, stays marked " " "\"open" blank (by decide)⟩

end TaskSearch
