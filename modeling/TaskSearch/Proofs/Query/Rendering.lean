import TaskSearch.Proofs.Query.Spelling

set_option autoImplicit false

namespace TaskSearch

open Lexer (isWordChar Spans Classified Quoted spell readAll)
open Grammar (IsValue)

-- The values that a rendered clause keeps: those with blanks, which are quoted, unless a backslash
-- at the end takes the closing quote away, and bare words that stand for no other token.
inductive Renderable (value : String) : Prop where
  | spaced (spaced : ∃ c ∈ value.toList, Text.isBlank c = true)
      (ended : value.toList.getLast? ≠ some '\\')
  | word (nonempty : value ≠ "") (inside : ∀ c ∈ value.toList, isWordChar c = true)
      (whole : ∀ c rest, value.toList = '-' :: c :: rest → Text.isLetter c = false)
      (free : Text.lower value ∉ ["and", "or", "not"])
      (small : Text.lower value ∈ Field.all.map Field.name → value = Text.lower value)

theorem render_spelled (clause : Clause) :
    clause.render.toList = spell clause.lead ++ (Clause.renderValue clause.value).toList := by
  unfold Clause.render Clause.lead
  split
  · simp [String.toList_append, spell, Token.text]
  · have operator : clause.operator.text.toList = spell clause.operator.tokens := by
      cases clause.operator <;> rfl
    cases clause.negated <;> simp [String.toList_append, spell, Token.text, operator]

theorem quoted_shorter (quote : Char) (text value : List Char) (quoted : Quoted quote text value) :
    value.length < text.length := by
  induction quoted with
  | close => simp
  | escaped rest ih | plain different unescaped rest ih =>
      simp only [List.length_cons]
      omega

theorem field_renderable (field : Field) : Renderable field.name := by
  obtain ⟨c, rest, chars, _, noHyphen, inside⟩ := Lexer.field_begins field
  have lower := Lexer.field_lower field
  refine .word ?_ (chars ▸ inside) ?_ ?_ (fun _ => lower.symm)
  · cases field <;> decide
  · intro d more hyphen
    rw [chars] at hyphen
    exact absurd (List.cons.inj hyphen).1 noHyphen
  · rw [lower]
    cases field <;> decide

theorem classified_value (value : String) (token : Token) (classified : Classified value token)
    (free : Text.lower value ∉ ["and", "or", "not"])
    (small : Text.lower value ∈ Field.all.map Field.name → value = Text.lower value) :
    IsValue token value := by
  cases classified with
  | and spelled | or spelled | not spelled => simp [spelled] at free
  | field field spelled =>
      have member : field ∈ Field.all := by cases field <;> decide
      have same := small (spelled ▸ List.mem_map_of_mem member)
      rw [same, spelled]
      exact .field field
  | number => exact .number value
  | value => exact .value value

theorem rendered_spans (value : String) (renderable : Renderable value) :
    ∃ token, Spans token (Clause.renderValue value).toList [] ∧ IsValue token value := by
  cases renderable with
  | spaced spaced ended =>
      have blank : value.toList.any Text.isBlank = true := by simpa using spaced
      refine ⟨.value (String.ofList value.toList), ?_, by simpa using .value value⟩
      rw [Clause.renderValue, if_pos blank, String.toList_ofList, Lexer.escape_quotes_eq]
      exact .quoted (.inl rfl) (Lexer.quoted_escape '"' value.toList (by decide) ended)
  | word nonempty inside whole free small =>
      have ink : ¬ value.toList.any Text.isBlank = true := by
        simpa using fun c member => Text.word_not_blank c (inside c member)
      rw [Clause.renderValue, if_neg ink]
      have classified := Lexer.classify_sound value
      refine ⟨Lexer.classify value, ?_, classified_value value _ classified free small⟩
      cases chars : value.toList with
      | nil => exact absurd (String.toList_eq_nil_iff.mp chars) nonempty
      | cons c rest =>
          rw [chars] at inside
          refine .word inside (by simp) ?_ ?_
          · rintro rfl
            cases rest with
            | nil => rfl
            | cons d more => exact whole d more chars
          · rwa [← chars, String.ofList_toList]

theorem bare_renderable (value : String) (token : Token) (span after : List Char)
    (chars : value.toList = span ++ after) (spans : Spans token span after)
    (isValue : IsValue token value) : Renderable value := by
  cases spans with
  | mark listed => cases isValue <;> simp [Lexer.marks] at listed
  | minus => cases isValue
  | quoted opens closed =>
      rename_i quote text inner
      have shorter := quoted_shorter quote text inner closed
      cases isValue
      rw [String.toList_ofList] at chars
      rw [chars] at shorter
      simp at shorter
      omega
  | word inside ended whole classified =>
      rename_i c rest
      have bare (free : Text.lower (String.ofList (c :: rest)) ∉ Lexer.reserved) :
          Renderable (String.ofList (c :: rest)) := by
        rw [Lexer.reserved, List.mem_append, not_or] at free
        refine .word ?_ ?_ ?_ free.1 (fun field => absurd field free.2)
        · simp [← String.toList_inj]
        · simpa using inside
        · intro d more hyphen
          rw [String.toList_ofList] at hyphen
          cases hyphen
          exact whole rfl
      cases classified with
      | and | or | not => cases isValue
      | field field =>
          cases isValue
          exact field_renderable field
      | number free =>
          cases isValue
          exact bare free
      | value free =>
          cases isValue
          exact bare free

theorem tiled_renderable (value : String) (position : Nat) (token : Token) (place : Nat)
    (behind : List Lexeme) (ink : ∀ c ∈ value.toList, Text.isBlank c = false)
    (isValue : IsValue token value)
    (tiles : Lexer.Tiles position value.toList (⟨token, place⟩ :: behind)) : Renderable value := by
  generalize chars : value.toList = text at tiles ink
  cases tiles with
  | finish => cases isValue
  | next blank spans rest =>
      rename_i blanks span after
      cases blanks with
      | nil => exact bare_renderable value token span after chars spans isValue
      | cons c more =>
          have inked := ink c (by simp)
          rw [blank c List.mem_cons_self] at inked
          exact Bool.noConfusion inked

theorem rendered_unread (position : Nat) (value : List Char) (ended : value.getLast? = some '\\') :
    ∃ error, readAll ⟨'"' :: Clause.escapeQuotes value ++ ['"'], position⟩ =
      ([], .failed error) := by
  rw [Lexer.escape_quotes_eq]
  have unclosed := Lexer.escape_unclosed '"' value (by decide) ended
  have blocked : Lexer.Blocked position _ _ := .unclosed (.inl rfl) unclosed
  exact ⟨_, Lexer.read_blocked position _ _ blocked position [] (by simp) rfl⟩

theorem parse_rendered (clause : Clause) (built : clause.Built)
    (renderable : Renderable clause.value) :
    Query.parse clause.render = .ok { clauses := [clause] } := by
  obtain ⟨token, spans, isValue⟩ := rendered_spans clause.value renderable
  rw [← String.ofList_toList (s := clause.render), render_spelled]
  exact Grammar.parse_spelled clause built token _ spans isValue

theorem renderable_of_parse (clause : Clause)
    (parsed : Query.parse clause.render = .ok { clauses := [clause] }) :
    Renderable clause.value := by
  obtain ⟨lexemes, read, query⟩ := (Parser.parse_ok_iff _ _).mp parsed
  obtain ⟨tokens, rfl, inside, _⟩ := Parser.tokenize_ends _ _ read
  rw [Parser.of_lexemes_ended tokens _ inside] at query
  rw [← String.ofList_toList (s := clause.render), render_spelled,
    Grammar.tokenize_spelled _ _ (Lexer.lead_spelled clause _)] at read
  rcases rest : readAll ⟨(Clause.renderValue clause.value).toList, (spell clause.lead).length⟩ with
    ⟨behind, _ | error⟩
  · rename_i stop
    rw [rest] at read
    dsimp only at read
    rw [Except.ok.injEq, ← List.append_assoc] at read
    obtain ⟨rfl, _⟩ := List.append_inj' read (by simp only [List.length_singleton])
    obtain ⟨token, place, left, rfl, isValue⟩ := Grammar.parsed_lead _ 0 clause behind query
    by_cases spaced : clause.value.toList.any Text.isBlank = true
    · refine .spaced (by simpa using spaced) fun ended => ?_
      rw [Clause.renderValue, if_pos spaced, String.toList_ofList] at rest
      have stuck := rendered_unread (spell clause.lead).length clause.value.toList ended
      rw [rest] at stuck
      exact stuck.elim fun error failed => by cases failed
    · rw [Clause.renderValue, if_neg spaced] at rest
      have tiles := Lexer.read_tiles _ _ _ rest
      have bare : ∀ c ∈ clause.value.toList, Text.isBlank c = false := by simpa using spaced
      exact tiled_renderable clause.value _ token place _ bare isValue tiles
  · rw [rest] at read
    cases read

theorem parse_row (clauses : List Clause) (alone : ∀ clause ∈ clauses,
      Query.parse clause.render = .ok { clauses := [clause] }) :
    Query.parse (" ".intercalate (clauses.map Clause.render)) = .ok { clauses } := by
  induction clauses with
  | nil => decide +kernel
  | cons clause rest ih =>
      obtain ⟨first, others⟩ := List.forall_mem_cons.mp alone
      cases rest with
      | nil => simpa using first
      | cons next more =>
          have blank : ∀ c ∈ " ".toList, Text.isBlank c = true := by
            simpa using (by decide : Text.isBlank ' ' = true)
          rw [List.map_cons, List.map_cons, String.intercalate_cons_cons, ← List.map_cons,
            Parser.parse_of_complete clause.render " " _ _ _ blank (by decide) first rfl
              (ih others)]
          rfl

theorem rendered_clauses_return :
    (∀ clauses : List Clause, (∀ clause ∈ clauses, clause.Built ∧ Renderable clause.value) →
      Query.parse (" ".intercalate (clauses.map Clause.render)) = .ok { clauses }) ∧
    ∀ clause : Clause, clause.Built → ¬ Renderable clause.value →
      Query.parse clause.render ≠ .ok { clauses := [clause] } := by
  constructor
  · intro clauses renderable
    exact parse_row clauses fun clause member =>
      parse_rendered clause (renderable clause member).1 (renderable clause member).2
  · intro clause _ lost parsed
    exact lost (renderable_of_parse clause parsed)

theorem capitalized_field_lost :
    let quoted : Clause := { field := .tag, operator := .lessEqual, value := "a \\\"b" }
    let mentioned := Clause.mention "due" true
    let capitalized := Clause.excluding .tag "Due"
    ([quoted, mentioned].map Clause.render = ["tag<=\"a \\\\\"b\"", "@~due"]) ∧
    (∀ clause ∈ [quoted, mentioned], clause.Built ∧ Renderable clause.value) ∧
    Query.parse (" ".intercalate ([quoted, mentioned].map Clause.render)) =
      .ok { clauses := [quoted, mentioned] } ∧
    capitalized.Built ∧ ¬ Renderable capitalized.value ∧
    Query.parse capitalized.render ≠ .ok { clauses := [capitalized] } := by
  intro quoted mentioned capitalized
  have first : Renderable quoted.value :=
    .spaced ⟨' ', by simp [quoted], by decide⟩ (by simp [quoted])
  have kept : ∀ clause ∈ [quoted, mentioned], clause.Built ∧ Renderable clause.value := by
    simp only [List.forall_mem_cons, List.not_mem_nil, false_implies, implies_true, and_true]
    exact ⟨⟨.plain _ _ _, first⟩, .mention _ _, field_renderable .due⟩
  have lost : ¬ Renderable capitalized.value := by
    have lower : Text.lower "Due" = "due" := by decide
    intro renderable
    cases renderable with
    | spaced spaced =>
        obtain ⟨c, member, blank⟩ := spaced
        simp only [capitalized, Clause.excluding, String.reduceToList, List.mem_cons,
          List.not_mem_nil, or_false] at member
        rcases member with rfl | rfl | rfl
        all_goals exact absurd blank (by decide)
    | word nonempty inside whole free small =>
        have same : "Due" = Text.lower "Due" := small (lower ▸ by decide)
        rw [lower] at same
        exact absurd same (by decide)
  exact ⟨by decide, kept, rendered_clauses_return.1 _ kept, .excluding _ _, lost,
    rendered_clauses_return.2 _ (.excluding _ _) lost⟩

end TaskSearch
