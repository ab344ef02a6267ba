import TaskSearch.Proofs.Query.Juxtaposition

set_option autoImplicit false

namespace TaskSearch

inductive Clause.Built : Clause → Prop where
  | plain (field : Field) (operator : Operator) (value : String) : Built { field, operator, value }
  | mention (name : String) (fuzzy : Bool) : Built (.mention name fuzzy)
  | excluding (field : Field) (value : String) : Built (.excluding field value)

def Operator.tokens : Operator → List Token
  | .colon => [.colon]
  | .equal => [.equals]
  | .less => [.less]
  | .lessEqual => [.less, .equals]
  | .greater => [.greater]
  | .greaterEqual => [.greater, .equals]
  | .notEqual => [.notEquals]

def Clause.lead (clause : Clause) : List Token :=
  if clause.field = .project && clause.fuzzy then [.atSign, .tilde]
  else (if clause.negated then [.minus] else []) ++ .field clause.field :: clause.operator.tokens

namespace Lexer

def spell (tokens : List Token) : List Char :=
  tokens.flatMap (·.text.toList)

def row (position : Nat) : List Token → List Lexeme
  | [] => []
  | token :: tokens => ⟨token, position⟩ :: row (position + token.text.length) tokens

def Spelled : List Token → List Char → Prop
  | [], _ => True
  | token :: tokens, after =>
      Spans token token.text.toList (spell tokens ++ after) ∧ Spelled tokens after

theorem spell_cons (token : Token) (tokens : List Token) :
    spell (token :: tokens) = token.text.toList ++ spell tokens :=
  List.flatMap_cons

theorem read_all_span (position : Nat) (token : Token) (piece after : List Char)
    (spans : Spans token piece after) :
    readAll ⟨piece ++ after, position⟩ =
      (⟨token, position⟩ :: (readAll ⟨after, position + piece.length⟩).1,
        (readAll ⟨after, position + piece.length⟩).2) :=
  read_all_next position [] piece after token (by simp) spans

theorem read_all_row (position : Nat) (tokens : List Token) (after : List Char)
    (spelled : Spelled tokens after) :
    readAll ⟨spell tokens ++ after, position⟩ =
      (row position tokens ++ (readAll ⟨after, position + (spell tokens).length⟩).1,
        (readAll ⟨after, position + (spell tokens).length⟩).2) := by
  induction tokens generalizing position with
  | nil => rfl
  | cons token tokens ih =>
      rw [spell_cons, List.append_assoc, read_all_span position token _ _ spelled.1,
        ih _ spelled.2, List.length_append, Nat.add_assoc]
      rfl

theorem field_lower (field : Field) : Text.lower field.name = field.name := by
  cases field <;> decide

theorem field_begins (field : Field) :
    ∃ c rest, field.name.toList = c :: rest ∧ Text.isLetter c = true ∧ c ≠ '-' ∧
      ∀ d ∈ c :: rest, isWordChar d = true := by
  have names : Field.all.all (fun field =>
      field.name.toList.all isWordChar && field.name.toList.head?.any Text.isLetter &&
        field.name.toList.head? != some '-') = true := by decide
  have member : field ∈ Field.all := by cases field <;> decide
  have name := List.all_eq_true.mp names field member
  simp only [Bool.and_eq_true, bne_iff_ne, ne_eq] at name
  obtain ⟨⟨inside, letter⟩, noHyphen⟩ := name
  cases chars : field.name.toList with
  | nil => simp [chars] at letter
  | cons c rest =>
      rw [chars] at inside letter noHyphen
      refine ⟨c, rest, rfl, letter, ?_, List.all_eq_true.mp inside⟩
      rintro rfl
      exact noHyphen rfl

theorem field_spans (field : Field) (after : List Char)
    (ended : ∀ d ∈ after.head?, isWordChar d = false) :
    Spans (.field field) field.name.toList after := by
  obtain ⟨c, rest, chars, letter, noHyphen, inside⟩ := field_begins field
  have classified : Classified (String.ofList (c :: rest)) (.field field) := by
    rw [← chars, String.ofList_toList]
    exact .field field (field_lower field)
  rw [chars]
  exact .word inside ended (fun hyphen => absurd hyphen noHyphen) classified

theorem mark_ends_word (token : Token) (after : List Char) (listed : token ∈ marks) :
    ∀ d ∈ (token.text.toList ++ after).head?, isWordChar d = false := by
  have apart : marks.all (fun token => token.text.toList.head?.any (!isWordChar ·)) = true := by
    decide
  have first := List.all_eq_true.mp apart token listed
  obtain ⟨c, span, written, _⟩ := scan_mark token after listed
  rw [written] at first ⊢
  rintro d ⟨⟩
  simpa using first

theorem operator_marks (operator : Operator) :
    ∃ first more, operator.tokens = first :: more ∧ first ∈ marks ∧
      ∀ token ∈ more, token ∈ marks := by
  cases operator <;> exact ⟨_, _, rfl, by decide, by decide⟩

theorem marks_spelled (tokens : List Token) (after : List Char)
    (listed : ∀ token ∈ tokens, token ∈ marks) : Spelled tokens after := by
  induction tokens with
  | nil => trivial
  | cons token tokens ih =>
      obtain ⟨first, rest⟩ := List.forall_mem_cons.mp listed
      exact ⟨.mark first, ih rest⟩

theorem comparison_spelled (field : Field) (operator : Operator) (after : List Char) :
    Spelled (.field field :: operator.tokens) after := by
  obtain ⟨first, more, tokens, listed, listedMore⟩ := operator_marks operator
  rw [tokens]
  refine ⟨field_spans field _ ?_, .mark listed, marks_spelled more after listedMore⟩
  rw [spell_cons, List.append_assoc]
  exact mark_ends_word first _ listed

theorem lead_spelled (clause : Clause) (after : List Char) : Spelled clause.lead after := by
  have comparison := comparison_spelled clause.field clause.operator after
  unfold Clause.lead
  split
  · exact ⟨.mark (by decide), .mark (by decide), trivial⟩
  · cases clause.negated with
    | false => exact comparison
    | true =>
        obtain ⟨c, rest, chars, letter, _⟩ := field_begins clause.field
        have next :
            (spell (.field clause.field :: clause.operator.tokens) ++ after).head? = some c := by
          rw [spell_cons, Token.text, chars]
          rfl
        exact ⟨.minus (next ▸ letter), comparison⟩

theorem row_tokens (position : Nat) (tokens : List Token) :
    (row position tokens).map (·.token) = tokens := by
  induction tokens generalizing position with
  | nil => rfl
  | cons token tokens ih => rw [row, List.map_cons, ih]

end Lexer

namespace Grammar

open Lexer (row row_tokens operator_marks spell Spans)

theorem lead_comparison (field : Field) (operator : Operator) (value : String) :
    Clause.lead { field, operator, value } = .field field :: operator.tokens := by
  simp [Clause.lead]

theorem lead_excluding (field : Field) (value : String) :
    (Clause.excluding field value).lead = [.minus, .field field, .colon] := by
  simp [Clause.lead, Clause.excluding, Operator.tokens]

theorem lead_begins (clause : Clause) :
    ∃ first tokens, clause.lead = first :: tokens ∧ Parser.beginsClause first = true := by
  unfold Clause.lead
  split
  · exact ⟨_, _, rfl, rfl⟩
  · cases clause.negated <;> exact ⟨_, _, rfl, rfl⟩

theorem comparison_derives (field : Field) (operator : Operator) (text : String) (token : Token)
    (p q : Nat) (value : IsValue token text) :
    Derives (row p (.field field :: operator.tokens) ++ [⟨token, q⟩])
      { field, operator, value := text } := by
  have one : Token.less.text.length = 1 ∧ Token.greater.text.length = 1 := by decide
  cases operator with
  | colon => exact .comparison p q (.present _) .absent rfl value
  | equal => exact .comparison p q .absent (.equal _) rfl value
  | less => exact .comparison p q .absent (.less _) rfl value
  | greater => exact .comparison p q .absent (.greater _) rfl value
  | notEqual => exact .comparison p q .absent (.notEqual _) rfl value
  | lessEqual =>
      simp only [Operator.tokens, row, one.1]
      exact .comparison p q .absent (.lessEqual _) rfl value
  | greaterEqual =>
      simp only [Operator.tokens, row, one.2]
      exact .comparison p q .absent (.greaterEqual _) rfl value

theorem lead_derives (clause : Clause) (built : clause.Built) (token : Token) (p q : Nat)
    (value : IsValue token clause.value) : Derives (row p clause.lead ++ [⟨token, q⟩]) clause := by
  cases built with
  | plain field operator text =>
      rw [lead_comparison]
      exact comparison_derives field operator text token p q value
  | mention name fuzzy =>
      cases fuzzy with
      | true => exact .mention p q (.present _) value
      | false => exact comparison_derives .project .colon name token p q value
  | excluding field text =>
      rw [lead_excluding]
      exact .negated p _ _ q value

theorem comparator_tokens (sign : List Lexeme) (operator : Operator)
    (spelled : Comparator sign (some operator)) :
    sign.map (·.token) = operator.tokens ∧ operator ≠ .colon := by
  cases spelled <;> exact ⟨rfl, by simp⟩

inductive Leads (clause : Clause) : List Token → Prop where
  | lead : Leads clause clause.lead
  | mention : Leads clause [.atSign]
  | colon (different : clause.operator ≠ .colon) :
      Leads clause (.field clause.field :: .colon :: clause.operator.tokens)

theorem derives_leads (part : List Lexeme) (clause : Clause) (derives : Derives part clause) :
    ∃ begun token position, part = begun ++ [⟨token, position⟩] ∧
      IsValue token clause.value ∧ Leads clause (begun.map (·.token)) := by
  cases derives with
  | mention p q mark value =>
      rename_i tilde fuzzy token name
      refine ⟨⟨.atSign, p⟩ :: tilde, token, q, rfl, value, ?_⟩
      cases mark with
      | absent => exact .mention
      | present => exact .lead
  | negated p q r s value =>
      rename_i field token text
      refine ⟨[⟨.minus, p⟩, ⟨.field field, q⟩, ⟨.colon, r⟩], token, s, rfl, value, ?_⟩
      change Leads _ [.minus, .field field, .colon]
      rw [← lead_excluding field text]
      exact .lead
  | comparison p q mark spelled meant value =>
      rename_i field colon sign hasColon comparator operator token text
      refine ⟨⟨.field field, p⟩ :: (colon ++ sign), token, q, by simp, value, ?_⟩
      have lead := lead_comparison field operator text
      rw [List.map_cons, List.map_append]
      cases comparator with
      | none =>
          cases spelled
          cases mark with
          | absent => simp [operatorOf?] at meant
          | present =>
              cases meant
              exact lead ▸ .lead
      | some other =>
          cases meant
          obtain ⟨tokens, different⟩ := comparator_tokens sign _ spelled
          rw [tokens]
          cases mark with
          | absent => exact lead ▸ .lead
          | present => exact .colon different

theorem value_not_equal (token : Token) (text : String) (value : IsValue token text) :
    token ≠ .tilde ∧ token ≠ .endOfInput := by
  cases value <;> simp

theorem lead_value (clause : Clause) (position : Nat) (part left rest : List Lexeme)
    (derives : Derives part clause) (same : row position clause.lead ++ rest = part ++ left) :
    ∃ token place, rest = ⟨token, place⟩ :: left ∧ IsValue token clause.value := by
  obtain ⟨begun, token, place, rfl, value, leads⟩ := derives_leads part clause derives
  have tokens := congrArg (List.map (·.token)) same
  simp only [List.map_append, row_tokens, List.append_assoc, List.map_cons, List.map_nil] at tokens
  generalize spelled : begun.map (·.token) = begunTokens at leads tokens
  cases leads with
  | lead =>
      have lengths : (row position clause.lead).length = begun.length := by
        rw [← List.length_map (·.token), row_tokens, ← spelled, List.length_map]
      rw [List.append_assoc] at same
      obtain ⟨_, rest⟩ := List.append_inj same lengths
      exact ⟨token, place, rest, value⟩
  | mention =>
      have noTilde := (value_not_equal token _ value).1
      unfold Clause.lead at tokens
      split at tokens
      · simp only [List.cons_append, List.nil_append, List.cons.injEq] at tokens
        exact absurd tokens.2.1.symm noTilde
      · cases negated : clause.negated <;> simp [negated] at tokens
  | colon different =>
      have apart : clause.operator.tokens.head? ≠ some .colon := by
        cases operator : clause.operator <;> simp_all [Operator.tokens]
      obtain ⟨first, more, marks, _⟩ := operator_marks clause.operator
      unfold Clause.lead at tokens
      split at tokens
      · simp at tokens
      · cases negated : clause.negated with
        | true => simp [negated] at tokens
        | false =>
            simp only [negated, marks, List.nil_append, List.cons_append, List.cons.injEq,
              Bool.false_eq_true, if_false] at tokens
            exact absurd (by rw [marks, tokens.2.1]; rfl) apart

theorem parsed_lead (stop position : Nat) (clause : Clause) (rest : List Lexeme)
    (parsed : Parser.parseUpTo stop (row position clause.lead ++ rest) = { clauses := [clause] }) :
    ∃ token place left, rest = ⟨token, place⟩ :: left ∧ IsValue token clause.value := by
  obtain ⟨first, tokens, lead, begins⟩ := lead_begins clause
  have whole : row position clause.lead ++ rest =
      ⟨first, position⟩ :: (row (position + first.text.length) tokens ++ rest) := by
    rw [lead]
    rfl
  rw [whole] at parsed
  have reads := begins_of_read first (row (position + first.text.length) tokens ++ rest)
  rw [begins, Option.isSome_iff_exists] at reads
  obtain ⟨⟨result, left⟩, read⟩ := reads
  cases result with
  | error fault =>
      rw [Parser.parse_fault stop ⟨first, position⟩ _ left fault read] at parsed
      exact absurd (congrArg Query.errors parsed) (List.cons_ne_nil _ _)
  | ok found =>
      rw [Parser.parse_clause stop ⟨first, position⟩ _ left found read] at parsed
      have same : found = clause := (List.cons.inj (congrArg Query.clauses parsed)).1
      obtain ⟨part, split, derives⟩ := clause_fits ⟨first, position⟩ _ left found read
      rw [← whole] at split
      obtain ⟨token, place, rest, value⟩ :=
        lead_value clause position part left rest (same ▸ derives) split
      exact ⟨token, place, left, rest, value⟩

theorem tokenize_spelled (begun : List Token) (span : List Char)
    (spelled : Lexer.Spelled begun span) :
    tokenize (String.ofList (spell begun ++ span)) =
      match Lexer.readAll ⟨span, (spell begun).length⟩ with
      | (lexemes, .finished stop) => .ok (row 0 begun ++ (lexemes ++ [⟨.endOfInput, stop⟩]))
      | (_, .failed error) => .error error := by
  have read := Lexer.read_all_row 0 begun span spelled
  rw [Nat.zero_add] at read
  rw [tokenize, Lexer.Cursor.start, String.toList_ofList, read]
  rcases Lexer.readAll ⟨span, (spell begun).length⟩ with ⟨lexemes, ending⟩
  cases ending with
  | finished stop => simp
  | failed error => rfl

theorem parse_begun (begun : List Token) (clause : Clause) (token : Token) (span : List Char)
    (spelled : Lexer.Spelled begun span) (spans : Spans token span [])
    (derives : ∀ place, Derives (row 0 begun ++ [⟨token, place⟩]) clause) :
    Query.parse (String.ofList (spell begun ++ span)) = .ok { clauses := [clause] } := by
  have atEnd := Lexer.read_all_span (spell begun).length token span [] spans
  rw [List.append_nil, Lexer.read_all_end ⟨[], _⟩ rfl] at atEnd
  have read := tokenize_spelled begun span spelled
  rw [atEnd] at read
  dsimp only at read
  rw [← List.append_assoc] at read
  obtain ⟨tokens, lexemes, inside, _⟩ := Parser.tokenize_ends _ _ read
  obtain ⟨rfl, _⟩ := List.append_inj' lexemes (by simp only [List.length_singleton])
  refine (Parser.parse_ok_iff _ _).mpr ⟨_, read, ?_⟩
  rw [Parser.of_lexemes_ended _ _ inside]
  have whole := derives (spell begun).length
  obtain ⟨first, used, split, -⟩ := derives_cons _ clause whole
  rw [split] at whole ⊢
  have reads := read_clause_complete first used clause whole []
  rw [List.append_nil] at reads
  rw [Parser.parse_clause _ first used [] clause reads, Parser.parseUpTo]
  rfl

theorem parse_spelled (clause : Clause) (built : clause.Built) (token : Token) (span : List Char)
    (spans : Spans token span []) (value : IsValue token clause.value) :
    Query.parse (String.ofList (spell clause.lead ++ span)) = .ok { clauses := [clause] } :=
  parse_begun clause.lead clause token span (Lexer.lead_spelled clause span) spans fun place =>
    lead_derives clause built token 0 place value

end Grammar

end TaskSearch
