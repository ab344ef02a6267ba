import Mathlib.Data.Option.Basic
import TaskSearch.Proofs.Query.Concatenation
import TaskSearch.Proofs.Query.Respacing

set_option autoImplicit false

namespace TaskSearch

def ParseError.later (shift : Nat) (error : ParseError) : ParseError :=
  { error with position := error.position + shift }

def Query.later (shift : Nat) (query : Query) : Query :=
  { query with errors := query.errors.map (ParseError.later shift) }

namespace Parser

section

variable (first : Token) (rest left more : List Lexeme)

theorem read_clause_append (clause : Clause)
    (read : readClause? first rest = some (.ok clause, left)) :
    readClause? first (rest ++ more) = some (.ok clause, left ++ more) := by
  cases Grammar.read_clause_explained ⟨first, 0⟩ rest _ read with
  | derived used left derives =>
      rw [List.append_assoc]
      exact Grammar.read_clause_complete ⟨first, 0⟩ used clause derives (left ++ more)

theorem read_fault_append (fault : ParseFault) (kept : left ≠ [])
    (read : readClause? first rest = some (.error fault, left)) :
    readClause? first (rest ++ more) = some (.error fault, left ++ more) := by
  cases Grammar.read_clause_explained ⟨first, 0⟩ rest _ read with
  | stuck used left viable expected fails =>
      rw [List.append_assoc]
      apply fails
      cases left with
      | nil => exact absurd rfl kept
      | cons lexeme behind => rfl

theorem read_clause_suffix (result : Except ParseFault Clause)
    (read : readClause? first rest = some (result, left)) : left <:+ rest := by
  cases Grammar.read_clause_explained ⟨first, 0⟩ rest _ read with
  | derived used left derives => exact List.suffix_append used left
  | stuck used left viable expected fails => exact List.suffix_append used left

theorem synchronize_before (resumes : ∀ lexeme ∈ more.head?, beginsClause lexeme.token = true) :
    synchronize (left ++ more) = synchronize left ++ more := by
  have stays : synchronize more = more := by
    simpa using Grammar.synchronize_append [] more (by simp) resumes
  unfold synchronize at stays ⊢
  rw [List.dropWhile_append, stays]
  cases left.dropWhile (!beginsClause ·.token) <;> rfl

end

-- Whether a query that ends at `stop` reads the same before more lexemes.
def Settled (stop : Nat) (query : Query) (more : List Lexeme) : Prop :=
  query.errors = [] ∨
    (∀ error ∈ query.errors, error.position ≠ stop) ∧
      ∀ lexeme ∈ more.head?, beginsClause lexeme.token = true

theorem settled_of_append (stop : Nat) (x y : Query) (more : List Lexeme)
    (settled : Settled stop (x ++ y) more) : Settled stop y more := by
  rcases settled with none | ⟨inside, resumes⟩
  · exact .inl (List.append_eq_nil_iff.mp none).2
  · exact .inr ⟨fun error member => inside error (List.mem_append_right _ member), resumes⟩

theorem append_assoc (x y z : Query) : x ++ y ++ z = x ++ (y ++ z) := by
  change Query.append (Query.append x y) z = Query.append x (Query.append y z)
  simp only [Query.append, List.append_assoc]

theorem parse_up_to_append (stop last : Nat) (lexemes more : List Lexeme)
    (inside : ∀ lexeme ∈ lexemes, lexeme.position < stop)
    (settled : Settled stop (parseUpTo stop lexemes) more) :
    parseUpTo last (lexemes ++ more) = parseUpTo stop lexemes ++ parseUpTo last more := by
  fun_induction parseUpTo stop lexemes with
  | case1 => rfl
  | case2 lexeme rest clause left read ih =>
      have front := (read_clause_suffix _ _ _ _ read).subset
      have rest' := ih (fun lexeme member => inside lexeme (List.mem_cons_of_mem _ (front member)))
        (settled_of_append stop _ _ more settled)
      rw [List.cons_append, parse_clause last lexeme _ _ clause
        (read_clause_append _ rest left more clause read), rest', append_assoc]
  | case3 lexeme rest fault left read ih =>
      have front := (read_clause_suffix _ _ _ _ read).subset
      have kept := (List.dropWhile_suffix (l := left) (!beginsClause ·.token)).subset
      have rest' := ih (fun lexeme member =>
          inside lexeme (List.mem_cons_of_mem _ (front (kept member))))
        (settled_of_append stop _ _ more settled)
      rcases settled with none | ⟨apart, resumes⟩
      · exact absurd none (List.cons_ne_nil _ _)
      · have nonempty : left ≠ [] := by
          rintro rfl
          exact apart _ List.mem_cons_self rfl
        have place : positionOf last (left ++ more) = positionOf stop left := by
          cases left with
          | nil => exact absurd rfl nonempty
          | cons lexeme behind => rfl
        rw [List.cons_append, parse_fault last lexeme _ _ fault
          (read_fault_append _ rest left more fault nonempty read), place,
          synchronize_before left more resumes, rest', append_assoc]
  | case4 lexeme rest none word written ih | case5 lexeme rest none word written ih =>
      have rest' := ih (fun lexeme member => inside lexeme (List.mem_cons_of_mem _ member))
        (settled_of_append stop _ _ more settled)
      rw [List.cons_append, parse_outside last _ _ (outside_whatever _ _ _ none), written]
      dsimp only
      rw [rest', append_assoc]
  | case6 lexeme rest none noWord noNumber ih =>
      have rest' := ih (fun lexeme member => inside lexeme (List.mem_cons_of_mem _ member)) settled
      rw [List.cons_append, parse_outside last _ _ (outside_whatever _ _ _ none), ← rest']
      split
      · exact absurd ‹_› (noWord _)
      · exact absurd ‹_› (noNumber _)
      · rfl

theorem respaced_later (shift : Nat) (lexemes : List Lexeme) :
    Respaced (fun p q => q = p + shift) lexemes (lexemes.map (Lexeme.later shift)) := by
  induction lexemes with
  | nil => exact .nil
  | cons lexeme rest ih =>
      refine .cons rfl rfl ?_ ih
      intro _
      cases rest with
      | nil => rfl
      | cons next behind =>
          have moved : (next.position == lexeme.position + 1) =
              (next.position + shift == lexeme.position + shift + 1) := by
            rw [Bool.eq_iff_iff, beq_iff_eq, beq_iff_eq]
            omega
          exact congrArg (next.token == .equals && ·) moved

theorem errors_later (shift : Nat) (errors moved : List ParseError)
    (same : List.Forall₂ (fun e f => e.fault = f.fault ∧ f.position = e.position + shift)
      errors moved) : moved = errors.map (ParseError.later shift) := by
  induction same with
  | nil => rfl
  | cons head rest ih =>
      rename_i e f errors moved
      rw [List.map_cons, ← ih, ParseError.later, head.1, ← head.2]

theorem parse_up_to_later (shift stop : Nat) (lexemes : List Lexeme) :
    parseUpTo (stop + shift) (lexemes.map (Lexeme.later shift)) =
      (parseUpTo stop lexemes).later shift := by
  have same := parse_up_to_respaced _ stop (stop + shift) rfl _ _ (respaced_later shift lexemes)
  cases moved : parseUpTo (stop + shift) (lexemes.map (Lexeme.later shift)) with
  | mk clauses errors freeText =>
      rw [moved] at same
      rw [Query.later, ← errors_later shift _ _ same.errors, same.clauses, same.freeText]

theorem body_ended (lexemes : List Lexeme) (stop : Nat)
    (inside : ∀ lexeme ∈ lexemes, lexeme.token ≠ .endOfInput) :
    body (lexemes ++ [⟨.endOfInput, stop⟩]) = lexemes := by
  rw [body, List.takeWhile_append_of_pos (by simpa using inside)]
  simp

theorem of_lexemes_ended (lexemes : List Lexeme) (stop : Nat)
    (inside : ∀ lexeme ∈ lexemes, lexeme.token ≠ .endOfInput) :
    Query.ofLexemes (lexemes ++ [⟨.endOfInput, stop⟩]) = parseUpTo stop lexemes := by
  have none : lexemes.find? (·.token == .endOfInput) = none := by simpa using inside
  have last : endPosition (lexemes ++ [⟨.endOfInput, stop⟩]) = stop := by
    simp [endPosition, List.find?_append, none]
  rw [Query.ofLexemes, body_ended lexemes stop inside, last]

theorem tokenize_ends (text : String) (lexemes : List Lexeme) (read : tokenize text = .ok lexemes) :
    ∃ tokens, lexemes = tokens ++ [⟨.endOfInput, text.length⟩] ∧
      (∀ lexeme ∈ tokens, lexeme.token ≠ .endOfInput) ∧
      ∀ lexeme ∈ tokens, lexeme.position < text.length := by
  have tiles := (Lexer.tokenize_iff text lexemes).mp read
  obtain ⟨tokens, rfl, inside⟩ := Lexer.tiles_end 0 text.toList lexemes tiles
  have ordered := (Lexer.tiles_ordered 0 text.toList _ tiles).2
  rw [Nat.zero_add, String.length_toList] at *
  refine ⟨tokens, rfl, inside, fun lexeme member => ?_⟩
  exact (List.pairwise_append.mp ordered).2.2 lexeme member _ (List.mem_singleton_self _)

theorem parse_ok_iff (text : String) (query : Query) :
    Query.parse text = .ok query ↔
      ∃ lexemes, tokenize text = .ok lexemes ∧ Query.ofLexemes lexemes = query := by
  rw [Query.parse]
  cases tokenize text with
  | error error => simp [Except.map]
  | ok lexemes => simp [Except.map]

theorem parse_of_settled (a blanks b : String) (before behind : List Lexeme)
    (blank : ∀ c ∈ blanks.toList, Text.isBlank c = true) (apart : blanks ≠ "")
    (read : tokenize a = .ok before) (readBehind : tokenize b = .ok behind)
    (settled : Settled a.length (Query.ofLexemes before) (body behind)) :
    Query.parse (a ++ blanks ++ b) = .ok (Query.ofLexemes before ++
      (Query.ofLexemes behind).later (a.length + blanks.length)) := by
  have joined := Lexer.tokenize_juxtaposed a blanks b blank apart before behind read readBehind
  obtain ⟨tokens, rfl, inside, bounded⟩ := tokenize_ends a before read
  obtain ⟨more, rfl, insideMore, _⟩ := tokenize_ends b behind readBehind
  generalize shift : a.length + blanks.length = n at joined
  rw [of_lexemes_ended tokens _ inside, body_ended more _ insideMore] at settled
  have resumes : Settled a.length (parseUpTo a.length tokens) (more.map (Lexeme.later n)) := by
    refine settled.imp_right fun ⟨apart, resumes⟩ => ⟨apart, ?_⟩
    rw [List.head?_map]
    rintro lexeme member
    obtain ⟨first, head, rfl⟩ := Option.mem_map.mp member
    exact resumes first head
  have allInside : ∀ lexeme ∈ tokens ++ more.map (Lexeme.later n), lexeme.token ≠ .endOfInput := by
    intro lexeme member
    rcases List.mem_append.mp member with early | late
    · exact inside lexeme early
    · obtain ⟨first, among, rfl⟩ := List.mem_map.mp late
      exact insideMore first among
  have whole : (tokens ++ [Lexeme.mk .endOfInput a.length]).dropLast ++
      (more ++ [Lexeme.mk .endOfInput b.length]).map (Lexeme.later n) =
        tokens ++ more.map (Lexeme.later n) ++ [⟨.endOfInput, b.length + n⟩] := by
    simp [Lexeme.later]
  calc
    Query.parse (a ++ blanks ++ b)
        = .ok (Query.ofLexemes (tokens ++ more.map (Lexeme.later n) ++
            [⟨.endOfInput, b.length + n⟩])) := by
          rw [Query.parse, joined, whole]
          rfl
    _ = .ok (parseUpTo a.length tokens ++
            parseUpTo (b.length + n) (more.map (Lexeme.later n))) := by
          rw [of_lexemes_ended _ _ allInside, parse_up_to_append _ _ tokens _ bounded resumes]
    _ = _ := by
          rw [parse_up_to_later, of_lexemes_ended tokens _ inside,
            of_lexemes_ended more _ insideMore]

theorem parse_of_complete (a blanks b : String) (before behind : Query)
    (blank : ∀ c ∈ blanks.toList, Text.isBlank c = true) (apart : blanks ≠ "")
    (read : Query.parse a = .ok before) (complete : before.errors = [])
    (readBehind : Query.parse b = .ok behind) :
    Query.parse (a ++ blanks ++ b) =
      .ok (before ++ behind.later (a.length + blanks.length)) := by
  obtain ⟨tokens, readTokens, rfl⟩ := (parse_ok_iff a before).mp read
  obtain ⟨more, readMore, rfl⟩ := (parse_ok_iff b behind).mp readBehind
  exact parse_of_settled a blanks b tokens more blank apart readTokens readMore (.inl complete)

end Parser

namespace Query

theorem parse_juxtaposed (a blanks b : String) (before : Query) (lexemes : List Lexeme)
    (read : parse a = .ok before) (readBehind : tokenize b = .ok lexemes)
    (blank : ∀ c ∈ blanks.toList, Text.isBlank c = true) (apart : blanks ≠ "")
    (settled : before.errors = [] ∨
      (∀ error ∈ before.errors, error.position ≠ a.length) ∧
        ∃ first ∈ lexemes.head?,
          first.token = .endOfInput ∨ Parser.beginsClause first.token = true) :
    ∃ behind, parse b = .ok behind ∧
      parse (a ++ blanks ++ b) = .ok (before ++ behind.later (a.length + blanks.length)) := by
  obtain ⟨tokens, readTokens, rfl⟩ := (Parser.parse_ok_iff a before).mp read
  refine ⟨ofLexemes lexemes, (Parser.parse_ok_iff b _).mpr ⟨lexemes, readBehind, rfl⟩, ?_⟩
  apply Parser.parse_of_settled a blanks b tokens lexemes blank apart readTokens readBehind
  refine settled.imp_right fun ⟨inside, first, head, resumes⟩ => ⟨inside, ?_⟩
  intro lexeme member
  obtain ⟨rest, rfl⟩ := List.head?_eq_some_iff.mp head
  by_cases ended : first.token = .endOfInput
  · simp [Parser.body, ended] at member
  · have same : first = lexeme := by simpa [Parser.body, ended] using member
    exact same ▸ resumes.resolve_left ended

theorem skipped_before_clause :
    let a := "@: )|"
    let b := "-due:x @"
    let before : Query := { errors := [⟨.mentionName .colon, 1⟩] }
    let lexemes : List Lexeme :=
      [⟨.minus, 0⟩, ⟨.field .due, 1⟩, ⟨.colon, 4⟩, ⟨.value "x", 5⟩, ⟨.atSign, 7⟩, ⟨.endOfInput, 8⟩]
    parse a = .ok before ∧ tokenize b = .ok lexemes ∧
      ∃ behind, parse b = .ok behind ∧
        parse (a ++ " \n " ++ b) = .ok (before ++ behind.later (a.length + " \n ".length)) := by
  intro a b before lexemes
  have read : parse a = .ok before := by decide +kernel
  have readBehind : tokenize b = .ok lexemes := by decide +kernel
  have blank : ∀ c ∈ " \n ".toList, Text.isBlank c = true := by
    simp [Text.isBlank, Text.inRanges, Text.blankRanges]
  have length : a.length = 5 := by decide
  have inside : ∀ error ∈ before.errors, error.position ≠ a.length := by simp [before, length]
  have resumes : ∃ first ∈ lexemes.head?,
      first.token = .endOfInput ∨ Parser.beginsClause first.token = true :=
    ⟨⟨.minus, 0⟩, rfl, .inr rfl⟩
  exact ⟨read, readBehind, parse_juxtaposed a " \n " b before lexemes read readBehind blank
    (by decide) (.inr ⟨inside, resumes⟩)⟩

end Query

end TaskSearch
