import TaskSearch.Proofs.Query.Respacing

set_option autoImplicit false

namespace TaskSearch.Parser

-- Whether an angle sign stands at a place with an equals sign directly behind it.
def Fused (lexemes : List Lexeme) (place : Nat) : Prop :=
  ∃ sign ∈ lexemes[place]?, (sign.token = .less ∨ sign.token = .greater) ∧
    lexemes[place + 1]? = some ⟨.equals, sign.position + 1⟩

instance (lexemes : List Lexeme) (place : Nat) : Decidable (Fused lexemes place) :=
  inferInstanceAs (Decidable (∃ sign ∈ lexemes[place]?, _ ∧ _))

structure SameTokens (a b : List Lexeme) : Prop where
  tokens : a.map (·.token) = b.map (·.token)
  fused : ∀ place, Fused a place ↔ Fused b place

theorem fused_inside (lexemes : List Lexeme) (place : Nat) (fused : Fused lexemes place) :
    place < lexemes.length := by
  obtain ⟨sign, here, -⟩ := fused
  exact (List.getElem?_eq_some_iff.mp here).1

theorem same_tokens_iff (a b : List Lexeme) :
    SameTokens a b ↔ a.map (·.token) = b.map (·.token) ∧
      ∀ place < a.length, Fused a place ↔ Fused b place := by
  constructor
  · intro same
    exact ⟨same.tokens, fun place _ => same.fused place⟩
  · intro ⟨tokens, inside⟩
    have length : a.length = b.length := by simpa using congrArg List.length tokens
    refine ⟨tokens, fun place => ⟨fun fused => ?_, fun fused => ?_⟩⟩
    · exact (inside place (fused_inside a place fused)).mp fused
    · exact (inside place (length ▸ fused_inside b place fused)).mpr fused

instance (a b : List Lexeme) : Decidable (SameTokens a b) :=
  decidable_of_iff _ (same_tokens_iff a b).symm

def ended (lexemes : List Lexeme) : List Lexeme :=
  if lexemes.getLast?.any (·.token == .endOfInput) then lexemes
  else lexemes ++ [⟨.endOfInput, (lexemes.getLast?.map (·.position + 1)).getD 0⟩]

def positionAt? (lexemes : List Lexeme) (place : Nat) : Option Nat :=
  (ended lexemes)[place]?.map (·.position)

theorem fused_first_iff (sign : Lexeme) (rest : List Lexeme)
    (angle : sign.token = .less ∨ sign.token = .greater) :
    Fused (sign :: rest) 0 ↔ equalsAt sign.position rest = true := by
  cases rest with
  | nil => simp [Fused, equalsAt]
  | cons next rest =>
      obtain ⟨token, position⟩ := next
      simp [Fused, equalsAt, angle]

theorem same_tokens_tail (x y : Lexeme) (a b : List Lexeme) (same : SameTokens (x :: a) (y :: b)) :
    SameTokens a b where
  tokens := (List.cons.inj same.tokens).2
  fused place := same.fused (place + 1)

theorem same_tokens_refl (lexemes : List Lexeme) : SameTokens lexemes lexemes :=
  ⟨rfl, fun _ => Iff.rfl⟩

theorem same_tokens_left (a b c : List Lexeme) (first : SameTokens a b) (second : SameTokens a c) :
    SameTokens b c where
  tokens := first.tokens.symm.trans second.tokens
  fused place := (first.fused place).symm.trans (second.fused place)

theorem equals_at_body (position : Nat) (lexemes : List Lexeme) :
    equalsAt position (body lexemes) = equalsAt position lexemes := by
  cases lexemes with
  | nil => rfl
  | cons lexeme rest =>
      by_cases ends : lexeme.token = .endOfInput
      · simp [body, equalsAt, ends]
      · simp [body, equalsAt, ends]

theorem body_respaced (place : Nat → Nat → Prop) (a b : List Lexeme) (same : SameTokens a b)
    (placed : ∀ (i : Nat) (x y : Lexeme), a[i]? = some x → b[i]? = some y →
      place x.position y.position) :
    Respaced place (body a) (body b) := by
  induction a generalizing b with
  | nil =>
      obtain rfl : b = [] := List.map_eq_nil_iff.mp same.tokens.symm
      exact .nil
  | cons x a ih =>
      cases b with
      | nil => cases same.tokens
      | cons y b =>
          have token : x.token = y.token := (List.cons.inj same.tokens).1
          have rest := ih b (same_tokens_tail x y a b same) fun i => placed (i + 1)
          by_cases ends : y.token = .endOfInput
          · simpa [body, token, ends] using Respaced.nil
          · have joined (angle : x.token = .less ∨ x.token = .greater) :
                equalsAt x.position (body a) = equalsAt y.position (body b) := by
              rw [equals_at_body, equals_at_body, Bool.eq_iff_iff, ← fused_first_iff x a angle,
                ← fused_first_iff y b (token ▸ angle)]
              exact same.fused 0
            simpa [body, token, ends] using
              Respaced.cons token (placed 0 x y rfl rfl) joined rest

theorem respaced_length (place : Nat → Nat → Prop) (a b : List Lexeme)
    (spaced : Respaced place a b) : a.length = b.length := by
  induction spaced with
  | nil => rfl
  | cons token placed joined rest ih => exact congrArg (· + 1) ih

theorem last_inside (lexemes : List Lexeme) (position : Nat) (after : List Lexeme)
    (whole : lexemes = body lexemes ++ ⟨.endOfInput, position⟩ :: after) :
    lexemes[(body lexemes).length]? = some ⟨.endOfInput, position⟩ := by
  have split := congrArg (·[(body lexemes).length]?) whole
  rwa [List.getElem?_append_right (Nat.le_refl _), Nat.sub_self] at split

theorem ended_inside (lexemes : List Lexeme) (place : Nat) (lexeme : Lexeme)
    (here : lexemes[place]? = some lexeme) : (ended lexemes)[place]? = some lexeme := by
  unfold ended
  split
  · exact here
  · obtain ⟨inside, _⟩ := List.getElem?_eq_some_iff.mp here
    rwa [List.getElem?_append_left inside]

theorem position_at_end (lexemes : List Lexeme) :
    positionAt? lexemes (body lexemes).length = some (endPosition lexemes) := by
  rcases Grammar.end_cases lexemes with ⟨position, after, whole, ends⟩ | ⟨inside, whole, ends⟩
  · rw [positionAt?, ended_inside lexemes _ _ (last_inside lexemes position after whole), ends]
    rfl
  · have unended : ¬ lexemes.getLast?.any (·.token == .endOfInput) = true := by
      rw [Option.any_eq_true]
      intro ⟨last, found, isEnd⟩
      exact inside last (List.mem_of_getLast? found) (by simpa using isEnd)
    rw [positionAt?, ended, if_neg unended, whole, ends]
    simp

-- The row with its lexemes three apart, but for an equals sign that is fused with the one before it.
-- There the places can be read off the positions, also that of an end which is added.
def spread (lexemes : List Lexeme) : List Lexeme :=
  lexemes.mapIdx fun place lexeme =>
    ⟨lexeme.token,
      if 0 < place ∧ Fused lexemes (place - 1) then 3 * (place - 1) + 1 else 3 * place⟩

def placeOf (position : Nat) : Nat :=
  position / 3 + position % 3

theorem spread_at (lexemes : List Lexeme) (place : Nat) (lexeme : Lexeme)
    (here : (spread lexemes)[place]? = some lexeme) :
    lexeme.position = 3 * place ∨ 0 < place ∧ lexeme.position = 3 * (place - 1) + 1 := by
  rw [spread, List.getElem?_mapIdx] at here
  obtain ⟨original, -, rfl⟩ := Option.map_eq_some_iff.mp here
  by_cases behind : 0 < place ∧ Fused lexemes (place - 1)
  · exact .inr ⟨behind.1, if_pos behind⟩
  · exact .inl (if_neg behind)

theorem fused_spread_iff (lexemes : List Lexeme) (place : Nat) :
    Fused (spread lexemes) place ↔ Fused lexemes place := by
  -- An angle sign is no equals sign, so it is never moved itself.
  have unmoved (sign : Lexeme) (here : lexemes[place]? = some sign)
      (angle : sign.token = .less ∨ sign.token = .greater) :
      ¬ (0 < place ∧ Fused lexemes (place - 1)) := by
    intro ⟨later, _, _, _, equals⟩
    rw [Nat.sub_add_cancel later, here] at equals
    simp [Option.some.inj equals] at angle
  constructor
  · intro ⟨sign, here, angle, next⟩
    simp only [spread, List.getElem?_mapIdx, Option.mem_def, Option.map_eq_some_iff] at here next
    obtain ⟨sign, here, rfl⟩ := here
    obtain ⟨equals, -, same⟩ := next
    rw [if_neg (unmoved sign here angle)] at same
    by_cases fused : Fused lexemes place
    · exact fused
    · rw [if_neg fun behind => fused behind.2] at same
      have position : 3 * (place + 1) = 3 * place + 1 := congrArg Lexeme.position same
      omega
  · intro fused
    obtain ⟨sign, here, angle, next⟩ := id fused
    refine ⟨⟨sign.token, 3 * place⟩, ?_, angle, ?_⟩
    · simp [spread, Option.mem_def.mp here, unmoved sign here angle]
    · simp [spread, next, fused]

theorem same_tokens_spread (lexemes : List Lexeme) : SameTokens lexemes (spread lexemes) where
  tokens := by
    refine List.ext_getElem? fun place => ?_
    simp only [spread, List.getElem?_map, List.getElem?_mapIdx, Option.map_map]
    rfl
  fused place := (fused_spread_iff lexemes place).symm

theorem place_of_spread (lexemes : List Lexeme) (place : Nat) (lexeme : Lexeme)
    (here : (spread lexemes)[place]? = some lexeme) : placeOf lexeme.position = place := by
  rw [placeOf]
  rcases spread_at lexemes place lexeme here with free | ⟨later, behind⟩ <;> omega

theorem place_of_end (lexemes : List Lexeme) :
    placeOf (endPosition (spread lexemes)) = (body (spread lexemes)).length := by
  rcases Grammar.end_cases (spread lexemes) with ⟨position, after, whole, ends⟩ | ⟨-, whole, ends⟩
  · rw [ends]
    exact place_of_spread lexemes _ _ (last_inside _ position after whole)
  · rw [ends, whole, placeOf, List.getLast?_eq_getElem?]
    cases last : (spread lexemes)[(spread lexemes).length - 1]? with
    | none =>
        rw [List.getElem?_eq_none_iff] at last
        simp only [Option.map_none, Option.getD_none]
        omega
    | some lexeme =>
        obtain ⟨inside, -⟩ := List.getElem?_eq_some_iff.mp last
        simp only [Option.map_some, Option.getD_some]
        rcases spread_at lexemes _ lexeme last with free | ⟨later, behind⟩ <;> omega

theorem of_lexemes_spread (a b : List Lexeme) (same : SameTokens a b) :
    SameQuery (fun p q => positionAt? b (placeOf p) = some q) (Query.ofLexemes (spread a))
      (Query.ofLexemes b) := by
  have alike := same_tokens_left a _ _ (same_tokens_spread a) same
  have spaced : Respaced (fun p q => positionAt? b (placeOf p) = some q) (body (spread a))
      (body b) := by
    refine body_respaced _ _ _ alike fun place x y here there => ?_
    rw [place_of_spread a place x here, positionAt?, ended_inside b place y there]
    rfl
  refine parse_up_to_respaced _ _ _ ?_ _ _ spaced
  rw [place_of_end, respaced_length _ _ _ spaced]
  exact position_at_end b

end TaskSearch.Parser

open TaskSearch.Parser

namespace TaskSearch.Query

structure Alike (x y : Query) : Prop where
  clauses : x.clauses = y.clauses
  freeText : x.freeText = y.freeText
  messages : x.errors.map (·.message) = y.errors.map (·.message)

theorem alike_of_same (place : Nat → Nat → Prop) (x y : Query) (same : SameQuery place x y) :
    Alike x y where
  clauses := same.clauses
  freeText := same.freeText
  messages := by
    rw [← List.forall₂_eq_eq_eq, List.forall₂_map_left_iff, List.forall₂_map_right_iff]
    exact same.errors.imp fun e f alike => congrArg ParseFault.message alike.1

section

variable (a b : List Lexeme) (same : SameTokens a b)

include same

theorem of_lexemes_alike : Alike (ofLexemes a) (ofLexemes b) := by
  have toA := alike_of_same _ _ _ (of_lexemes_spread a a (same_tokens_refl a))
  have toB := alike_of_same _ _ _ (of_lexemes_spread a b same)
  exact ⟨toA.clauses.symm.trans toB.clauses, toA.freeText.symm.trans toB.freeText,
    toA.messages.symm.trans toB.messages⟩

theorem errors_placed :
    List.Forall₂ (fun error place => positionAt? b place = some error.position)
      (ofLexemes b).errors ((ofLexemes (spread a)).errors.map (placeOf ·.position)) := by
  rw [List.forall₂_map_right_iff]
  exact (of_lexemes_spread a b same).errors.flip.imp fun e f alike => alike.2

end

theorem spacing_ignored (a : List Lexeme) :
    (∃ places : List Nat, ∀ b, SameTokens a b →
      Alike (ofLexemes a) (ofLexemes b) ∧
        List.Forall₂ (fun error place => positionAt? b place = some error.position)
          (ofLexemes b).errors places) ∧
    ∀ text other b, tokenize text = .ok a → tokenize other = .ok b → SameTokens a b →
      ∃ x y, parse text = .ok x ∧ parse other = .ok y ∧ Alike x y := by
  refine ⟨⟨(ofLexemes (spread a)).errors.map (placeOf ·.position), fun b same => ?_⟩, ?_⟩
  · exact ⟨of_lexemes_alike a b same, errors_placed a b same⟩
  · intro text other b read readOther same
    refine ⟨ofLexemes a, ofLexemes b, ?_, ?_, of_lexemes_alike a b same⟩
    · rw [parse, read, Except.map]
    · rw [parse, readOther, Except.map]

theorem blanks_around_signs :
    let a : List Lexeme := [⟨.field .due, 0⟩, ⟨.less, 3⟩, ⟨.equals, 4⟩, ⟨.value "x", 5⟩,
      ⟨.atSign, 7⟩, ⟨.colon, 8⟩, ⟨.endOfInput, 9⟩]
    let b : List Lexeme := [⟨.field .due, 1⟩, ⟨.less, 5⟩, ⟨.equals, 6⟩, ⟨.value "x", 8⟩,
      ⟨.atSign, 10⟩, ⟨.colon, 13⟩, ⟨.endOfInput, 14⟩]
    tokenize "due<=x @:" = .ok a ∧ tokenize " due <= x @  :" = .ok b ∧ SameTokens a b ∧
      (ofLexemes a).errors.map (·.position) = [8] ∧ (ofLexemes b).errors.map (·.position) = [13] ∧
      (∃ places, List.Forall₂ (fun error place => positionAt? a place = some error.position)
          (ofLexemes a).errors places ∧
        List.Forall₂ (fun error place => positionAt? b place = some error.position)
          (ofLexemes b).errors places) ∧
      (∃ x y, parse "due<=x @:" = .ok x ∧ parse " due <= x @  :" = .ok y ∧ Alike x y) ∧
      ∃ x y, parse "due<=x @:" = .ok x ∧ parse "due< =x @:" = .ok y ∧ x.clauses ≠ y.clauses := by
  intro a b
  have read : tokenize "due<=x @:" = .ok a := by decide +kernel
  have readOther : tokenize " due <= x @  :" = .ok b := by decide +kernel
  have same : SameTokens a b := by decide
  obtain ⟨⟨places, placed⟩, texts⟩ := spacing_ignored a
  refine ⟨read, readOther, same, by decide +kernel, by decide +kernel, ?_,
    texts _ _ b read readOther same, ?_⟩
  · exact ⟨places, (placed a (same_tokens_refl a)).2, (placed b same).2⟩
  · exact ⟨{ clauses := [⟨.due, .lessEqual, "x", false, false⟩],
             errors := [⟨.mentionName .colon, 8⟩] },
      { errors := [⟨.value .due .equals, 5⟩, ⟨.mentionName .colon, 9⟩] },
      by decide +kernel, by decide +kernel, by decide⟩

end TaskSearch.Query
