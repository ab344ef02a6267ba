import Mathlib.Data.List.Forall2
import TaskSearch.Proofs.Query.Segments

set_option autoImplicit false

namespace TaskSearch.Parser

inductive Respaced (place : Nat → Nat → Prop) : List Lexeme → List Lexeme → Prop where
  | nil : Respaced place [] []
  | cons {x y : Lexeme} {a b : List Lexeme} (token : x.token = y.token)
      (placed : place x.position y.position)
      (joined : x.token = .less ∨ x.token = .greater →
        equalsAt x.position a = equalsAt y.position b)
      (rest : Respaced place a b) : Respaced place (x :: a) (y :: b)

structure SameReading {α : Type} (place : Nat → Nat → Prop) (x y : Reading α) : Prop where
  result : x.1 = y.1
  left : Respaced place x.2 y.2

structure SameQuery (place : Nat → Nat → Prop) (x y : Query) : Prop where
  clauses : x.clauses = y.clauses
  freeText : x.freeText = y.freeText
  errors : List.Forall₂ (fun e f => e.fault = f.fault ∧ place e.position f.position)
    x.errors y.errors

section

variable {place : Nat → Nat → Prop} {a b : List Lexeme} (spaced : Respaced place a b)

include spaced

theorem current_respaced : current a = current b := by
  cases spaced with
  | nil => rfl
  | cons token placed joined rest => exact token

theorem tail_respaced : Respaced place a.tail b.tail := by
  cases spaced with
  | nil => exact .nil
  | cons token placed joined rest => exact rest

theorem tail_if_respaced (flag : Bool) :
    Respaced place (if flag then a.tail else a) (if flag then b.tail else b) := by
  cases flag with
  | false => exact spaced
  | true => exact tail_respaced spaced

theorem position_respaced (stop last : Nat) (ends : place stop last) :
    place (positionOf stop a) (positionOf last b) := by
  cases spaced with
  | nil => exact ends
  | cons token placed joined rest => exact placed

theorem synchronize_respaced : Respaced place (synchronize a) (synchronize b) := by
  induction spaced with
  | nil => exact .nil
  | cons token placed joined rest ih =>
      rename_i x y a b
      by_cases begins : beginsClause y.token = true
      · simpa [synchronize, List.dropWhile_cons, token, begins] using
          Respaced.cons token placed joined rest
      · simpa [synchronize, List.dropWhile_cons, token, begins] using ih

theorem read_value_respaced (fault : Token → ParseFault) :
    SameReading place (readValue fault a) (readValue fault b) := by
  unfold readValue
  rw [current_respaced spaced]
  cases valueOf? (current b) with
  | none => exact ⟨rfl, spaced⟩
  | some value => exact ⟨rfl, tail_respaced spaced⟩

theorem read_mention_respaced : SameReading place (readMention a) (readMention b) := by
  unfold readMention
  rw [current_respaced spaced]
  have reading := read_value_respaced (tail_if_respaced spaced (current b == .tilde)) .mentionName
  exact ⟨congrArg (Except.map _) reading.result, reading.left⟩

theorem read_negated_respaced : SameReading place (readNegated a) (readNegated b) := by
  have afterField := tail_respaced spaced
  have afterColon := tail_respaced afterField
  unfold readNegated
  rw [current_respaced spaced]
  cases current b with
  | field field =>
      dsimp only
      rw [current_respaced afterField, current_respaced afterColon]
      split
      · split
        · exact ⟨rfl, afterColon⟩
        · have reading := read_value_respaced afterColon (.negatedValue field)
          exact ⟨congrArg (Except.map _) reading.result, reading.left⟩
      · exact ⟨rfl, afterField⟩
  | _ => exact ⟨rfl, spaced⟩

theorem read_comparator_respaced :
    (readComparator a).1 = (readComparator b).1 ∧
      Respaced place (readComparator a).2 (readComparator b).2 := by
  cases spaced with
  | nil => exact ⟨rfl, .nil⟩
  | cons token placed joined rest =>
      rename_i x y a b
      obtain ⟨first, p⟩ := x
      obtain ⟨second, q⟩ := y
      dsimp only at token
      subst token
      cases first with
      | equals | notEquals => exact ⟨rfl, rest⟩
      | less | greater =>
          simp only [readComparator, joined (by simp)]
          split
          · exact ⟨rfl, tail_respaced rest⟩
          · exact ⟨rfl, rest⟩
      | _ => exact ⟨rfl, .cons rfl placed joined rest⟩

theorem read_comparison_respaced (field : Field) :
    SameReading place (readComparison field a) (readComparison field b) := by
  unfold readComparison
  rw [current_respaced spaced]
  obtain ⟨sign, left⟩ := read_comparator_respaced (tail_if_respaced spaced (current b == .colon))
  dsimp only
  rw [sign]
  split
  · have reading := read_value_respaced left (.value field)
    exact ⟨congrArg (Except.map _) reading.result, reading.left⟩
  · exact ⟨congrArg (Except.error ∘ ParseFault.operator field) (current_respaced left), left⟩

theorem read_clause_respaced (first : Token) (result : Except ParseFault Clause)
    (left : List Lexeme) (read : readClause? first a = some (result, left)) :
    ∃ left', readClause? first b = some (result, left') ∧ Respaced place left left' := by
  have moved (x y : Reading Clause) (same : SameReading place x y) (here : x = (result, left)) :
      ∃ left', some y = some (result, left') ∧ Respaced place left left' := by
    subst here
    exact ⟨y.2, congrArg some (Prod.ext same.result.symm rfl), same.left⟩
  cases first with
  | atSign => exact moved _ _ (read_mention_respaced spaced) (Option.some.inj read)
  | minus => exact moved _ _ (read_negated_respaced spaced) (Option.some.inj read)
  | field field => exact moved _ _ (read_comparison_respaced spaced field) (Option.some.inj read)
  | _ => cases read

end

theorem same_query_append (place : Nat → Nat → Prop) (x y x' y' : Query)
    (first : SameQuery place x y) (second : SameQuery place x' y') :
    SameQuery place (x ++ x') (y ++ y') where
  clauses := congrArg₂ (· ++ ·) first.clauses second.clauses
  freeText := congrArg₂ (· ++ ·) first.freeText second.freeText
  errors := List.rel_append first.errors second.errors

theorem outside_whatever (first : Token) (rest other : List Lexeme)
    (outside : readClause? first rest = none) : readClause? first other = none := by
  cases first with
  | atSign | minus | field => cases outside
  | _ => rfl

section

variable (stop : Nat) (lexeme : Lexeme) (rest left : List Lexeme)

theorem parse_clause (clause : Clause)
    (read : readClause? lexeme.token rest = some (.ok clause, left)) :
    parseUpTo stop (lexeme :: rest) = { clauses := [clause] } ++ parseUpTo stop left := by
  rw [parseUpTo]
  split
  all_goals simp_all

theorem parse_fault (fault : ParseFault)
    (read : readClause? lexeme.token rest = some (.error fault, left)) :
    parseUpTo stop (lexeme :: rest) =
      { errors := [⟨fault, positionOf stop left⟩] } ++ parseUpTo stop (synchronize left) := by
  rw [parseUpTo]
  split
  all_goals simp_all

theorem parse_outside (read : readClause? lexeme.token rest = none) :
    parseUpTo stop (lexeme :: rest) =
      match lexeme.token with
      | .value word | .number word => { freeText := [word] } ++ parseUpTo stop rest
      | _ => parseUpTo stop rest := by
  rw [parseUpTo]
  split
  · simp_all
  · simp_all
  · cases lexeme.token <;> rfl

end

theorem parse_up_to_respaced (place : Nat → Nat → Prop) (stop last : Nat) (ends : place stop last)
    (a b : List Lexeme) (spaced : Respaced place a b) :
    SameQuery place (parseUpTo stop a) (parseUpTo last b) := by
  fun_induction parseUpTo stop a generalizing b with
  | case1 =>
      cases spaced
      rw [parseUpTo]
      exact ⟨rfl, rfl, .nil⟩
  | case2 lexeme rest clause left read ih =>
      cases spaced with
      | cons token placed joined spaced =>
          rw [token] at read
          obtain ⟨left', again, same⟩ := read_clause_respaced spaced _ _ left read
          rw [parse_clause last _ _ left' clause again]
          exact same_query_append place _ _ _ _ ⟨rfl, rfl, .nil⟩ (ih left' same)
  | case3 lexeme rest fault left read ih =>
      cases spaced with
      | cons token placed joined spaced =>
          rw [token] at read
          obtain ⟨left', again, same⟩ := read_clause_respaced spaced _ _ left read
          rw [parse_fault last _ _ left' fault again]
          refine same_query_append place _ _ _ _ ⟨rfl, rfl, .cons ⟨rfl, ?_⟩ .nil⟩ ?_
          · exact position_respaced same stop last ends
          · exact ih _ (synchronize_respaced same)
  | case4 lexeme rest none word written ih | case5 lexeme rest none word written ih =>
      cases spaced with
      | cons token placed joined spaced =>
          rw [token] at none written
          rw [parse_outside last _ _ (outside_whatever _ _ _ none), written]
          exact same_query_append place _ _ _ _ ⟨rfl, rfl, .nil⟩ (ih _ spaced)
  | case6 lexeme rest none noWord noNumber ih =>
      cases spaced with
      | cons token placed joined spaced =>
          rw [token] at none noWord noNumber
          rw [parse_outside last _ _ (outside_whatever _ _ _ none)]
          split
          · exact absurd ‹_› (noWord _)
          · exact absurd ‹_› (noNumber _)
          · exact ih _ spaced

end TaskSearch.Parser
