import Mathlib.Data.List.Forall2
import Mathlib.Data.List.Induction
import Mathlib.Data.List.Nodup
import TaskSearch.Proofs.Query.Segments

set_option autoImplicit false

open TaskSearch.Parser

namespace TaskSearch.Grammar

-- Whether a lexeme is the first one with which an input no longer begins like some clause.
def FirstUnfit (input : List Lexeme) (found : Lexeme) : Prop :=
  ∃ begun rest, input = begun ++ found :: rest ∧ Viable begun ∧ ¬ Viable (begun ++ [found])

-- The rest of the input from the start of each failed segment on, up to the end.
def failures (ending : Lexeme) : List Segment → List (List Lexeme)
  | [] => []
  | .failed begun skipped :: segments =>
      (begun ++ (skipped ++ segments.flatMap Segment.lexemes ++ [ending])) ::
        failures ending segments
  | _ :: segments => failures ending segments

def Segment.value? : Segment → Option Lexeme
  | .clause part _ => part.getLast?
  | _ => none

def negatedField? : List Lexeme → Option Lexeme
  | ⟨.minus, _⟩ :: ⟨.field field, position⟩ :: _ => some ⟨.field field, position⟩
  | _ => none

-- Whether a lexeme starts a clause, well-formed or not: values and negated fields do not.
def IsStart (segments : List Segment) (lexeme : Lexeme) : Prop :=
  beginsClause lexeme.token = true ∧ lexeme ∉ segments.filterMap Segment.value? ∧
    lexeme ∉ segments.filterMap (negatedField? ·.lexemes)

instance (segments : List Segment) (lexeme : Lexeme) : Decidable (IsStart segments lexeme) :=
  inferInstanceAs (Decidable (_ ∧ _ ∧ _))

-- What stands between the first token of a clause and its value.
inductive Inner : Token → List Lexeme → Prop where
  | negated (field : Field) (p q : Nat) : Inner .minus [⟨.field field, p⟩, ⟨.colon, q⟩]
  | signs {first : Token} {inner : List Lexeme}
      (plain : ∀ lexeme ∈ inner, beginsClause lexeme.token = false) : Inner first inner

theorem derives_inner (part : List Lexeme) (clause : Clause) (derives : Derives part clause) :
    ∃ first inner value, part = first :: (inner ++ [value]) ∧
      beginsClause first.token = true ∧ Inner first.token inner := by
  cases derives with
  | mention p q mark value =>
      refine ⟨_, _, _, rfl, rfl, .signs ?_⟩
      cases mark <;> simp [beginsClause]
  | negated p q r s value => exact ⟨_, [_, _], _, rfl, rfl, .negated _ _ _⟩
  | comparison p q mark spelled meant value =>
      refine ⟨_, _, _, by rw [← List.append_assoc], rfl, .signs ?_⟩
      cases mark <;> cases spelled <;> simp [beginsClause]

theorem value_not_end (token : Token) (text : String) (value : IsValue token text) :
    token ≠ .endOfInput := by
  cases value <;> simp

theorem derives_no_end (part : List Lexeme) (clause : Clause) (derives : Derives part clause) :
    ∀ lexeme ∈ part, lexeme.token ≠ .endOfInput := by
  cases derives with
  | mention p q mark value =>
      have last := value_not_end _ _ value
      cases mark <;> simp [last]
  | negated p q r s value =>
      have last := value_not_end _ _ value
      simp [last]
  | comparison p q mark spelled meant value =>
      have last := value_not_end _ _ value
      cases mark <;> cases spelled <;> simp [last]

theorem viable_inner (first : Lexeme) (used : List Lexeme) (viable : Viable (first :: used))
    (unfinished : ∀ clause, ¬ Derives (first :: used) clause) :
    ∃ inner, used <+: inner ∧ Inner first.token inner := by
  obtain ⟨more, clause, derives⟩ := viable
  obtain ⟨lexeme, inner, value, whole, -, between⟩ := derives_inner _ clause derives
  obtain ⟨rfl, tails⟩ := List.cons.inj whole
  refine ⟨inner, ?_, between⟩
  cases more using List.reverseRecOn with
  | nil => exact absurd (by simpa using derives) (unfinished clause)
  | append_singleton more last =>
      have same : used ++ more ++ [last] = inner ++ [value] := by
        rw [List.append_assoc]
        exact tails
      exact ⟨more, (List.append_inj' same rfl).1⟩

theorem inner_starts (first : Lexeme) (inner used behind : List Lexeme) (lexeme : Lexeme)
    (between : Inner first.token inner) (front : used <+: inner) (member : lexeme ∈ used)
    (begins : beginsClause lexeme.token = true) :
    negatedField? (first :: (used ++ behind)) = some lexeme := by
  obtain ⟨token, position⟩ := first
  cases between with
  | signs plain => exact absurd begins (by simp [plain lexeme (front.subset member)])
  | negated field p q =>
      have among := front.subset member
      simp only [List.mem_cons, List.not_mem_nil, or_false] at among
      rcases among with rfl | rfl
      · obtain ⟨rest, whole⟩ := front
        cases used with
        | nil => simp at member
        | cons head used =>
            obtain ⟨rfl, -⟩ := List.cons.inj whole
            rfl
      · simp [beginsClause] at begins

theorem negated_field_mem (first : Lexeme) (rest : List Lexeme) (lexeme : Lexeme)
    (negated : negatedField? (first :: rest) = some lexeme) : lexeme ∈ rest := by
  unfold negatedField? at negated
  split at negated <;> simp_all

theorem value_mem (segment : Segment) (lexeme : Lexeme) (value : segment.value? = some lexeme) :
    lexeme ∈ segment.lexemes := by
  cases segment with
  | clause part clause => exact List.mem_of_getLast? value
  | failed | word | stray => cases value

theorem negated_mem (segment : Segment) (lexeme : Lexeme)
    (negated : negatedField? segment.lexemes = some lexeme) : lexeme ∈ segment.lexemes := by
  cases lexemes : segment.lexemes with
  | nil => simp [lexemes, negatedField?] at negated
  | cons first rest =>
      rw [lexemes] at negated
      exact List.mem_cons_of_mem _ (negated_field_mem first rest lexeme negated)

theorem is_start_cons (segment : Segment) (segments : List Segment) (lexeme : Lexeme) :
    IsStart (segment :: segments) lexeme ↔ IsStart [segment] lexeme ∧ IsStart segments lexeme := by
  simp only [IsStart, List.mem_filterMap, List.mem_cons, List.not_mem_nil, or_false,
    exists_eq_or_imp, exists_eq_left, not_or]
  tauto

theorem is_start_outside (segments : List Segment) (lexeme : Lexeme)
    (begins : beginsClause lexeme.token = true)
    (outside : lexeme ∉ segments.flatMap Segment.lexemes) : IsStart segments lexeme := by
  refine ⟨begins, fun value => ?_, fun negated => ?_⟩
  · obtain ⟨segment, among, same⟩ := List.mem_filterMap.mp value
    exact outside (List.mem_flatMap.mpr ⟨segment, among, value_mem segment lexeme same⟩)
  · obtain ⟨segment, among, same⟩ := List.mem_filterMap.mp negated
    exact outside (List.mem_flatMap.mpr ⟨segment, among, negated_mem segment lexeme same⟩)

def Segment.start? (segment : Segment) : Option Lexeme :=
  if segment.isAttempt then segment.lexemes.head? else none

theorem starts_of_attempt (segment : Segment) (first : Lexeme) (rest : List Lexeme)
    (whole : segment.lexemes = first :: rest) (apart : first ∉ rest)
    (begins : beginsClause first.token = true)
    (valued : ∀ lexeme, segment.value? = some lexeme → lexeme ∈ rest)
    (others : ∀ lexeme ∈ rest, beginsClause lexeme.token = true →
      segment.value? = some lexeme ∨ negatedField? segment.lexemes = some lexeme) :
    segment.lexemes.filter (IsStart [segment]) = [first] := by
  have started : IsStart [segment] first := by
    refine ⟨begins, fun value => apart ?_, fun negated => apart ?_⟩
    · exact valued first (by simpa using value)
    · exact negated_field_mem first rest first (by simpa [whole] using negated)
  have alone : rest.filter (IsStart [segment]) = [] := by
    refine List.filter_eq_nil_iff.mpr fun lexeme member => ?_
    intro start
    obtain ⟨begins, noValue, noField⟩ := of_decide_eq_true start
    rcases others lexeme member begins with value | negated
    · exact noValue (by simp [value])
    · exact noField (by simp [negated])
  rw [whole, List.filter_cons_of_pos (by simpa using started), alone]

theorem starts_of_segment (segment : Segment) (after : List Lexeme) (fits : Fits segment after)
    (distinct : segment.lexemes.Nodup) :
    segment.lexemes.filter (IsStart [segment]) = segment.start?.toList := by
  cases fits with
  | clause derives =>
      rename_i part clause
      obtain ⟨first, inner, value, rfl, begins, between⟩ := derives_inner part clause derives
      have last : (Segment.clause (first :: (inner ++ [value])) clause).value? = some value := by
        rw [Segment.value?, ← List.cons_append, List.getLast?_concat]
      refine starts_of_attempt _ first (inner ++ [value]) rfl (List.nodup_cons.mp distinct).1 begins
        ?_ ?_
      · intro lexeme same
        obtain rfl := Option.some.inj (last.symm.trans same)
        simp
      · intro lexeme member starts
        rcases List.mem_append.mp member with inside | isValue
        · exact .inr (inner_starts first inner inner [value] lexeme between
            (List.prefix_refl inner) inside starts)
        · exact .inl (by rw [last, List.mem_singleton.mp isValue])
  | failed begins noClause longest passed resumed =>
      rename_i lexeme used skipped
      obtain ⟨inner, front, between⟩ := viable_inner lexeme used longest.viable fun clause derives =>
        noClause ⟨_, _, clause, rfl, derives⟩
      refine starts_of_attempt _ lexeme (used ++ skipped) rfl (List.nodup_cons.mp distinct).1 begins
        (fun _ none => nomatch none) ?_
      intro other member starts
      rcases List.mem_append.mp member with inside | behind
      · exact .inr (inner_starts lexeme inner used skipped other between front inside starts)
      · exact absurd starts (by simp [passed other behind])
  | word written =>
      rcases written with written | written <;>
        simp [Segment.lexemes, Segment.start?, Segment.isAttempt, IsStart, written, beginsClause]
  | stray begins wordless =>
      simp [Segment.lexemes, Segment.start?, Segment.isAttempt, IsStart, begins]

theorem clause_starts_eq (lexemes : List Lexeme) (segments : List Segment)
    (cut : Cut lexemes segments) (distinct : lexemes.Nodup) :
    lexemes.filter (IsStart segments) = segments.filterMap Segment.start? := by
  induction cut with
  | done => rfl
  | next fits rest ih =>
      rename_i segment after segments
      obtain ⟨own, others, apart⟩ := List.nodup_append.mp distinct
      have whole := cut_lexemes after segments rest
      have front : segment.lexemes.filter (IsStart (segment :: segments)) =
          segment.lexemes.filter (IsStart [segment]) := by
        refine List.filter_congr fun lexeme member => decide_eq_decide.mpr ?_
        rw [is_start_cons, and_iff_left_iff_imp]
        intro start
        refine is_start_outside segments lexeme start.1 fun behind => ?_
        exact apart lexeme member lexeme (whole ▸ behind) rfl
      have behind : after.filter (IsStart (segment :: segments)) =
          after.filter (IsStart segments) := by
        refine List.filter_congr fun lexeme member => decide_eq_decide.mpr ?_
        rw [is_start_cons, and_iff_right_iff_imp]
        intro start
        refine is_start_outside [segment] lexeme start.1 fun before => ?_
        exact apart lexeme (by simpa using before) lexeme member rfl
      rw [List.filter_append, front, behind, starts_of_segment segment after fits own, ih others]
      cases start : segment.start? <;> simp [start]

theorem attempts_counted (stop : Nat) (lexemes : List Lexeme) (segments : List Segment)
    (cut : Cut lexemes segments) :
    (segments.filterMap Segment.start?).length =
      (errorsOf stop segments).length + (segments.filterMap Segment.clause?).length := by
  induction cut with
  | done => rfl
  | next fits rest ih =>
      rename_i segment after segments
      cases fits with
      | clause derives =>
          rename_i part clause
          obtain ⟨lexeme, used, rfl, -⟩ := derives_cons part clause derives
          change (segments.filterMap Segment.start?).length + 1 =
            (errorsOf stop segments).length + ((segments.filterMap Segment.clause?).length + 1)
          omega
      | failed begins noClause longest passed resumed =>
          change (segments.filterMap Segment.start?).length + 1 =
            (errorsOf stop segments).length + 1 + (segments.filterMap Segment.clause?).length
          omega
      | word | stray => exact ih

theorem errors_located (stop : Nat) (lexemes : List Lexeme) (segments : List Segment)
    (cut : Cut lexemes segments) :
    List.Forall₂ (fun error start => ∃ found, FirstUnfit start found ∧
        error.position = found.position)
      (errorsOf stop segments) (failures ⟨.endOfInput, stop⟩ segments) := by
  induction cut with
  | done => exact .nil
  | next fits rest ih =>
      rename_i segment after segments
      cases fits with
      | clause | word | stray => exact ih
      | failed begins noClause longest passed resumed =>
          rename_i lexeme used skipped
          refine .cons ?_ ih
          rw [← cut_lexemes after segments rest]
          cases left : skipped ++ after with
          | nil =>
              refine ⟨⟨.endOfInput, stop⟩, ⟨lexeme :: used, [], rfl, longest.viable, ?_⟩, rfl⟩
              rintro ⟨more, clause, derives⟩
              exact derives_no_end _ clause derives ⟨.endOfInput, stop⟩ (by simp) rfl
          | cons next behind =>
              rw [left] at longest
              refine ⟨next, ⟨lexeme :: used, behind ++ [⟨.endOfInput, stop⟩], rfl, longest.viable,
                fun viable => ?_⟩, rfl⟩
              have bound := longest.longest (lexeme :: used ++ [next]) ⟨behind, by simp⟩ viable
              exact absurd bound (by simp)

def Ascending (lexemes : List Lexeme) : Prop :=
  lexemes.Pairwise fun a b => a.position < b.position

theorem position_of_later (stop : Nat) (front behind : List Lexeme) (some : front ≠ [])
    (ascending : Ascending (front ++ behind ++ [⟨.endOfInput, stop⟩])) :
    positionOf stop (front ++ behind) < positionOf stop behind := by
  cases front with
  | nil => exact absurd rfl some
  | cons first front =>
      have least := (List.pairwise_cons.mp ascending).1
      cases behind with
      | nil => exact least ⟨.endOfInput, stop⟩ (by simp)
      | cons next behind => exact least next (by simp)

theorem errors_ascend (stop : Nat) (lexemes : List Lexeme) (segments : List Segment)
    (cut : Cut lexemes segments) (ascending : Ascending (lexemes ++ [⟨.endOfInput, stop⟩])) :
    (∀ error ∈ errorsOf stop segments, positionOf stop lexemes < error.position) ∧
      ((errorsOf stop segments).map (·.position)).Pairwise (· < ·) := by
  induction cut with
  | done => simp [errorsOf]
  | next fits rest ih =>
      rename_i segment after segments
      have later : Ascending (after ++ [⟨.endOfInput, stop⟩]) := by
        rw [List.append_assoc] at ascending
        exact (List.pairwise_append.mp ascending).2.1
      obtain ⟨beyond, ordered⟩ := ih later
      have before := position_of_later stop segment.lexemes after (fits_nonempty segment after fits)
        ascending
      have passed : ∀ error ∈ errorsOf stop segments,
          positionOf stop (segment.lexemes ++ after) < error.position := fun error member =>
        Nat.lt_trans before (beyond error member)
      cases fits with
      | clause | word | stray => exact ⟨passed, ordered⟩
      | failed begins noClause longest skipping resumed =>
          rename_i lexeme used skipped
          rw [errorsOf, ← cut_lexemes after segments rest]
          simp only [Segment.lexemes, List.append_assoc] at ascending passed ⊢
          rw [← List.append_assoc skipped] at ascending
          have here := position_of_later stop (lexeme :: used) (skipped ++ after)
            (List.cons_ne_nil _ _) (by simpa using ascending)
          have reached : positionOf stop (skipped ++ after) ≤ positionOf stop after := by
            by_cases none : skipped = []
            · rw [none, List.nil_append]
            · have tail := (List.pairwise_append.mp ascending).2.1
              exact Nat.le_of_lt (position_of_later stop skipped after none tail)
          refine ⟨List.forall_mem_cons.mpr ⟨here, passed⟩, List.pairwise_cons.mpr ⟨?_, ordered⟩⟩
          intro position member
          obtain ⟨error, among, rfl⟩ := List.mem_map.mp member
          exact Nat.lt_of_le_of_lt reached (beyond error among)

theorem ended_ascends (lexemes : List Lexeme) (ascending : Ascending lexemes) :
    Ascending (body lexemes ++ [⟨.endOfInput, endPosition lexemes⟩]) := by
  rcases end_cases lexemes with ⟨position, after, whole, ends⟩ | ⟨-, whole, ends⟩
  · have split := congrArg Ascending whole ▸ ascending
    rw [ends]
    exact split.sublist (List.Sublist.append_left (by simp) _)
  · rw [whole, ends]
    refine List.pairwise_append.mpr ⟨ascending, List.pairwise_singleton _ _, ?_⟩
    intro lexeme member ending only
    obtain rfl := List.mem_singleton.mp only
    cases lexemes using List.reverseRecOn with
    | nil => simp at member
    | append_singleton front last =>
        have bound : lexeme.position ≤ last.position := by
          rcases List.mem_append.mp member with early | same
          · exact Nat.le_of_lt ((List.pairwise_append.mp ascending).2.2 lexeme early last (by simp))
          · rw [List.mem_singleton.mp same]
        rw [List.getLast?_concat]
        exact Nat.lt_succ_of_le bound

theorem errors_localized (lexemes : List Lexeme) (ascending : Ascending lexemes) :
    ∃ segments, (Cut (body lexemes) segments ∧
        ∀ other, Cut (body lexemes) other → other = segments) ∧
      ((Query.ofLexemes lexemes).errors.map (·.position)).Pairwise (· < ·) ∧
      List.Forall₂ (fun error start => ∃ found, FirstUnfit start found ∧
          error.position = found.position)
        (Query.ofLexemes lexemes).errors (failures ⟨.endOfInput, endPosition lexemes⟩ segments) ∧
      (Query.ofLexemes lexemes).errors.length + (Query.ofLexemes lexemes).clauses.length =
        ((body lexemes).filter (IsStart segments)).length ∧
      ((Query.ofLexemes lexemes).errors.map (·.position)).count (endPosition lexemes) ≤ 1 := by
  obtain ⟨segments, cut, clauses, errors, -⟩ :=
    parse_up_to_accounts (endPosition lexemes) (body lexemes)
  have ended := ended_ascends lexemes ascending
  have ordered := (errors_ascend _ _ segments cut ended).2
  rw [Query.ofLexemes, clauses, errors]
  refine ⟨segments, ⟨cut, fun other again => cut_unique _ other segments again cut⟩, ordered,
    errors_located _ _ segments cut, ?_, ?_⟩
  · have distinct : (body lexemes).Nodup :=
      (List.pairwise_append.mp ended).1.imp fun before same => by simp [same] at before
    rw [clause_starts_eq _ segments cut distinct, attempts_counted _ _ segments cut]
  · exact List.nodup_iff_count_le_one.mp (ordered.imp Nat.ne_of_lt) _

theorem three_errors_localized :
    let lexemes : List Lexeme := [⟨.field .status, 0⟩, ⟨.colon, 6⟩, ⟨.field .due, 7⟩, ⟨.minus, 11⟩,
      ⟨.field .tag, 12⟩, ⟨.atSign, 16⟩, ⟨.colon, 18⟩, ⟨.field .due, 20⟩]
    Ascending lexemes ∧ (Query.ofLexemes lexemes).errors.map (·.position) = [16, 18, 21] ∧
      ((Query.ofLexemes lexemes).errors.map (·.position)).Pairwise (· < ·) ∧
      ((Query.ofLexemes lexemes).errors.map (·.position)).count (endPosition lexemes) ≤ 1 := by
  intro lexemes
  have ascending : Ascending lexemes := by simp [lexemes, Ascending]
  have read : (Query.ofLexemes lexemes).errors.map (·.position) = [16, 18, 21] := by decide +kernel
  obtain ⟨_, _, ordered, _, _, atEnd⟩ := errors_localized lexemes ascending
  exact ⟨ascending, read, ordered, atEnd⟩

end TaskSearch.Grammar
