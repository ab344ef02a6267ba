import Mathlib.Data.List.TakeWhile
import TaskSearch.Proofs.Query.Grammar

set_option autoImplicit false

open TaskSearch.Parser

namespace TaskSearch.Grammar

def StartsClause (lexemes : List Lexeme) : Prop :=
  ∃ part rest clause, lexemes = part ++ rest ∧ Derives part clause

structure LongestStart (begun lexemes : List Lexeme) : Prop where
  front : begun <+: lexemes
  viable : Viable begun
  longest : ∀ longer, longer <+: lexemes → Viable longer → longer.length ≤ begun.length

inductive Segment where
  | clause (part : List Lexeme) (clause : Clause)
  | failed (begun skipped : List Lexeme)
  | word (lexeme : Lexeme) (text : String)
  | stray (lexeme : Lexeme)

def Segment.lexemes : Segment → List Lexeme
  | .clause part _ => part
  | .failed begun skipped => begun ++ skipped
  | .word lexeme _ | .stray lexeme => [lexeme]

def Segment.clause? : Segment → Option Clause
  | .clause _ read => some read
  | _ => none

def Segment.word? : Segment → Option String
  | .word _ text => some text
  | _ => none

-- Whether a segment can stand in front of `after`, the rest of the input.
inductive Fits : Segment → List Lexeme → Prop where
  | clause {part after : List Lexeme} {clause : Clause} (derives : Derives part clause) :
      Fits (.clause part clause) after
  | failed {lexeme : Lexeme} {used skipped after : List Lexeme}
      (begins : beginsClause lexeme.token = true)
      (noClause : ¬ StartsClause (lexeme :: used ++ (skipped ++ after)))
      (longest : LongestStart (lexeme :: used) (lexeme :: used ++ (skipped ++ after)))
      (passed : ∀ lexeme ∈ skipped, beginsClause lexeme.token = false)
      (resumed : ∀ lexeme ∈ after.head?, beginsClause lexeme.token = true) :
      Fits (.failed (lexeme :: used) skipped) after
  | word {lexeme : Lexeme} {text : String} {after : List Lexeme}
      (written : lexeme.token = .value text ∨ lexeme.token = .number text) :
      Fits (.word lexeme text) after
  | stray {lexeme : Lexeme} {after : List Lexeme} (begins : beginsClause lexeme.token = false)
      (wordless : ∀ text, lexeme.token ≠ .value text ∧ lexeme.token ≠ .number text) :
      Fits (.stray lexeme) after

inductive Cut : List Lexeme → List Segment → Prop where
  | done : Cut [] []
  | next {segment : Segment} {after : List Lexeme} {segments : List Segment}
      (fits : Fits segment after) (rest : Cut after segments) :
      Cut (segment.lexemes ++ after) (segment :: segments)

-- One error for each failed segment: what was expected behind the piece that was begun, at the
-- lexeme that was found there instead, or at `stop` if that was the end.
def errorsOf (stop : Nat) : List Segment → List ParseError
  | [] => []
  | .failed begun skipped :: segments =>
      let found := skipped ++ segments.flatMap Segment.lexemes
      ⟨faultOf (begun.map (·.token)) (current found), positionOf stop found⟩ ::
        errorsOf stop segments
  | _ :: segments => errorsOf stop segments

theorem cut_lexemes (lexemes : List Lexeme) (segments : List Segment) (cut : Cut lexemes segments) :
    lexemes = segments.flatMap Segment.lexemes := by
  induction cut with
  | done => rfl
  | next fits rest ih => rw [List.flatMap_cons, ← ih]

theorem stuck_no_clause (lexeme : Lexeme) (rest left : List Lexeme) (fault : ParseFault)
    (read : readClause? lexeme.token rest = some (.error fault, left)) :
    ¬ StartsClause (lexeme :: rest) := by
  rintro ⟨part, after, clause, split, derives⟩
  obtain ⟨first, used, rfl, -⟩ := derives_cons part clause derives
  simp only [List.cons_append, List.cons.injEq] at split
  obtain ⟨rfl, rfl⟩ := split
  rw [read_clause_complete lexeme used clause derives after] at read
  simp at read

theorem stuck_not_viable (lexeme next : Lexeme) (used left : List Lexeme) (fault : ParseFault)
    (fails : ∀ other : List Lexeme, other.head? = (next :: left).head? →
      readClause? lexeme.token (used ++ other) = some (.error fault, other)) :
    ¬ Viable (lexeme :: used ++ [next]) := by
  rintro ⟨more, clause, derives⟩
  have whole : lexeme :: used ++ [next] ++ more = lexeme :: (used ++ next :: more) := by simp
  rw [whole] at derives
  have read := read_clause_complete lexeme _ clause derives []
  rw [List.append_nil, fails (next :: more) rfl] at read
  simp at read

theorem viable_of_longer (a b : List Lexeme) (front : a <+: b) (viable : Viable b) : Viable a := by
  obtain ⟨between, rfl⟩ := front
  obtain ⟨more, clause, derives⟩ := viable
  exact ⟨between ++ more, clause, by rwa [← List.append_assoc]⟩

theorem stuck_longest (lexeme : Lexeme) (used left : List Lexeme) (fault : ParseFault)
    (viable : Viable (lexeme :: used))
    (fails : ∀ other : List Lexeme, other.head? = left.head? →
      readClause? lexeme.token (used ++ other) = some (.error fault, other)) :
    LongestStart (lexeme :: used) (lexeme :: used ++ left) := by
  refine ⟨List.prefix_append _ _, viable, ?_⟩
  intro longer front longerViable
  apply Nat.le_of_not_lt
  intro beyond
  cases left with
  | nil =>
      have bound := front.length_le
      simp only [List.append_nil] at bound
      omega
  | cons next left =>
      have extended : lexeme :: used ++ [next] <+: lexeme :: used ++ next :: left :=
        ⟨left, by simp⟩
      refine stuck_not_viable lexeme next used left fault fails
        (viable_of_longer _ longer ?_ longerViable)
      exact List.prefix_of_prefix_length_le extended front (by simpa using Nat.succ_le_of_lt beyond)

def Segment.isAttempt : Segment → Bool
  | .clause _ _ | .failed _ _ => true
  | .word _ _ | .stray _ => false

theorem fits_attempt (segment : Segment) (after : List Lexeme) (fits : Fits segment after) :
    (segment.lexemes ++ after).head?.any (beginsClause ·.token) = segment.isAttempt := by
  cases fits with
  | clause derives =>
      obtain ⟨lexeme, used, rfl, begins⟩ := derives_cons _ _ derives
      exact begins
  | failed begins noClause longest passed resumed => exact begins
  | word written =>
      rcases written with written | written <;> simp [Segment.lexemes, written] <;> rfl
  | stray begins wordless => exact begins

theorem longest_unique (a b lexemes : List Lexeme) (first : LongestStart a lexemes)
    (second : LongestStart b lexemes) : a = b := by
  have lengths := Nat.le_antisymm (second.longest a first.front first.viable)
    (first.longest b second.front second.viable)
  have front := List.prefix_of_prefix_length_le first.front second.front (Nat.le_of_eq lengths)
  exact front.eq_of_length lengths

theorem synchronize_append (skipped after : List Lexeme)
    (passed : ∀ lexeme ∈ skipped, beginsClause lexeme.token = false)
    (resumed : ∀ lexeme ∈ after.head?, beginsClause lexeme.token = true) :
    synchronize (skipped ++ after) = after := by
  rw [synchronize, List.dropWhile_append_of_pos (by simpa using passed)]
  cases after with
  | nil => rfl
  | cons lexeme rest => exact List.dropWhile_cons_of_neg (by simp [resumed lexeme rfl])

theorem skipped_unique (a b x y : List Lexeme)
    (passedA : ∀ lexeme ∈ a, beginsClause lexeme.token = false)
    (passedB : ∀ lexeme ∈ b, beginsClause lexeme.token = false)
    (resumedX : ∀ lexeme ∈ x.head?, beginsClause lexeme.token = true)
    (resumedY : ∀ lexeme ∈ y.head?, beginsClause lexeme.token = true)
    (same : a ++ x = b ++ y) : a = b ∧ x = y := by
  have rests := congrArg synchronize same
  rw [synchronize_append a x passedA resumedX, synchronize_append b y passedB resumedY] at rests
  subst rests
  exact ⟨List.append_cancel_right same, rfl⟩

theorem fits_unique (a b : Segment) (x y : List Lexeme) (first : Fits a x) (second : Fits b y)
    (same : a.lexemes ++ x = b.lexemes ++ y) : a = b ∧ x = y := by
  have kinds : a.isAttempt = b.isAttempt := by
    rw [← fits_attempt a x first, ← fits_attempt b y second, same]
  cases first with
  | clause derives =>
      cases second with
      | clause other =>
          obtain ⟨rfl, rfl, rfl⟩ := derives_unique _ _ x y _ _ derives other same
          exact ⟨rfl, rfl⟩
      | failed begins noClause longest passed resumed =>
          simp only [Segment.lexemes, List.append_assoc] at same
          exact absurd ⟨_, x, _, same.symm, derives⟩ noClause
      | word | stray => simp [Segment.isAttempt] at kinds
  | failed begins noClause longest passed resumed =>
      simp only [Segment.lexemes, List.append_assoc] at same
      cases second with
      | clause derives => exact absurd ⟨_, y, _, same, derives⟩ noClause
      | failed begins' noClause' longest' passed' resumed' =>
          simp only [List.append_assoc] at same
          rw [← same] at longest'
          have begun := longest_unique _ _ _ longest longest'
          rw [begun] at same
          obtain ⟨rfl, rfl⟩ := skipped_unique _ _ x y passed passed' resumed resumed'
            (List.append_cancel_left same)
          exact ⟨congrArg (Segment.failed · _) begun, rfl⟩
      | word | stray => simp [Segment.isAttempt] at kinds
  | word written =>
      cases second with
      | clause | failed => simp [Segment.isAttempt] at kinds
      | word written' =>
          simp only [Segment.lexemes, List.singleton_append, List.cons.injEq] at same
          obtain ⟨rfl, rfl⟩ := same
          rcases written with written | written <;> rcases written' with written' | written' <;>
            simp_all
      | stray begins wordless =>
          simp only [Segment.lexemes, List.singleton_append, List.cons.injEq] at same
          obtain ⟨rfl, rfl⟩ := same
          exact absurd written (by simp [wordless])
  | stray begins wordless =>
      cases second with
      | clause | failed => simp [Segment.isAttempt] at kinds
      | word written =>
          simp only [Segment.lexemes, List.singleton_append, List.cons.injEq] at same
          obtain ⟨rfl, rfl⟩ := same
          exact absurd written (by simp [wordless])
      | stray begins' wordless' =>
          simp only [Segment.lexemes, List.singleton_append, List.cons.injEq] at same
          obtain ⟨rfl, rfl⟩ := same
          exact ⟨rfl, rfl⟩

theorem fits_nonempty (segment : Segment) (after : List Lexeme) (fits : Fits segment after) :
    segment.lexemes ≠ [] := by
  cases fits with
  | clause derives =>
      obtain ⟨lexeme, used, rfl, -⟩ := derives_cons _ _ derives
      simp [Segment.lexemes]
  | failed | word | stray => simp [Segment.lexemes]

theorem cut_unique (lexemes : List Lexeme) (a b : List Segment) (first : Cut lexemes a)
    (second : Cut lexemes b) : a = b := by
  induction first generalizing b with
  | done =>
      generalize empty : ([] : List Lexeme) = lexemes at second
      cases second with
      | done => rfl
      | next fits rest =>
          have none := (List.append_eq_nil_iff.mp empty.symm).1
          exact absurd none (fits_nonempty _ _ fits)
  | next fits rest ih =>
      rename_i segment after segments
      generalize whole : segment.lexemes ++ after = lexemes at second
      cases second with
      | done =>
          have none := (List.append_eq_nil_iff.mp whole).1
          exact absurd none (fits_nonempty _ _ fits)
      | next fits' rest' =>
          obtain ⟨rfl, rfl⟩ := fits_unique _ _ _ _ fits fits' whole
          rw [ih _ rest']

theorem synchronize_split (lexemes : List Lexeme) :
    ∃ skipped, lexemes = skipped ++ synchronize lexemes ∧
      (∀ lexeme ∈ skipped, beginsClause lexeme.token = false) ∧
      ∀ lexeme ∈ (synchronize lexemes).head?, beginsClause lexeme.token = true := by
  refine ⟨lexemes.takeWhile (!beginsClause ·.token), ?_, ?_, ?_⟩
  · exact List.takeWhile_append_dropWhile.symm
  · intro lexeme member
    simpa using List.mem_takeWhile_imp member
  · intro lexeme member
    have stopped := List.head?_dropWhile_not (!beginsClause ·.token) lexemes
    rw [← synchronize, Option.mem_def.mp member] at stopped
    simpa using stopped

theorem begins_of_read (first : Token) (rest : List Lexeme) :
    (readClause? first rest).isSome = beginsClause first := by
  cases first <;> rfl

theorem clause_fits (lexeme : Lexeme) (rest left : List Lexeme) (clause : Clause)
    (read : readClause? lexeme.token rest = some (.ok clause, left)) :
    ∃ part, lexeme :: rest = part ++ left ∧ Derives part clause := by
  cases read_clause_explained lexeme rest _ read with
  | derived used left derives => exact ⟨_, rfl, derives⟩

theorem failure_fits (lexeme : Lexeme) (rest left : List Lexeme) (fault : ParseFault)
    (read : readClause? lexeme.token rest = some (.error fault, left)) :
    ∃ begun skipped, lexeme :: rest = begun ++ skipped ++ synchronize left ∧
      left = skipped ++ synchronize left ∧ Fits (.failed begun skipped) (synchronize left) ∧
      fault = faultOf (begun.map (·.token)) (current left) := by
  have begins : beginsClause lexeme.token = true := by rw [← begins_of_read _ rest, read]; rfl
  have noClause := stuck_no_clause lexeme rest left fault read
  obtain ⟨skipped, split, passed, resumed⟩ := synchronize_split left
  cases read_clause_explained lexeme rest _ read with
  | stuck used left viable expected fails =>
      have longest := stuck_longest lexeme used left fault viable fails
      refine ⟨lexeme :: used, skipped, ?_, split, ?_, expected⟩
      · rw [List.append_assoc, ← split, List.cons_append]
      · refine .failed begins ?_ ?_ passed resumed
        · rwa [← split]
        · rwa [← split]

theorem parse_up_to_accounts (stop : Nat) (lexemes : List Lexeme) :
    ∃ segments, Cut lexemes segments ∧
      (parseUpTo stop lexemes).clauses = segments.filterMap Segment.clause? ∧
      (parseUpTo stop lexemes).errors = errorsOf stop segments ∧
      (parseUpTo stop lexemes).freeText = segments.filterMap Segment.word? := by
  fun_induction parseUpTo stop lexemes with
  | case1 => exact ⟨[], .done, rfl, rfl, rfl⟩
  | case2 lexeme rest clause left read ih =>
      obtain ⟨segments, cut, clauses, errors, words⟩ := ih
      obtain ⟨part, split, derives⟩ := clause_fits lexeme rest left clause read
      rw [split]
      refine ⟨.clause part clause :: segments, .next (.clause derives) cut, ?_, ?_, ?_⟩
      · exact congrArg (clause :: ·) clauses
      · exact errors
      · exact words
  | case3 lexeme rest fault left read ih =>
      obtain ⟨segments, cut, clauses, errors, words⟩ := ih
      obtain ⟨begun, skipped, whole, split, fits, expected⟩ :=
        failure_fits lexeme rest left fault read
      refine ⟨.failed begun skipped :: segments, ?_, clauses, ?_, words⟩
      · rw [whole]
        exact .next fits cut
      · rw [errorsOf, ← cut_lexemes _ _ cut, ← split, ← expected, ← errors]
        rfl
  | case4 lexeme rest none word written ih =>
      obtain ⟨segments, cut, clauses, errors, words⟩ := ih
      refine ⟨.word lexeme word :: segments, .next (.word (.inl written)) cut, clauses, errors, ?_⟩
      exact congrArg (word :: ·) words
  | case5 lexeme rest none digits written ih =>
      obtain ⟨segments, cut, clauses, errors, words⟩ := ih
      refine ⟨.word lexeme digits :: segments, .next (.word (.inr written)) cut, clauses, errors,
        ?_⟩
      exact congrArg (digits :: ·) words
  | case6 lexeme rest none noWord noNumber ih =>
      obtain ⟨segments, cut, accounts⟩ := ih
      have stray : Fits (.stray lexeme) rest :=
        .stray (by rw [← begins_of_read _ rest, none]; rfl) fun text => ⟨noWord text, noNumber text⟩
      exact ⟨.stray lexeme :: segments, .next stray cut, accounts⟩

theorem end_cases (lexemes : List Lexeme) :
    (∃ position after, lexemes = body lexemes ++ ⟨.endOfInput, position⟩ :: after ∧
        endPosition lexemes = position) ∨
      (∀ lexeme ∈ lexemes, lexeme.token ≠ .endOfInput) ∧ body lexemes = lexemes ∧
        endPosition lexemes = (lexemes.getLast?.map (·.position + 1)).getD 0 := by
  cases found : lexemes.find? (·.token == .endOfInput) with
  | none =>
      have inside : ∀ lexeme ∈ lexemes, lexeme.token ≠ .endOfInput := by simpa using found
      refine .inr ⟨inside, ?_, by simp [endPosition, found]⟩
      exact List.takeWhile_eq_self_iff.mpr (by simpa using inside)
  | some last =>
      obtain ⟨ends, before, after, rfl, inside⟩ := List.find?_eq_some_iff_append.mp found
      have front : body (before ++ last :: after) = before := by
        rw [body, List.takeWhile_append_of_pos (by simpa using inside),
          List.takeWhile_cons_of_neg (by simpa using ends), List.append_nil]
      have whole : (⟨.endOfInput, last.position⟩ : Lexeme) = last := by
        rw [← beq_iff_eq.mp ends]
      exact .inl ⟨last.position, after, by rw [front, whole], by simp [endPosition, found]⟩

theorem of_lexemes_accounts (lexemes : List Lexeme) :
    ∃ segments, (Cut (body lexemes) segments ∧
        ∀ other, Cut (body lexemes) other → other = segments) ∧
      (Query.ofLexemes lexemes).clauses = segments.filterMap Segment.clause? ∧
      (Query.ofLexemes lexemes).errors = errorsOf (endPosition lexemes) segments ∧
      (Query.ofLexemes lexemes).freeText = segments.filterMap Segment.word? := by
  obtain ⟨segments, cut, accounts⟩ := parse_up_to_accounts (endPosition lexemes) (body lexemes)
  exact ⟨segments, ⟨cut, fun other again => cut_unique _ other segments again cut⟩, accounts⟩

end TaskSearch.Grammar
