import TaskSearch.Query.Parser

set_option autoImplicit false

open TaskSearch.Parser

namespace TaskSearch.Grammar

inductive IsValue : Token → String → Prop where
  | value (text : String) : IsValue (.value text) text
  | number (digits : String) : IsValue (.number digits) digits
  | field (field : Field) : IsValue (.field field) field.name

inductive Optional (token : Token) : List Lexeme → Bool → Prop where
  | absent : Optional token [] false
  | present (position : Nat) : Optional token [⟨token, position⟩] true

-- A comparator that may be left out. Two signs are one comparator only side by side.
inductive Comparator : List Lexeme → Option Operator → Prop where
  | absent : Comparator [] none
  | equal (position : Nat) : Comparator [⟨.equals, position⟩] (some .equal)
  | notEqual (position : Nat) : Comparator [⟨.notEquals, position⟩] (some .notEqual)
  | less (position : Nat) : Comparator [⟨.less, position⟩] (some .less)
  | lessEqual (position : Nat) :
      Comparator [⟨.less, position⟩, ⟨.equals, position + 1⟩] (some .lessEqual)
  | greater (position : Nat) : Comparator [⟨.greater, position⟩] (some .greater)
  | greaterEqual (position : Nat) :
      Comparator [⟨.greater, position⟩, ⟨.equals, position + 1⟩] (some .greaterEqual)

def operatorOf? (hasColon : Bool) (comparator : Option Operator) : Option Operator :=
  comparator.or (if hasColon then some .colon else none)

inductive Derives : List Lexeme → Clause → Prop where
  | mention {tilde : List Lexeme} {fuzzy : Bool} {token : Token} {name : String} (p q : Nat)
      (mark : Optional .tilde tilde fuzzy) (value : IsValue token name) :
      Derives (⟨.atSign, p⟩ :: (tilde ++ [⟨token, q⟩])) (.mention name fuzzy)
  | negated {field : Field} {token : Token} {text : String} (p q r s : Nat)
      (value : IsValue token text) :
      Derives [⟨.minus, p⟩, ⟨.field field, q⟩, ⟨.colon, r⟩, ⟨token, s⟩] (.excluding field text)
  | comparison {field : Field} {colon sign : List Lexeme} {hasColon : Bool}
      {comparator : Option Operator} {operator : Operator} {token : Token} {text : String}
      (p q : Nat) (mark : Optional .colon colon hasColon) (spelled : Comparator sign comparator)
      (meant : operatorOf? hasColon comparator = some operator) (value : IsValue token text) :
      Derives (⟨.field field, p⟩ :: (colon ++ (sign ++ [⟨token, q⟩])))
        { field, operator, value := text }

def Viable (lexemes : List Lexeme) : Prop :=
  ∃ more clause, Derives (lexemes ++ more) clause

def faultOf (begun : List Token) (found : Token) : ParseFault :=
  match begun with
  | .minus :: .field field :: .colon :: _ =>
      if found.isComparator then .negatedComparator field found else .negatedValue field found
  | [.minus, .field field] => .negatedColon field found
  | .minus :: _ => .negatedField found
  | [.field field] => .operator field found
  | .field field :: _ => .value field found
  | _ => .mentionName found

theorem value_of_iff (token : Token) (text : String) :
    valueOf? token = some text ↔ IsValue token text := by
  constructor
  · intro read
    cases token <;> simp only [valueOf?, Option.some.injEq, reduceCtorEq] at read <;> subst read
    · exact .field _
    · exact .value _
    · exact .number _
  · rintro (_ | _ | _) <;> rfl

theorem value_not_colon (token : Token) (text : String) (value : IsValue token text) :
    token ≠ .colon := by
  cases value <;> simp

theorem value_not_tilde (token : Token) (text : String) (value : IsValue token text) :
    token ≠ .tilde := by
  cases value <;> simp

theorem value_not_comparator (token : Token) (text : String) (value : IsValue token text) :
    token.isComparator = false := by
  cases value <;> rfl

theorem current_of_head (a b : List Lexeme) (same : a.head? = b.head?) : current a = current b := by
  cases a <;> cases b <;> simp_all [current]

theorem current_eq_cons (lexemes : List Lexeme) (token : Token) (found : current lexemes = token)
    (inside : token ≠ .endOfInput) : ∃ position rest, lexemes = ⟨token, position⟩ :: rest := by
  cases lexemes with
  | nil => exact absurd found.symm inside
  | cons lexeme rest => exact ⟨lexeme.position, rest, by rw [← found]; rfl⟩

theorem read_value_complete (fault : Token → ParseFault) (token : Token) (text : String)
    (position : Nat) (left : List Lexeme) (value : IsValue token text) :
    readValue fault (⟨token, position⟩ :: left) = (.ok text, left) := by
  simp [readValue, current, (value_of_iff token text).mpr value]

theorem read_value_ok (fault : Token → ParseFault) (lexemes left : List Lexeme) (text : String)
    (read : readValue fault lexemes = (.ok text, left)) :
    ∃ token position, lexemes = ⟨token, position⟩ :: left ∧ IsValue token text := by
  unfold readValue at read
  split at read
  · rename_i value found
    simp only [Prod.mk.injEq, Except.ok.injEq] at read
    obtain ⟨rfl, rfl⟩ := read
    cases lexemes with
    | nil => simp [current, valueOf?] at found
    | cons lexeme rest => exact ⟨lexeme.token, lexeme.position, rfl, (value_of_iff _ _).mp found⟩
  · simp at read

theorem read_value_error (fault : Token → ParseFault) (found : ParseFault)
    (lexemes left : List Lexeme) (read : readValue fault lexemes = (.error found, left)) :
    left = lexemes ∧ found = fault (current lexemes) ∧
      ∀ other : List Lexeme, other.head? = lexemes.head? →
        readValue fault other = (.error found, other) := by
  unfold readValue at read
  split at read
  · simp at read
  · rename_i missing
    simp only [Prod.mk.injEq, Except.error.injEq] at read
    obtain ⟨rfl, rfl⟩ := read
    refine ⟨rfl, rfl, ?_⟩
    intro other same
    rw [readValue, current_of_head other lexemes same, missing]

theorem equals_at_of_head (position : Nat) (a b : List Lexeme) (same : a.head? = b.head?) :
    equalsAt position a = equalsAt position b := by
  cases a <;> cases b <;> simp_all [equalsAt]

theorem comparator_complete (sign rest : List Lexeme) (operator : Option Operator)
    (spelled : Comparator sign operator) (ended : (current rest).isComparator = false) :
    readComparator (sign ++ rest) = (operator, rest) := by
  have apart (position : Nat) : equalsAt position rest = false := by
    cases rest with
    | nil => rfl
    | cons lexeme rest =>
        have different : lexeme.token ≠ .equals := by
          intro same
          simp [current, same, Token.isComparator] at ended
        simp [equalsAt, different]
  cases spelled with
  | absent =>
      cases rest with
      | nil => rfl
      | cons lexeme rest =>
          obtain ⟨token, position⟩ := lexeme
          cases token <;> simp_all [readComparator, current, Token.isComparator]
  | equal | notEqual => rfl
  | less | greater => simp [readComparator, apart]
  | lessEqual | greaterEqual => simp [readComparator, equalsAt]

theorem equals_at_cons (position : Nat) (lexemes : List Lexeme)
    (joined : equalsAt position lexemes = true) :
    lexemes = ⟨.equals, position + 1⟩ :: lexemes.tail := by
  cases lexemes with
  | nil => simp [equalsAt] at joined
  | cons lexeme rest =>
      obtain ⟨token, place⟩ := lexeme
      simp only [equalsAt, Bool.and_eq_true, beq_iff_eq] at joined
      simp [joined]

theorem comparator_read (lexemes rest : List Lexeme) (operator : Option Operator)
    (read : readComparator lexemes = (operator, rest)) :
    ∃ sign, lexemes = sign ++ rest ∧ Comparator sign operator ∧
      ∀ other : List Lexeme, other.head? = rest.head? →
        readComparator (sign ++ other) = (operator, other) := by
  by_cases ended : (current lexemes).isComparator = false
  · rw [← List.nil_append lexemes, comparator_complete [] lexemes none .absent ended] at read
    obtain ⟨rfl, rfl⟩ := Prod.mk.inj read
    refine ⟨[], rfl, .absent, ?_⟩
    intro other same
    rw [← current_of_head other lexemes same] at ended
    exact comparator_complete [] other none .absent ended
  · obtain _ | ⟨⟨token, position⟩, tail⟩ := lexemes
    · simp [current, Token.isComparator] at ended
    · cases token with
      | equals =>
          obtain ⟨rfl, rfl⟩ := Prod.mk.inj read
          exact ⟨[⟨.equals, position⟩], rfl, .equal position, fun _ _ => rfl⟩
      | notEquals =>
          obtain ⟨rfl, rfl⟩ := Prod.mk.inj read
          exact ⟨[⟨.notEquals, position⟩], rfl, .notEqual position, fun _ _ => rfl⟩
      | less =>
          by_cases joined : equalsAt position tail = true
          · rw [readComparator, if_pos joined] at read
            obtain ⟨rfl, rfl⟩ := Prod.mk.inj read
            refine ⟨[⟨.less, position⟩, ⟨.equals, position + 1⟩], ?_, .lessEqual position, ?_⟩
            · exact congrArg _ (equals_at_cons position tail joined)
            · intro other _
              simp [readComparator, equalsAt]
          · rw [readComparator, if_neg joined] at read
            obtain ⟨rfl, rfl⟩ := Prod.mk.inj read
            refine ⟨[⟨.less, position⟩], rfl, .less position, ?_⟩
            intro other same
            simp [readComparator, equals_at_of_head position other tail same, joined]
      | greater =>
          by_cases joined : equalsAt position tail = true
          · rw [readComparator, if_pos joined] at read
            obtain ⟨rfl, rfl⟩ := Prod.mk.inj read
            refine ⟨[⟨.greater, position⟩, ⟨.equals, position + 1⟩], ?_, .greaterEqual position, ?_⟩
            · exact congrArg _ (equals_at_cons position tail joined)
            · intro other _
              simp [readComparator, equalsAt]
          · rw [readComparator, if_neg joined] at read
            obtain ⟨rfl, rfl⟩ := Prod.mk.inj read
            refine ⟨[⟨.greater, position⟩], rfl, .greater position, ?_⟩
            intro other same
            simp [readComparator, equals_at_of_head position other tail same, joined]
      | _ => simp [current, Token.isComparator] at ended

theorem optional_complete (token : Token) (part rest : List Lexeme) (present : Bool)
    (mark : Optional token part present) (different : present = false → current rest ≠ token) :
    (current (part ++ rest) == token) = present ∧
      (if present then (part ++ rest).tail else part ++ rest) = rest := by
  cases mark with
  | absent => simp [different rfl]
  | present => simp [current]

theorem optional_read (token : Token) (inside : token ≠ .endOfInput) (lexemes : List Lexeme) :
    ∃ part rest present, lexemes = part ++ rest ∧ Optional token part present ∧
      (present = false → current rest ≠ token) := by
  by_cases found : current lexemes = token
  · obtain ⟨position, rest, rfl⟩ := current_eq_cons lexemes token found inside
    exact ⟨[⟨token, position⟩], rest, true, rfl, .present position, by simp⟩
  · exact ⟨[], lexemes, false, rfl, .absent, fun _ => found⟩

theorem read_mention_eq (tilde rest : List Lexeme) (fuzzy : Bool)
    (mark : Optional .tilde tilde fuzzy) (different : fuzzy = false → current rest ≠ .tilde) :
    readMention (tilde ++ rest) =
      ((readValue .mentionName rest).1.map (Clause.mention · fuzzy),
        (readValue .mentionName rest).2) := by
  obtain ⟨flag, dropped⟩ := optional_complete .tilde tilde rest fuzzy mark different
  simp only [readMention, flag, dropped]

theorem read_comparison_eq (field : Field) (colon sign rest : List Lexeme) (hasColon : Bool)
    (comparator : Option Operator) (mark : Optional .colon colon hasColon)
    (different : hasColon = false → current (sign ++ rest) ≠ .colon)
    (spelled : readComparator (sign ++ rest) = (comparator, rest)) :
    readComparison field (colon ++ (sign ++ rest)) =
      match operatorOf? hasColon comparator with
      | some operator =>
          ((readValue (.value field) rest).1.map fun value => { field, operator, value },
            (readValue (.value field) rest).2)
      | none => (.error (.operator field (current rest)), rest) := by
  obtain ⟨flag, dropped⟩ := optional_complete .colon colon (sign ++ rest) hasColon mark different
  cases operator : comparator.or (if hasColon then some .colon else none)
  all_goals simp only [readComparison, flag, dropped, spelled, operatorOf?, operator]

theorem read_clause_complete (lexeme : Lexeme) (used : List Lexeme) (clause : Clause)
    (derives : Derives (lexeme :: used) clause) (left : List Lexeme) :
    readClause? lexeme.token (used ++ left) = some (.ok clause, left) := by
  cases derives with
  | mention p q mark value =>
      rename_i tilde fuzzy token name
      have different : current (⟨token, q⟩ :: left) ≠ .tilde := value_not_tilde token name value
      simp only [readClause?, List.append_assoc, List.singleton_append]
      rw [read_mention_eq tilde _ fuzzy mark (fun _ => different),
        read_value_complete _ token name q left value]
      rfl
  | negated p q r s value =>
      rename_i field token text
      have plain := value_not_comparator token text value
      simp [readClause?, readNegated, current, plain, read_value_complete _ token text s left value,
        Except.map]
  | comparison p q mark spelled meant value =>
      rename_i field colon sign hasColon comparator operator token text
      have ended : (current (⟨token, q⟩ :: left)).isComparator = false :=
        value_not_comparator token text value
      have read := comparator_complete sign (⟨token, q⟩ :: left) comparator spelled ended
      have different : current (sign ++ ⟨token, q⟩ :: left) ≠ .colon := by
        cases spelled with
        | absent => exact value_not_colon token text value
        | _ => simp [current]
      simp only [readClause?, List.append_assoc, List.singleton_append]
      rw [read_comparison_eq field colon sign _ hasColon comparator mark (fun _ => different) read,
        meant]
      simp only [read_value_complete _ token text q left value]
      rfl

-- What a reading behind a first lexeme comes to: a clause of the grammar, or a piece that a
-- clause could begin with and a next lexeme, or the end, at which every reading fails.
inductive Explained (lexeme : Lexeme) : List Lexeme → Reading Clause → Prop where
  | derived {clause : Clause} (used left : List Lexeme)
      (derives : Derives (lexeme :: used) clause) :
      Explained lexeme (used ++ left) (.ok clause, left)
  | stuck {fault : ParseFault} (used left : List Lexeme)
      (viable : Viable (lexeme :: used))
      (expected : fault = faultOf ((lexeme :: used).map (·.token)) (current left))
      (fails : ∀ other : List Lexeme, other.head? = left.head? →
        readClause? lexeme.token (used ++ other) = some (.error fault, other)) :
      Explained lexeme (used ++ left) (.error fault, left)

theorem read_mention_explained (position : Nat) (lexemes : List Lexeme) :
    Explained ⟨.atSign, position⟩ lexemes (readMention lexemes) := by
  obtain ⟨tilde, rest, fuzzy, rfl, mark, different⟩ := optional_read .tilde (by simp) lexemes
  have eq := read_mention_eq tilde rest fuzzy mark different
  rcases reading : readValue .mentionName rest with ⟨result, left⟩
  rw [eq, reading]
  cases result with
  | ok name =>
      obtain ⟨token, place, rfl, value⟩ := read_value_ok _ rest left name reading
      have derives := Derives.mention position place mark value
      simpa [Except.map] using Explained.derived _ left derives
  | error fault =>
      obtain ⟨rfl, rfl, again⟩ := read_value_error _ fault rest left reading
      refine .stuck tilde left ?_ ?_ ?_
      · exact ⟨[⟨.value "", 0⟩], _, by simpa using .mention position 0 mark (.value "")⟩
      · cases mark <;> rfl
      · intro other same
        rw [← current_of_head other left same] at different
        simp only [readClause?, read_mention_eq tilde other fuzzy mark different, again other same]
        rfl

theorem read_negated_unnamed (lexemes : List Lexeme)
    (unnamed : ∀ field, current lexemes ≠ .field field) :
    readNegated lexemes = (.error (.negatedField (current lexemes)), lexemes) := by
  unfold readNegated
  split
  · rename_i field named
    exact absurd named (unnamed field)
  · rfl

theorem read_negated_without_colon (field : Field) (position : Nat) (lexemes : List Lexeme)
    (missing : current lexemes ≠ .colon) :
    readNegated (⟨.field field, position⟩ :: lexemes) =
      (.error (.negatedColon field (current lexemes)), lexemes) := by
  change (if current lexemes = .colon then _ else _) = _
  rw [if_neg missing]
  rfl

theorem read_negated_with_colon (field : Field) (p q : Nat) (lexemes : List Lexeme) :
    readNegated (⟨.field field, p⟩ :: ⟨.colon, q⟩ :: lexemes) =
      if (current lexemes).isComparator then
        (.error (.negatedComparator field (current lexemes)), lexemes)
      else
        ((readValue (.negatedValue field) lexemes).1.map (Clause.excluding field),
          (readValue (.negatedValue field) lexemes).2) := by
  rfl

theorem read_negated_explained (position : Nat) (lexemes : List Lexeme) :
    Explained ⟨.minus, position⟩ lexemes (readNegated lexemes) := by
  -- A field, a colon and a value finish any clause that was begun.
  have whole (field : Field) (p q : Nat) :
      Derives [⟨.minus, position⟩, ⟨.field field, p⟩, ⟨.colon, q⟩, ⟨.value "", 0⟩] _ :=
    .negated position p q 0 (.value "")
  by_cases named : ∃ field, current lexemes = .field field
  · obtain ⟨field, named⟩ := named
    obtain ⟨p, afterField, rfl⟩ := current_eq_cons lexemes _ named (by simp)
    by_cases colon : current afterField = .colon
    · obtain ⟨q, afterColon, rfl⟩ := current_eq_cons afterField _ colon (by simp)
      rw [read_negated_with_colon]
      by_cases comparator : (current afterColon).isComparator = true
      · rw [if_pos comparator]
        refine .stuck [⟨.field field, p⟩, ⟨.colon, q⟩] afterColon ?_ ?_ ?_
        · exact ⟨_, _, whole field p q⟩
        · simp [faultOf, comparator]
        · intro other same
          rw [← current_of_head other afterColon same] at comparator ⊢
          exact congrArg some ((read_negated_with_colon field p q other).trans (if_pos comparator))
      · rw [if_neg comparator]
        rcases reading : readValue (.negatedValue field) afterColon with ⟨result, left⟩
        cases result with
        | ok text =>
            obtain ⟨token, place, rfl, value⟩ := read_value_ok _ afterColon left text reading
            exact .derived [_, _, _] left (.negated position p q place value)
        | error fault =>
            obtain ⟨rfl, rfl, again⟩ := read_value_error _ fault afterColon left reading
            refine .stuck [⟨.field field, p⟩, ⟨.colon, q⟩] left ?_ ?_ ?_
            · exact ⟨_, _, whole field p q⟩
            · simp [faultOf, comparator]
            · intro other same
              rw [← current_of_head other left same] at comparator
              refine congrArg some ((read_negated_with_colon field p q other).trans ?_)
              rw [if_neg comparator, again other same]
              rfl
    · rw [read_negated_without_colon field p afterField colon]
      refine .stuck [⟨.field field, p⟩] afterField ⟨_, _, whole field p 0⟩ rfl ?_
      intro other same
      rw [← current_of_head other afterField same] at colon ⊢
      exact congrArg some (read_negated_without_colon field p other colon)
  · have unnamed : ∀ field, current lexemes ≠ .field field := fun field same => named ⟨field, same⟩
    rw [read_negated_unnamed lexemes unnamed]
    refine .stuck [] lexemes ⟨_, _, whole .tag 0 0⟩ rfl ?_
    intro other same
    rw [← current_of_head other lexemes same] at unnamed ⊢
    exact congrArg some (read_negated_unnamed other unnamed)

theorem head_of_append (sign a b : List Lexeme) (same : a.head? = b.head?) :
    (sign ++ a).head? = (sign ++ b).head? := by
  cases sign <;> simp [same]

theorem operator_of_none (hasColon : Bool) (comparator : Option Operator)
    (missing : operatorOf? hasColon comparator = none) : hasColon = false ∧ comparator = none := by
  cases hasColon <;> cases comparator <;> simp_all [operatorOf?]

theorem fault_of_comparison (field : Field) (position : Nat) (colon sign : List Lexeme)
    (hasColon : Bool) (comparator : Option Operator) (operator : Operator) (found : Token)
    (mark : Optional .colon colon hasColon) (spelled : Comparator sign comparator)
    (meant : operatorOf? hasColon comparator = some operator) :
    faultOf ((⟨.field field, position⟩ :: (colon ++ sign) : List Lexeme).map (·.token)) found =
      .value field found := by
  cases mark with
  | present => rfl
  | absent =>
      cases spelled with
      | absent => simp [operatorOf?] at meant
      | _ => rfl

theorem read_comparison_explained (field : Field) (position : Nat) (lexemes : List Lexeme) :
    Explained ⟨.field field, position⟩ lexemes (readComparison field lexemes) := by
  obtain ⟨colon, tail, hasColon, rfl, mark, different⟩ := optional_read .colon (by simp) lexemes
  rcases signRead : readComparator tail with ⟨comparator, rest⟩
  obtain ⟨sign, rfl, spelled, nearby⟩ := comparator_read tail rest comparator signRead
  -- The same operator is read before any other rest that begins in the same way.
  have again (other : List Lexeme) (same : other.head? = rest.head?) :=
    read_comparison_eq field colon sign other hasColon comparator mark
      (by rwa [current_of_head _ _ (head_of_append sign other rest same)]) (nearby other same)
  rw [again rest rfl]
  cases meant : operatorOf? hasColon comparator with
  | none =>
      obtain ⟨rfl, rfl⟩ := operator_of_none hasColon comparator meant
      cases mark
      cases spelled
      refine .stuck [] rest ?_ rfl ?_
      · exact ⟨[⟨.colon, 0⟩, ⟨.value "", 0⟩], _,
          .comparison position 0 (.present 0) .absent rfl (.value "")⟩
      · intro other same
        refine congrArg some ((again other same).trans ?_)
        rw [meant, current_of_head other rest same]
  | some operator =>
      dsimp only
      rcases reading : readValue (.value field) rest with ⟨result, left⟩
      cases result with
      | ok text =>
          obtain ⟨token, place, rfl, value⟩ := read_value_ok _ rest left text reading
          have derives : Derives (⟨.field field, position⟩ :: (colon ++ (sign ++ [_]))) _ :=
            .comparison position place mark spelled meant value
          simpa [Except.map] using Explained.derived _ left derives
      | error fault =>
          obtain ⟨rfl, rfl, fails⟩ := read_value_error _ fault rest left reading
          rw [← List.append_assoc]
          refine .stuck (colon ++ sign) left ?_ ?_ ?_
          · exact ⟨[⟨.value "", 0⟩], _,
              by simpa using .comparison position 0 mark spelled meant (.value "")⟩
          · exact (fault_of_comparison field position colon sign hasColon comparator operator
              (current left) mark spelled meant).symm
          · intro other same
            rw [List.append_assoc]
            refine congrArg some ((again other same).trans ?_)
            rw [meant, fails other same]
            rfl

theorem read_clause_explained (lexeme : Lexeme) (rest : List Lexeme) (reading : Reading Clause)
    (read : readClause? lexeme.token rest = some reading) : Explained lexeme rest reading := by
  obtain ⟨token, position⟩ := lexeme
  cases token <;> simp only [readClause?, Option.some.injEq, reduceCtorEq] at read <;> subst read
  · exact read_comparison_explained _ position rest
  · exact read_mention_explained position rest
  · exact read_negated_explained position rest

theorem derives_cons (lexemes : List Lexeme) (clause : Clause) (derives : Derives lexemes clause) :
    ∃ lexeme used, lexemes = lexeme :: used ∧ beginsClause lexeme.token = true := by
  cases derives <;> exact ⟨_, _, rfl, rfl⟩

theorem derives_unique (a b x y : List Lexeme) (c d : Clause) (first : Derives a c)
    (second : Derives b d) (same : a ++ x = b ++ y) : a = b ∧ c = d ∧ x = y := by
  obtain ⟨lexeme, used, rfl, -⟩ := derives_cons a c first
  obtain ⟨other, taken, rfl, -⟩ := derives_cons b d second
  simp only [List.cons_append, List.cons.injEq] at same
  obtain ⟨rfl, tails⟩ := same
  have reading := read_clause_complete lexeme used c first x
  rw [tails, read_clause_complete lexeme taken d second y] at reading
  simp only [Option.some.injEq, Prod.mk.injEq, Except.ok.injEq] at reading
  obtain ⟨rfl, rfl⟩ := reading
  exact ⟨congrArg (lexeme :: ·) (List.append_cancel_right tails), rfl, rfl⟩

end TaskSearch.Grammar
