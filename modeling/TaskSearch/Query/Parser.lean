import TaskSearch.Query.Clause
import TaskSearch.Query.Lexer

set_option autoImplicit false

namespace TaskSearch

inductive ParseFault where
  | mentionName (found : Token)
  | negatedField (found : Token)
  | negatedColon (field : Field) (found : Token)
  | negatedComparator (field : Field) (found : Token)
  | negatedValue (field : Field) (found : Token)
  | operator (field : Field) (found : Token)
  | value (field : Field) (found : Token)
deriving DecidableEq, Repr

def ParseFault.message : ParseFault → String
  | mentionName found => "expected a project name after '@', found " ++ found.describe
  | negatedField found => "expected a field name after '-', found " ++ found.describe
  | negatedColon field found =>
      "negated filter on '" ++ field.name ++ "' must use ':', found " ++ found.describe
  | negatedComparator field found =>
      "negated filter on '" ++ field.name ++ "' only supports ':', found " ++ found.describe
  | negatedValue field found =>
      "expected a value for '-" ++ field.name ++ "', found " ++ found.describe
  | operator field found =>
      "expected ':' or an operator after '" ++ field.name ++ "', found " ++ found.describe
  | value field found => "expected a value for '" ++ field.name ++ "', found " ++ found.describe

structure ParseError where
  fault : ParseFault
  position : Nat
deriving DecidableEq, Repr

namespace ParseError

def message (error : ParseError) : String :=
  error.fault.message

def describe (error : ParseError) : String :=
  let message := error.message
  let position := error.position
  s!"{message} at position {position}"

end ParseError

structure Query where
  clauses : List Clause := []
  errors : List ParseError := []
  freeText : List String := []
deriving DecidableEq, Repr

namespace Query

def isEmpty (query : Query) : Bool :=
  query.clauses.isEmpty && query.errors.isEmpty && query.freeText.isEmpty

def hasErrors (query : Query) : Bool :=
  !query.errors.isEmpty

def valuesOf (query : Query) (field : Field) : List String :=
  (query.clauses.filter (·.field = field)).map (·.value)

def append (a b : Query) : Query :=
  ⟨a.clauses ++ b.clauses, a.errors ++ b.errors, a.freeText ++ b.freeText⟩

instance : Append Query := ⟨append⟩

end Query

namespace Parser

def current : List Lexeme → Token
  | [] => .endOfInput
  | lexeme :: _ => lexeme.token

def valueOf? : Token → Option String
  | .value text | .number text => some text
  | .field field => some field.name
  | _ => none

abbrev Reading (α : Type) :=
  Except ParseFault α × List Lexeme

def readValue (fault : Token → ParseFault) (lexemes : List Lexeme) : Reading String :=
  match valueOf? (current lexemes) with
  | some value => (.ok value, lexemes.tail)
  | none => (.error (fault (current lexemes)), lexemes)

def readMention (lexemes : List Lexeme) : Reading Clause :=
  let fuzzy := current lexemes == .tilde
  let (name, rest) := readValue .mentionName (if fuzzy then lexemes.tail else lexemes)
  (name.map (Clause.mention · fuzzy), rest)

def readNegated (lexemes : List Lexeme) : Reading Clause :=
  match current lexemes with
  | .field field =>
      let afterField := lexemes.tail
      if current afterField = .colon then
        let afterColon := afterField.tail
        if (current afterColon).isComparator then
          (.error (.negatedComparator field (current afterColon)), afterColon)
        else
          let (value, rest) := readValue (.negatedValue field) afterColon
          (value.map (Clause.excluding field), rest)
      else (.error (.negatedColon field (current afterField)), afterField)
  | found => (.error (.negatedField found), lexemes)

def equalsAt (position : Nat) : List Lexeme → Bool
  | lexeme :: _ => lexeme.token == .equals && lexeme.position == position + 1
  | [] => false

def readComparator : List Lexeme → Option Operator × List Lexeme
  | ⟨.equals, _⟩ :: rest => (some .equal, rest)
  | ⟨.notEquals, _⟩ :: rest => (some .notEqual, rest)
  | ⟨.less, position⟩ :: rest =>
      if equalsAt position rest then (some .lessEqual, rest.tail) else (some .less, rest)
  | ⟨.greater, position⟩ :: rest =>
      if equalsAt position rest then (some .greaterEqual, rest.tail) else (some .greater, rest)
  | lexemes => (none, lexemes)

def readComparison (field : Field) (lexemes : List Lexeme) : Reading Clause :=
  let hasColon := current lexemes == .colon
  let (comparator, rest) := readComparator (if hasColon then lexemes.tail else lexemes)
  match comparator.or (if hasColon then some .colon else none) with
  | some operator =>
      let (value, rest) := readValue (.value field) rest
      (value.map fun value => { field, operator, value }, rest)
  | none => (.error (.operator field (current rest)), rest)

def readClause? (first : Token) (rest : List Lexeme) : Option (Reading Clause) :=
  match first with
  | .atSign => some (readMention rest)
  | .minus => some (readNegated rest)
  | .field field => some (readComparison field rest)
  | _ => none

def beginsClause : Token → Bool
  | .atSign | .minus | .field _ => true
  | _ => false

def synchronize (lexemes : List Lexeme) : List Lexeme :=
  lexemes.dropWhile (!beginsClause ·.token)

theorem readValue_length_le (fault : Token → ParseFault) (lexemes : List Lexeme) :
    (readValue fault lexemes).2.length ≤ lexemes.length := by
  unfold readValue
  split <;> simp

theorem readComparator_length_le (lexemes : List Lexeme) :
    (readComparator lexemes).2.length ≤ lexemes.length := by
  fun_cases readComparator lexemes <;> simp
  all_goals omega

theorem readMention_length_le (lexemes : List Lexeme) :
    (readMention lexemes).2.length ≤ lexemes.length := by
  have value := readValue_length_le .mentionName
    (if current lexemes == .tilde then lexemes.tail else lexemes)
  have dropped : (if current lexemes == .tilde then lexemes.tail else lexemes).length ≤
      lexemes.length := by
    split <;> simp
  exact Nat.le_trans value dropped

theorem readNegated_length_le (lexemes : List Lexeme) :
    (readNegated lexemes).2.length ≤ lexemes.length := by
  unfold readNegated
  split
  · rename_i field _
    have value := readValue_length_le (.negatedValue field) lexemes.tail.tail
    simp only [List.length_tail] at value
    dsimp only
    repeat' split
    all_goals simp only [List.length_tail] at *
    all_goals omega
  · exact Nat.le_refl _

theorem readComparison_length_le (field : Field) (lexemes : List Lexeme) :
    (readComparison field lexemes).2.length ≤ lexemes.length := by
  have comparator := readComparator_length_le
    (if current lexemes == .colon then lexemes.tail else lexemes)
  have dropped : (if current lexemes == .colon then lexemes.tail else lexemes).length ≤
      lexemes.length := by
    split <;> simp
  have bound := Nat.le_trans comparator dropped
  unfold readComparison
  dsimp only
  split
  · exact Nat.le_trans (readValue_length_le _ _) bound
  · exact bound

theorem readClause?_length_le (first : Token) (rest : List Lexeme) (reading : Reading Clause)
    (read : readClause? first rest = some reading) : reading.2.length ≤ rest.length := by
  unfold readClause? at read
  split at read <;> simp only [Option.some.injEq, reduceCtorEq] at read <;> subst read
  · exact readMention_length_le rest
  · exact readNegated_length_le rest
  · exact readComparison_length_le _ rest

theorem synchronize_length_le (lexemes : List Lexeme) :
    (synchronize lexemes).length ≤ lexemes.length :=
  (List.dropWhile_sublist _).length_le

def positionOf (stop : Nat) : List Lexeme → Nat
  | [] => stop
  | lexeme :: _ => lexeme.position

def parseUpTo (stop : Nat) : List Lexeme → Query
  | [] => {}
  | lexeme :: rest =>
    match _ : readClause? lexeme.token rest with
    | some (.ok clause, left) => { clauses := [clause] } ++ parseUpTo stop left
    | some (.error fault, left) =>
        { errors := [⟨fault, positionOf stop left⟩] } ++ parseUpTo stop (synchronize left)
    | none =>
      match lexeme.token with
      | .value word | .number word => { freeText := [word] } ++ parseUpTo stop rest
      | _ => parseUpTo stop rest
termination_by lexemes => lexemes.length
decreasing_by
  · have shorter : left.length ≤ rest.length := readClause?_length_le _ _ _ ‹_›
    simp only [List.length_cons]
    omega
  · have shorter : left.length ≤ rest.length := readClause?_length_le _ _ _ ‹_›
    have skipped := synchronize_length_le left
    simp only [List.length_cons]
    omega
  all_goals simp

-- Where the input of a list of lexemes ends: at its first end token, or else one place behind the
-- last lexeme.
def endPosition (lexemes : List Lexeme) : Nat :=
  match lexemes.find? (·.token == .endOfInput) with
  | some lexeme => lexeme.position
  | none => (lexemes.getLast?.map (·.position + 1)).getD 0

def body (lexemes : List Lexeme) : List Lexeme :=
  lexemes.takeWhile (·.token != .endOfInput)

end Parser

namespace Query

def ofLexemes (lexemes : List Lexeme) : Query :=
  Parser.parseUpTo (Parser.endPosition lexemes) (Parser.body lexemes)

def parse (text : String) : Except LexError Query :=
  (tokenize text).map ofLexemes

end Query

end TaskSearch
