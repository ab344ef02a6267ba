import TaskSearch.Date.Comparison
import TaskSearch.Filter
import TaskSearch.Mention
import TaskSearch.Query.Parser
import TaskSearch.Rejection
import TaskSearch.Text.Lower

set_option autoImplicit false

namespace TaskSearch

open Date (Clock)

structure ConversionOptions where
  fuzzyLimit : Nat := 10
  searchMode : SearchMode := .substring
  sortKey : SortKey := .created
  sortOrder : SortOrder := .descending
deriving DecidableEq, Repr

structure Converter where
  directory : ProjectDirectory
  options : ConversionOptions
  clock : Clock

def maxSuggestionDistance : Nat :=
  3

def leastBy (measure : String → Nat) (first : String) (rest : List String) : String :=
  rest.foldl (fun least word => if measure word < measure least then word else least) first

def closestWord? (value : String) (words : List String) : Option String :=
  let distance (word : String) := Text.editDistance value.toList word.toList
  match words with
  | [] => none
  | first :: rest =>
      let closest := leastBy distance first rest
      if 0 < distance closest && distance closest ≤ maxSuggestionDistance then some closest
      else none

def readKeyword (α : Type) [Keyword α] (clause : Clause) : Except Rejection α :=
  let value := Text.lower (Text.trim clause.value)
  match (Keyword.find? value : Option α) with
  | some word => .ok word
  | none =>
      .error (.invalidValue clause.field clause.value (Keyword.expected α)
        (closestWord? value ((Keyword.all : List α).map Keyword.name)))

def requireNotNegated (clause : Clause) : Except Rejection Unit :=
  if clause.negated then .error (.negationUnsupported clause.field) else .ok ()

def requireExact (clause : Clause) : Except Rejection Unit :=
  if clause.operator.isExact then .ok ()
  else .error (.unsupportedOperator clause.field clause.operator)

def requirePlain (clause : Clause) : Except Rejection Unit := do
  requireNotNegated clause
  requireExact clause

-- Work on a filter that may end in a rejection. What was written to the filter before that stays
-- written.
abbrev Application := ExceptT Rejection (StateM Filter)

namespace Converter

def suggestion? (converter : Converter) (name : String) : Option String :=
  match converter.directory.search name 1 with
  | .ok (project :: _) => some project.name
  | _ => none

def resolveProject (converter : Converter) (name : String) (fuzzy : Bool) :
    Except Rejection String :=
  if fuzzy then
    match converter.directory.search name converter.options.fuzzyLimit with
    | .ok (project :: _) => .ok project.id
    | .ok [] => .error (.noFuzzyMatch name)
    | .error failure => .error (.lookupFailed failure)
  else
    match converter.directory.byName name with
    | .ok (some project) => .ok project.id
    | .error failure => .error (.lookupFailed failure)
    | .ok none =>
      match converter.directory.byAlias name with
      | .ok (some project) => .ok project.id
      | .error failure => .error (.lookupFailed failure)
      | .ok none => .error (.projectNotFound name (converter.suggestion? name))

def apply (converter : Converter) (clause : Clause) : Application Unit := do
  match clause.field with
  | .status =>
      requirePlain clause
      let status ← readKeyword Status clause
      modify fun filter => { filter with status := some status }
  | .priority =>
      requirePlain clause
      let priority ← readKeyword Priority clause
      modify fun filter => { filter with priority := some priority }
  | .project =>
      requirePlain clause
      let id ← converter.resolveProject clause.value clause.fuzzy
      modify fun filter => { filter with projectId := some id }
  | .tag =>
      requireExact clause
      let tag := Text.trim clause.value
      if tag.isEmpty then throw .emptyTag
      if clause.negated then
        modify fun filter => { filter with excludedTags := Filter.addTag filter.excludedTags tag }
      else
        modify fun filter => { filter with tags := Filter.addTag filter.tags tag }
  | .due | .created | .updated =>
      requireNotNegated clause
      match Date.parseCondition clause.value clause.operator converter.clock with
      | .ok condition => modify (·.narrowDate clause.field condition)
      | .error error => throw (.invalidDate clause.field error)

def applyAll (converter : Converter) : List Clause → StateM Filter (List RejectedClause)
  | [] => return []
  | clause :: clauses => do
      match ← (converter.apply clause).run with
      | .ok () => converter.applyAll clauses
      | .error rejection => return ⟨clause, rejection⟩ :: (← converter.applyAll clauses)

end Converter

structure Conversion where
  filter : Filter
  rejected : List RejectedClause
deriving DecidableEq, Repr

namespace Conversion

def isComplete (conversion : Conversion) : Bool :=
  conversion.rejected.isEmpty

def errorText? (conversion : Conversion) : Option String :=
  if conversion.isComplete then none
  else
    some (toString conversion.rejected.length ++
      " of the query's clauses could not be applied: " ++
      "; ".intercalate (conversion.rejected.map RejectedClause.message))

end Conversion

namespace Converter

def initialFilter (converter : Converter) (search : String) : Filter :=
  let search := Text.trim search
  { search := if search.isEmpty then none else some search
    searchMode := converter.options.searchMode
    sortKey := converter.options.sortKey
    sortOrder := converter.options.sortOrder }

def convertClauses (converter : Converter) (clauses : List Clause) (search : String) :
    Conversion :=
  let (rejected, filter) := (converter.applyAll clauses).run (converter.initialFilter search)
  ⟨filter, rejected⟩

def convert (converter : Converter) (query : Query) : Conversion :=
  converter.convertClauses query.clauses (" ".intercalate query.freeText)

def convertMentions (converter : Converter) (text : MentionedText) : Conversion :=
  let clauses := text.mentions.map fun mention => Clause.mention mention.name mention.fuzzy
  converter.convertClauses clauses text.baseText

end Converter

end TaskSearch
