import TaskSearch.Fuzzy.Score
import TaskSearch.Interpretation
import TaskSearch.Json.Value

set_option autoImplicit false

namespace TaskSearch.Output

open Calendar (Timestamp)
open Date (DateCondition)

def clauseDocument (clause : Clause) : Json :=
  .object [("field", .string clause.field.name), ("operator", .string clause.operator.text),
    ("value", .string clause.value), ("negated", .boolean clause.negated),
    ("fuzzy", .boolean clause.fuzzy)]

def parseErrorDocument (error : ParseError) : Json :=
  .object [("message", .string error.message), ("position", .ofNat error.position)]

def tokenDocument (lexemes : List Lexeme) : Json :=
  .object [("tokens", .array (lexemes.map fun lexeme =>
    .object [("kind", .string lexeme.token.kind), ("text", .string lexeme.token.text),
      ("position", .ofNat lexeme.position)]))]

def queryDocument (query : Query) : Json :=
  .object [("clauses", .array (query.clauses.map clauseDocument)),
    ("errors", .array (query.errors.map parseErrorDocument)),
    ("free_text", .strings query.freeText)]

def conditionDocument : DateCondition → Json
  | .any => .object [("kind", .string "any")]
  | .missing => .object [("kind", .string "missing")]
  | .range range =>
      let time (given : Option Timestamp) : Option Json := given.map fun t => .string t.zuluText
      let exclusive (flag : Bool) : Option Json := if flag then some (.boolean true) else none
      .objectOf [("kind", some (.string "range")), ("from", time range.start),
        ("to", time range.stop), ("from_exclusive", exclusive range.startExclusive),
        ("to_exclusive", exclusive range.stopExclusive)]

def filterDocument (filter : Filter) : Json :=
  let tags (items : List String) : Option Json :=
    if items.isEmpty then none else some (.strings items)
  let condition (c : DateCondition) : Option Json :=
    if c.isAny then none else some (conditionDocument c)
  .objectOf [("status", filter.status.map fun s => .string (Keyword.name s)),
    ("priority", filter.priority.map fun p => .string (Keyword.name p)),
    ("project_id", filter.projectId.map .string), ("tags", tags filter.tags),
    ("exclude_tags", tags filter.excludedTags), ("search_query", filter.search.map .string),
    ("search_mode", some (.string (Keyword.name filter.searchMode))),
    ("sort_by", some (.string (Keyword.name filter.sortKey))),
    ("sort_order", some (.string (Keyword.name filter.sortOrder))),
    ("due", condition filter.due), ("created", condition filter.created),
    ("updated", condition filter.updated)]

def rejectedDocument (rejected : RejectedClause) : Json :=
  .object [("clause", clauseDocument rejected.clause), ("text", .string rejected.clause.render),
    ("message", .string rejected.rejection.message)]

def interpretationDocument (interpretation : Interpretation) : Json :=
  .object [("input", .string interpretation.kind.name),
    ("filter", filterDocument interpretation.filter),
    ("parse_errors", .array (interpretation.parseErrors.map parseErrorDocument)),
    ("convert_errors", .array (interpretation.rejected.map rejectedDocument))]

def matchDocument (pattern : String) (found : List Fuzzy.Match) : Json :=
  .object [("pattern", .string pattern), ("matches", .array (found.map fun m =>
    .object [("text", .string m.text), ("score", .ofNat m.score), ("index", .ofNat m.index)]))]

end TaskSearch.Output
