import TaskSearch.Fuzzy.Score
import TaskSearch.Interpretation
import TaskSearch.Output.Style

set_option autoImplicit false

namespace TaskSearch.Output

open Calendar (Timestamp)
open Date (DateCondition)

def joinLines (lines : List String) : String :=
  String.join (lines.map (· ++ "\n"))

def errorLines (colors : Bool) (messages : List String) : List String :=
  if messages.isEmpty then []
  else
    "" :: Style.bold.apply colors "Errors" ::
      messages.map fun message => "  " ++ Style.red.apply colors "✗" ++ " " ++ message

def trimEnd (line : String) : String :=
  String.ofList (line.toList.reverse.dropWhile Text.isBlank).reverse

def tokenTable (colors : Bool) (lexemes : List Lexeme) : String :=
  let row (lexeme : Lexeme) : String :=
    trimEnd (column 5 (toString lexeme.position) ++ " " ++
      Style.cyan.apply colors (column 14 lexeme.token.kind) ++ " " ++ lexeme.token.text)
  joinLines (Style.dimmed.apply colors "Pos   Kind           Text" :: lexemes.map row)

def yesOrBlank (flag : Bool) : String :=
  if flag then "yes" else ""

def queryTable (colors : Bool) (query : Query) : String :=
  let row (clause : Clause) : String :=
    column 8 clause.field.name ++ " " ++ column 4 clause.operator.text ++ " " ++
      column 4 (yesOrBlank clause.negated) ++ " " ++ column 5 (yesOrBlank clause.fuzzy) ++ " " ++
      clause.value
  let clauses :=
    if query.clauses.isEmpty then []
    else Style.dimmed.apply colors "Field    Op   Neg  Fuzzy Value" :: query.clauses.map row
  let freeText :=
    if query.freeText.isEmpty then []
    else ["", Style.bold.apply colors "Free text", "  " ++ " ".intercalate query.freeText]
  if query.isEmpty then joinLines ["No clauses found."]
  else joinLines (clauses ++ freeText ++ errorLines colors (query.errors.map ParseError.describe))

-- A range is written with a square bracket at a bound that is inside, a round bracket at any
-- other end, and a star for a bound that is missing.
def conditionText? : DateCondition → Option String
  | .any => none
  | .missing => some "none"
  | .range range =>
      let opening := if range.start.isNone || range.startExclusive then "(" else "["
      let closing := if range.stop.isNone || range.stopExclusive then ")" else "]"
      let text (given : Option Timestamp) : String := (given.map (·.text)).getD "*"
      some (opening ++ text range.start ++ " .. " ++ text range.stop ++ closing)

def filterRows (filter : Filter) : List (String × String) :=
  let tags (items : List String) : Option String :=
    if items.isEmpty then none else some (", ".intercalate items)
  let search := filter.search.map fun text =>
    "\"" ++ text ++ "\" (" ++ Keyword.name filter.searchMode ++ ")"
  [("Status", filter.status.map Keyword.name), ("Priority", filter.priority.map Keyword.name),
    ("Project", filter.projectId), ("Tags", tags filter.tags),
    ("Not tags", tags filter.excludedTags), ("Due", conditionText? filter.due),
    ("Created", conditionText? filter.created), ("Updated", conditionText? filter.updated),
    ("Search", search),
    ("Sort", some (Keyword.name filter.sortKey ++ " " ++ Keyword.name filter.sortOrder))].filterMap
      fun (label, text) => text.map (label, ·)

def interpretationTable (colors : Bool) (interpretation : Interpretation) : String :=
  let filter := interpretation.filter
  let row (entry : String × String) : String :=
    "  " ++ Style.dimmed.apply colors (column 10 (entry.1 ++ ":")) ++ " " ++ entry.2
  let messages := interpretation.parseErrors.map ParseError.describe ++
    interpretation.rejected.map RejectedClause.message
  joinLines (
    [Style.bold.apply colors ("Filter (" ++ interpretation.kind.name ++ " input)")] ++
    (if filter.isUnrestricted then ["  (matches every task)"] else []) ++
    (filterRows filter).map row ++ errorLines colors messages)

def scoreStyle (score : Nat) : Style :=
  if 80 ≤ score then .green else if 50 ≤ score then .yellow else .dimmed

def matchTable (colors : Bool) (found : List Fuzzy.Match) : String :=
  let row (m : Fuzzy.Match) : String :=
    (scoreStyle m.score).apply colors (column 6 (toString m.score)) ++ " " ++
      column 6 (toString m.index) ++ " " ++ m.text
  if found.isEmpty then joinLines ["No matches found."]
  else joinLines (Style.dimmed.apply colors "Score  Index  Text" :: found.map row)

end TaskSearch.Output
