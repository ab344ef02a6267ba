import TaskSearch.Query.Field
import TaskSearch.Text.Blank

set_option autoImplicit false

namespace TaskSearch

structure Clause where
  field : Field
  operator : Operator
  value : String
  negated : Bool := false
  fuzzy : Bool := false
deriving DecidableEq, Repr

namespace Clause

def mention (name : String) (fuzzy : Bool) : Clause :=
  { field := .project, operator := .colon, value := name, fuzzy }

def excluding (field : Field) (value : String) : Clause :=
  { field, operator := .colon, value, negated := true }

def escapeQuotes : List Char → List Char
  | [] => []
  | c :: rest => if c = '"' then '\\' :: '"' :: escapeQuotes rest else c :: escapeQuotes rest

def renderValue (value : String) : String :=
  if value.toList.any Text.isBlank then
    String.ofList ('"' :: escapeQuotes value.toList ++ ['"'])
  else value

def render (clause : Clause) : String :=
  let value := renderValue clause.value
  if clause.field = .project && clause.fuzzy then "@~" ++ value
  else (if clause.negated then "-" else "") ++ clause.field.name ++ clause.operator.text ++ value

end Clause

end TaskSearch
