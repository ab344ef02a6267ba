import TaskSearch.Date.Value
import TaskSearch.Project
import TaskSearch.Query.Clause

set_option autoImplicit false

namespace TaskSearch

open Date (DateError)

inductive Rejection where
  | invalidValue (field : Field) (value expected : String) (suggestion : Option String)
  | unsupportedOperator (field : Field) (operator : Operator)
  | negationUnsupported (field : Field)
  | projectNotFound (name : String) (suggestion : Option String)
  | noFuzzyMatch (name : String)
  | emptyTag
  | invalidDate (field : Field) (error : DateError)
  | lookupFailed (failure : LookupFailure)
deriving DecidableEq, Repr

namespace Rejection

def suggestionText : Option String → String
  | some suggestion => ". Did you mean '" ++ suggestion ++ "'?"
  | none => ""

def message : Rejection → String
  | invalidValue field value expected suggestion =>
      "invalid " ++ field.name ++ " '" ++ value ++ "' (expected one of: " ++ expected ++ ")" ++
        suggestionText suggestion
  | unsupportedOperator field operator =>
      "operator '" ++ operator.text ++ "' is not supported for " ++ field.name ++
        " (use ':' or '=')"
  | negationUnsupported field => "negating '" ++ field.name ++ "' is not supported yet"
  | projectNotFound name suggestion =>
      "project '" ++ name ++ "' not found by name or alias" ++ suggestionText suggestion
  | noFuzzyMatch name => "no project matches '~" ++ name ++ "'"
  | emptyTag => "tag name cannot be empty"
  | invalidDate field error => "invalid " ++ field.name ++ " filter: " ++ error.message
  | lookupFailed failure => failure.message

end Rejection

structure RejectedClause where
  clause : Clause
  rejection : Rejection
deriving DecidableEq, Repr

def RejectedClause.message (rejected : RejectedClause) : String :=
  rejected.clause.render ++ ": " ++ rejected.rejection.message

end TaskSearch
