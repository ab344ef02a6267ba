import TaskSearch.Date.Condition
import TaskSearch.Query.Field

set_option autoImplicit false

namespace TaskSearch

open Date (DateCondition)

inductive Status where
  | pending
  | inProgress
  | completed
  | cancelled
deriving DecidableEq, Repr

instance : Keyword Status where
  all := [.pending, .inProgress, .completed, .cancelled]
  name
    | .pending => "pending"
    | .inProgress => "in_progress"
    | .completed => "completed"
    | .cancelled => "cancelled"

inductive Priority where
  | low
  | medium
  | high
  | urgent
deriving DecidableEq, Repr

instance : Keyword Priority where
  all := [.low, .medium, .high, .urgent]
  name
    | .low => "low"
    | .medium => "medium"
    | .high => "high"
    | .urgent => "urgent"

inductive SearchMode where
  | substring
  | fuzzy
deriving DecidableEq, Repr

instance : Keyword SearchMode where
  all := [.substring, .fuzzy]
  name
    | .substring => "substring"
    | .fuzzy => "fuzzy"

inductive SortKey where
  | created
  | updated
  | due
  | priority
  | title
deriving DecidableEq, Repr

instance : Keyword SortKey where
  all := [.created, .updated, .due, .priority, .title]
  name
    | .created => "created"
    | .updated => "updated"
    | .due => "due"
    | .priority => "priority"
    | .title => "title"

inductive SortOrder where
  | ascending
  | descending
deriving DecidableEq, Repr

instance : Keyword SortOrder where
  all := [.ascending, .descending]
  name
    | .ascending => "asc"
    | .descending => "desc"

structure Filter where
  status : Option Status := none
  priority : Option Priority := none
  projectId : Option String := none
  tags : List String := []
  excludedTags : List String := []
  search : Option String := none
  searchMode : SearchMode := .substring
  sortKey : SortKey := .created
  sortOrder : SortOrder := .descending
  due : DateCondition := .any
  created : DateCondition := .any
  updated : DateCondition := .any
deriving DecidableEq, Repr

namespace Filter

def isUnrestricted (filter : Filter) : Bool :=
  filter.status.isNone && filter.priority.isNone && filter.projectId.isNone &&
    filter.tags.isEmpty && filter.excludedTags.isEmpty && filter.search.isNone &&
    filter.due.isAny && filter.created.isAny && filter.updated.isAny

def addTag (tags : List String) (tag : String) : List String :=
  if tags.contains tag then tags else tags ++ [tag]

def narrowDate (filter : Filter) (field : Field) (condition : DateCondition) : Filter :=
  match field with
  | .due => { filter with due := filter.due.narrow condition }
  | .created => { filter with created := filter.created.narrow condition }
  | .updated => { filter with updated := filter.updated.narrow condition }
  | .status | .priority | .project | .tag => filter

end Filter

end TaskSearch
