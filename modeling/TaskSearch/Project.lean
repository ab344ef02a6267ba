import TaskSearch.Fuzzy.Score

set_option autoImplicit false

namespace TaskSearch

structure Project where
  id : String
  name : String
  aliases : List String := []
deriving DecidableEq, Repr

namespace Project

def names (project : Project) : List String :=
  project.name :: project.aliases

end Project

structure LookupFailure where
  reason : String
deriving DecidableEq, Repr

def LookupFailure.message (failure : LookupFailure) : String :=
  "project lookup failed: " ++ failure.reason

structure ProjectDirectory where
  byName : String → Except LookupFailure (Option Project)
  byAlias : String → Except LookupFailure (Option Project)
  search : String → Nat → Except LookupFailure (List Project)

def ProjectList.defaultThreshold : Nat :=
  40

structure ProjectList where
  projects : List Project
  threshold : Nat := ProjectList.defaultThreshold

namespace ProjectList

def withName? (list : ProjectList) (name : String) : Option Project :=
  list.projects.find? fun project => Text.lower project.name == Text.lower name

def withAlias? (list : ProjectList) (name : String) : Option Project :=
  list.projects.find? fun project =>
    project.aliases.any fun aliasName => Text.lower aliasName == Text.lower name

def candidates (list : ProjectList) : List (Nat × String) :=
  list.projects.zipIdx.flatMap fun (project, owner) => project.names.map fun name => (owner, name)

def ranked (list : ProjectList) (text : String) : List Nat :=
  let candidates := list.candidates
  let matched := Fuzzy.rank text (candidates.map (·.2)) list.threshold
  (matched.filterMap fun found => (candidates[found.index]?).map (·.1)).eraseDups

def search (list : ProjectList) (text : String) (limit : Nat) : List Project :=
  ((list.ranked text).take limit).filterMap fun owner => list.projects[owner]?

def directory (list : ProjectList) : ProjectDirectory where
  byName name := .ok (list.withName? name)
  byAlias name := .ok (list.withAlias? name)
  search text limit := .ok (list.search text limit)

end ProjectList

end TaskSearch
