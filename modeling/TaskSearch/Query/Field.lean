import TaskSearch.Text.Lower

set_option autoImplicit false

namespace TaskSearch

class Keyword (α : Type) where
  all : List α
  name : α → String

namespace Keyword

variable {α : Type} [Keyword α]

def find? (text : String) : Option α :=
  all.find? fun word => Text.sameIgnoringCase (name word) text

def exactly? (text : String) : Option α :=
  all.find? fun word => name word = text

variable (α) in
def expected : String :=
  ", ".intercalate ((all : List α).map name)

end Keyword

inductive Field where
  | status
  | priority
  | project
  | tag
  | due
  | created
  | updated
deriving DecidableEq, Repr

namespace Field

def all : List Field :=
  [status, priority, project, tag, due, created, updated]

def name : Field → String
  | status => "status"
  | priority => "priority"
  | project => "project"
  | tag => "tag"
  | due => "due"
  | created => "created"
  | updated => "updated"

instance : Keyword Field where
  all := all
  name := name

def named? (word : String) : Option Field :=
  Keyword.find? word

def unknownMessage (word : String) : String :=
  let expected := Keyword.expected Field
  s!"unknown field '{word}' (expected one of: {expected})"

end Field

inductive Operator where
  | colon
  | equal
  | less
  | lessEqual
  | greater
  | greaterEqual
  | notEqual
deriving DecidableEq, Repr

namespace Operator

def all : List Operator :=
  [colon, equal, less, lessEqual, greater, greaterEqual, notEqual]

def text : Operator → String
  | colon => ":"
  | equal => "="
  | less => "<"
  | lessEqual => "<="
  | greater => ">"
  | greaterEqual => ">="
  | notEqual => "!="

def isExact : Operator → Bool
  | colon | equal => true
  | _ => false

end Operator

end TaskSearch
