import TaskSearch.Json.Reader
import TaskSearch.Project

set_option autoImplicit false

namespace TaskSearch

namespace Project

def text? : Json → Option String
  | .string text => some text
  | _ => none

def texts? : Json → Option (List String)
  | .array items => items.mapM text?
  | _ => none

def single? (key : String) (members : List (String × Json)) : Option (Option Json) :=
  match members.filter (·.1 = key) with
  | [] => some none
  | [(_, value)] => some (some value)
  | _ => none

-- A project is an object with an id, a name and maybe aliases, or an array of these in order.
-- Other keys do not count.
def ofJson? : Json → Option Project
  | .object members => do
      let id ← (← single? "id" members).bind text?
      let name ← (← single? "name" members).bind text?
      let aliases ←
        match ← single? "aliases" members with
        | some value => texts? value
        | none => some []
      some { id, name, aliases }
  | .array [id, name] => do some { id := ← text? id, name := ← text? name }
  | .array [id, name, aliases] => do
      some { id := ← text? id, name := ← text? name, aliases := ← texts? aliases }
  | _ => none

def parseList? (text : String) : Option (List Project) := do
  match ← Json.parse? text with
  | .array items => items.mapM ofJson?
  | _ => none

end Project

end TaskSearch
