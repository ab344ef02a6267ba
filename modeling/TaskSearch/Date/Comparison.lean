import TaskSearch.Date.Condition
import TaskSearch.Date.Value

set_option autoImplicit false

namespace TaskSearch.Date

open Calendar

def splitRange? : List Char → Option (List Char × List Char)
  | '.' :: '.' :: rest => some ([], rest)
  | c :: rest => (splitRange? rest).map fun (start, stop) => (c :: start, stop)
  | [] => none

def parseDay (text : String) (operator : Operator) (clock : Clock) : Except DateError Day := do
  match ← parseDate text clock with
  | .at time => pure time.day
  | .noDate =>
      throw (if operator.isExact then .noneInRange else .noneWithOperator operator)

def wholeDays (zone : Zone) (first last : Day) : DateCondition :=
  .range (.ofTimes false (some (zone.startOfDay first)) (some (zone.endOfDay last)))

def parseCondition (text : String) (operator : Operator) (clock : Clock) :
    Except DateError DateCondition := do
  let zone := clock.zone
  match operator with
  | .less =>
      let day ← parseDay text operator clock
      pure (.range (.ofTimes true none (some (zone.startOfDay day))))
  | .lessEqual =>
      let day ← parseDay text operator clock
      pure (.range (.ofTimes false none (some (zone.endOfDay day))))
  | .greater =>
      let day ← parseDay text operator clock
      pure (.range (.ofTimes true (some (zone.endOfDay day)) none))
  | .greaterEqual =>
      let day ← parseDay text operator clock
      pure (.range (.ofTimes false (some (zone.startOfDay day)) none))
  | .colon | .equal =>
      match splitRange? text.toList with
      | some (start, stop) =>
          let first ← parseDay (String.ofList start) operator clock
          let last ← parseDay (String.ofList stop) operator clock
          pure (wholeDays zone first last)
      | none =>
          match ← parseDate text clock with
          | .noDate => pure .missing
          | .at time => pure (wholeDays zone time.day time.day)
  | .notEqual => throw (.unsupportedOperator operator)

end TaskSearch.Date
