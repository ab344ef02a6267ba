import TaskSearch.Date.Offset
import TaskSearch.Date.Written
import TaskSearch.Query.Field
import TaskSearch.Text.Blank
import TaskSearch.Text.Lower

set_option autoImplicit false

namespace TaskSearch.Date

open Calendar

inductive DateError where
  | invalid (value : String)
  | outOfRange (value : String)
  | noneWithOperator (operator : Operator)
  | noneInRange
  | unsupportedOperator (operator : Operator)
deriving DecidableEq, Repr

def DateError.message : DateError → String
  | invalid value =>
      "invalid date '" ++ value ++ "' (expected YYYY-MM-DD, YYYY/MM/DD, DD-MM-YYYY, DD/MM/YYYY, " ++
        "today, tomorrow, yesterday, none, or an offset like -7d)"
  | outOfRange value => "date offset '" ++ value ++ "' is out of range"
  | noneWithOperator operator => "'none' cannot be used with '" ++ operator.text ++ "'"
  | noneInRange => "'none' cannot be used as a range bound"
  | unsupportedOperator operator =>
      "operator '" ++ operator.text ++ "' is not supported for dates"

inductive DateValue where
  | at (time : Timestamp)
  | noDate
deriving DecidableEq, Repr

inductive DateKeyword where
  | noDate
  | day (day : Day)
deriving DecidableEq, Repr

def readKeyword? (text : String) (today : Day) : Option DateKeyword :=
  let small := Text.lower text
  if small = "none" then some .noDate
  else if small = "today" then some (.day today)
  else if small = "tomorrow" then today.next?.map .day
  else if small = "yesterday" then today.previous?.map .day
  else none

def readWritten? (cs : List Char) (zone : Zone) : Option Timestamp :=
  match Written.readAny? Written.dateShapes cs with
  | some fields => some (zone.startOfDay fields.date.toDay)
  | none =>
    match Written.readAny? Written.timeShapes cs with
    | some fields => zone.forward? fields.localTime
    | none => none

-- A local day outside the calendar cannot be named, neither today nor the day that an offset
-- reaches. Reading breaks off there, so what `parseDate` then says is no answer.
def stops (text : String) (clock : Clock) : Bool :=
  let reached := (Offset.read? (Text.trim text).toList).bind (·.target? clock)
  !clock.today.isInCalendar || reached.any (!·.day.isInCalendar)

def parseDate (text : String) (clock : Clock) : Except DateError DateValue :=
  let text := Text.trim text
  match readKeyword? text clock.today with
  | some .noDate => .ok .noDate
  | some (.day day) => .ok (.at (clock.zone.startOfDay day))
  | none =>
    match Offset.read? text.toList with
    | some offset =>
      match offset.target? clock with
      | some time => .ok (.at (clock.zone.startOfDay time.day))
      | none => .error (.outOfRange text)
    | none =>
      match readWritten? text.toList clock.zone with
      | some time => .ok (.at time)
      | none => .error (.invalid text)

end TaskSearch.Date
