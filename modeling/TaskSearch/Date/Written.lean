import TaskSearch.Calendar.Timestamp
import TaskSearch.Text.Reader

set_option autoImplicit false

namespace TaskSearch.Date.Written

open Calendar

inductive Part where
  | year
  | month
  | day
  | hour
  | minute
  | second
  | sign (c : Char)
deriving DecidableEq, Repr

def Part.width : Part → Nat
  | year => 4
  | sign _ => 1
  | _ => 2

abbrev Shape := List Part

def yearFirst (separator : Char) : Shape :=
  [.year, .sign separator, .month, .sign separator, .day]

def dayFirst (separator : Char) : Shape :=
  [.day, .sign separator, .month, .sign separator, .year]

def dateShapes : List Shape :=
  [yearFirst '-', yearFirst '/', dayFirst '-', dayFirst '/']

-- Dates with a time of day are written year first and with hyphens. A blank is followed by hours
-- and minutes, a `T` by hours, minutes and seconds.
def timeShapes : List Shape :=
  [yearFirst '-' ++ [.sign ' ', .hour, .sign ':', .minute],
    yearFirst '-' ++ [.sign 'T', .hour, .sign ':', .minute, .sign ':', .second]]

structure Fields where
  year : Nat := 0
  month : Nat := 0
  day : Nat := 0
  hour : Nat := 0
  minute : Nat := 0
  second : Nat := 0
deriving DecidableEq, Repr

namespace Fields

def put (fields : Fields) (n : Nat) : Part → Fields
  | .year => { fields with year := n }
  | .month => { fields with month := n }
  | .day => { fields with day := n }
  | .hour => { fields with hour := n }
  | .minute => { fields with minute := n }
  | .second => { fields with second := n }
  | .sign _ => fields

def date (fields : Fields) : CivilDate :=
  ⟨fields.year, fields.month, fields.day⟩

def isValid (fields : Fields) : Bool :=
  fields.date.isValid && fields.hour ≤ 23 && fields.minute ≤ 59 && fields.second ≤ 60

def localTime (fields : Fields) : LocalTime :=
  let minute := fields.date.toDay.number * secondsPerDay + fields.hour * 3600 + fields.minute * 60
  if fields.second = 60 then ⟨minute + 59, nanosPerSecond⟩ else ⟨minute + fields.second, 0⟩

end Fields

def readFields? : Shape → List Char → Option Fields
  | [], [] => some {}
  | [], _ :: _ => none
  | .sign c :: shape, cs => if cs.head? = some c then readFields? shape cs.tail else none
  | part :: shape, cs =>
      if part.width ≤ cs.length then do
        let n ← Text.decimalNumber? (cs.take part.width)
        let fields ← readFields? shape (cs.drop part.width)
        some (fields.put n part)
      else none

def readAny? (shapes : List Shape) (cs : List Char) : Option Fields :=
  shapes.findSome? fun shape => (readFields? shape cs).filter Fields.isValid

end TaskSearch.Date.Written
