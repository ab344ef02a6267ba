set_option autoImplicit false

namespace TaskSearch.Calendar

structure Day where
  number : Int
deriving DecidableEq, Repr

structure CivilDate where
  year : Int
  month : Nat
  day : Nat
deriving DecidableEq, Repr

def isLeapYear (year : Int) : Bool :=
  year % 4 == 0 && (year % 100 != 0 || year % 400 == 0)

def monthLengths (year : Int) : List Nat :=
  [31, if isLeapYear year then 29 else 28, 31, 30, 31, 30, 31, 31, 30, 31, 30, 31]

def daysInMonth (year : Int) (month : Nat) : Nat :=
  (monthLengths year).getD (month - 1) 0

def daysBeforeYear (year : Int) : Int :=
  365 * year + (year + 3) / 4 - (year + 99) / 100 + (year + 399) / 400

def daysBeforeMonth (year : Int) (month : Nat) : Nat :=
  ((monthLengths year).take (month - 1)).foldr (· + ·) 0

def epochDays : Int :=
  719528

namespace CivilDate

def isValid (date : CivilDate) : Bool :=
  1 ≤ date.month && date.month ≤ 12 && 1 ≤ date.day && date.day ≤ daysInMonth date.year date.month

def toDay (date : CivilDate) : Day :=
  ⟨daysBeforeYear date.year + daysBeforeMonth date.year date.month + date.day - 1 - epochDays⟩

end CivilDate

def splitMonths : List Nat → Nat → Nat × Nat
  | [], n => (0, n)
  | length :: rest, n =>
      if n < length then (0, n)
      else
        let (month, day) := splitMonths rest (n - length)
        (month + 1, day)

namespace Day

-- The year in which a day falls. Four hundred years have 146097 days, which gives the year or one
-- next to it.
def year (day : Day) : Int :=
  let n := day.number + epochDays
  let near := n * 400 / 146097
  if n < daysBeforeYear near then near - 1
  else if n < daysBeforeYear (near + 1) then near
  else near + 1

def toDate (day : Day) : CivilDate :=
  let year := day.year
  let (month, rest) :=
    splitMonths (monthLengths year) (day.number + epochDays - daysBeforeYear year).toNat
  ⟨year, month + 1, rest + 1⟩

def addDays (day : Day) (days : Int) : Day :=
  ⟨day.number + days⟩

def earliest : Day :=
  ⟨-96465292⟩

def latest : Day :=
  ⟨95026236⟩

theorem earliest_eq : earliest = (CivilDate.mk (-262143) 1 1).toDay := by
  decide

theorem latest_eq : latest = (CivilDate.mk 262142 12 31).toDay := by
  decide

def isInCalendar (day : Day) : Bool :=
  earliest.number ≤ day.number && day.number ≤ latest.number

def next? (day : Day) : Option Day :=
  if (day.addDays 1).isInCalendar then some (day.addDays 1) else none

def previous? (day : Day) : Option Day :=
  if (day.addDays (-1)).isInCalendar then some (day.addDays (-1)) else none

def addMonths (day : Day) (months : Int) : Day :=
  let date := day.toDate
  let total := date.year * 12 + (date.month - 1) + months
  let year := total / 12
  let month := (total % 12).toNat + 1
  (CivilDate.mk year month (min date.day (daysInMonth year month))).toDay

end Day

end TaskSearch.Calendar
