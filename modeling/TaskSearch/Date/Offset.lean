import TaskSearch.Calendar.Zone
import TaskSearch.Text.Letter
import TaskSearch.Text.Numeral
import TaskSearch.Text.Reader

set_option autoImplicit false

namespace TaskSearch.Date

open Calendar

structure Clock where
  now : Instant
  zone : Zone
deriving DecidableEq, Repr

def Clock.time (clock : Clock) : Timestamp :=
  clock.zone.timestamp clock.now

def Clock.today (clock : Clock) : Day :=
  clock.time.day

inductive OffsetUnit where
  | minute
  | hour
  | day
  | week
  | month
  | year
deriving DecidableEq, Repr

namespace OffsetUnit

def letter : OffsetUnit → Char
  | minute => 'm'
  | hour => 'h'
  | day => 'd'
  | week => 'w'
  | month => 'M'
  | year => 'y'

def all : List OffsetUnit :=
  [minute, hour, day, week, month, year]

def length : OffsetUnit → Nat ⊕ Nat
  | minute => .inl 60
  | hour => .inl 3600
  | day => .inl 86400
  | week => .inl 604800
  | month => .inr 1
  | year => .inr 12

end OffsetUnit

structure Offset where
  backward : Bool
  digits : List Char
  unit : OffsetUnit
deriving DecidableEq, Repr

namespace Offset

def isDigit (c : Char) : Bool :=
  !Text.isRecent c && Text.isDecimalDigit c

def read? (cs : List Char) : Option Offset :=
  let unsigned := if cs.head? = some '+' || cs.head? = some '-' then cs.tail else cs
  match unsigned.takeWhile isDigit, unsigned.dropWhile isDigit with
  | c :: digits, [letter] =>
      (OffsetUnit.all.find? (·.letter = letter)).map fun unit =>
        ⟨cs.head? = some '-', c :: digits, unit⟩
  | _, _ => none

def amount? (offset : Offset) : Option Int :=
  (Text.decimalNumber? offset.digits).map fun n => if offset.backward then -(n : Int) else n

-- The time that is some months from now. A day that the month does not have gives its last day.
-- Clocks have to show the local time exactly once.
def monthsFrom? (clock : Clock) (months : Int) : Option Timestamp :=
  let time := clock.time.localTime
  let day := if months = 0 then time.day else time.day.addMonths months
  if months = 0 || day.isInCalendar then clock.zone.unique? (time.onDay day) else none

def secondsFrom? (clock : Clock) (seconds : Int) : Option Timestamp :=
  let target := clock.now.shift seconds
  if target.isInCalendar then some (clock.zone.timestamp target) else none

def target? (clock : Clock) (offset : Offset) : Option Timestamp := do
  let amount ← offset.amount?
  match offset.unit.length with
  | .inl seconds => secondsFrom? clock (amount * seconds)
  | .inr months => monthsFrom? clock (amount * months)

end Offset

end TaskSearch.Date
