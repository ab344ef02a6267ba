import TaskSearch.Calendar.Day

set_option autoImplicit false

namespace TaskSearch.Calendar

def secondsPerDay : Int :=
  86400

def nanosPerSecond : Nat :=
  1000000000

-- A point in time: seconds since 1970-01-01 in UTC and nanoseconds. Within a leap second the
-- nanoseconds go on from 1000000000, behind the second that the leap second follows.
structure Instant where
  seconds : Int
  nanos : Nat
deriving DecidableEq, Repr

namespace Instant

def le (a b : Instant) : Bool :=
  a.seconds < b.seconds || a.seconds == b.seconds && a.nanos ≤ b.nanos

def lt (a b : Instant) : Bool :=
  a.seconds < b.seconds || a.seconds == b.seconds && a.nanos < b.nanos

def isInCalendar (instant : Instant) : Bool :=
  (Day.mk (instant.seconds / secondsPerDay)).isInCalendar

-- The instant some seconds away. Going on leaves a leap second: forward from the second that it
-- follows, backward from the one behind it.
def shift (instant : Instant) (seconds : Int) : Instant :=
  if instant.nanos < nanosPerSecond ∨ seconds = 0 then
    ⟨instant.seconds + seconds, instant.nanos⟩
  else
    ⟨instant.seconds + seconds + (if seconds < 0 then 1 else 0), instant.nanos - nanosPerSecond⟩

def before (instant : Instant) : Instant :=
  if instant.nanos = 0 then ⟨instant.seconds - 1, nanosPerSecond - 1⟩
  else ⟨instant.seconds, instant.nanos - 1⟩

end Instant

structure LocalTime where
  seconds : Int
  nanos : Nat
deriving DecidableEq, Repr

namespace LocalTime

def day (time : LocalTime) : Day :=
  ⟨time.seconds / secondsPerDay⟩

def secondOfDay (time : LocalTime) : Nat :=
  (time.seconds % secondsPerDay).toNat

def onDay (time : LocalTime) (day : Day) : LocalTime :=
  ⟨day.number * secondsPerDay + time.secondOfDay, time.nanos⟩

def later (time : LocalTime) (seconds : Nat) : LocalTime :=
  if seconds = 0 then time else ⟨time.seconds + seconds, time.nanos % nanosPerSecond⟩

end LocalTime

namespace Day

def midnight (day : Day) : LocalTime :=
  ⟨day.number * secondsPerDay, 0⟩

def lastMoment (day : Day) : LocalTime :=
  ⟨day.number * secondsPerDay + (secondsPerDay - 1), nanosPerSecond - 1⟩

end Day

structure Timestamp where
  instant : Instant
  offset : Int
deriving DecidableEq, Repr

namespace Timestamp

def localTime (time : Timestamp) : LocalTime :=
  ⟨time.instant.seconds + time.offset, time.instant.nanos⟩

def day (time : Timestamp) : Day :=
  time.localTime.day

def padded (width n : Nat) : String :=
  let digits := toString n
  String.ofList (List.replicate (width - digits.length) '0') ++ digits

def yearText (year : Int) : String :=
  if 0 ≤ year && year ≤ 9999 then padded 4 year.toNat
  else (if year < 0 then "-" else "+") ++ padded 4 year.natAbs

def fractionText (nanos : Nat) : String :=
  if nanos = 0 then ""
  else if nanos % 1000000 = 0 then "." ++ padded 3 (nanos / 1000000)
  else if nanos % 1000 = 0 then "." ++ padded 6 (nanos / 1000)
  else "." ++ padded 9 nanos

def offsetText (offset : Int) : String :=
  let minutes := (offset.natAbs + 30) / 60
  (if offset < 0 then "-" else "+") ++ padded 2 (minutes / 60) ++ ":" ++ padded 2 (minutes % 60)

def localText (time : LocalTime) : String :=
  let date := time.day.toDate
  let second := time.secondOfDay
  yearText date.year ++ "-" ++ padded 2 date.month ++ "-" ++ padded 2 date.day ++ "T" ++
    padded 2 (second / 3600) ++ ":" ++ padded 2 (second / 60 % 60) ++ ":" ++
    padded 2 (second % 60 + time.nanos / nanosPerSecond) ++
    fractionText (time.nanos % nanosPerSecond)

def text (time : Timestamp) : String :=
  localText time.localTime ++ offsetText time.offset

def zuluText (time : Timestamp) : String :=
  localText time.localTime ++ (if time.offset = 0 then "Z" else offsetText time.offset)

end Timestamp

end TaskSearch.Calendar
