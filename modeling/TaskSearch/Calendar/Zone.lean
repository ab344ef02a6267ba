import TaskSearch.Calendar.Timestamp

set_option autoImplicit false

namespace TaskSearch.Calendar

structure Transition where
  start : Int
  offset : Int
deriving DecidableEq, Repr

structure Zone where
  base : Int
  -- The transitions, earliest first.
  transitions : List Transition := []
deriving DecidableEq, Repr

namespace Zone

def offsetAt (zone : Zone) (second : Int) : Int :=
  match (zone.transitions.filter (·.start ≤ second)).getLast? with
  | some transition => transition.offset
  | none => zone.base

def offsets (zone : Zone) : List Int :=
  zone.base :: zone.transitions.map (·.offset)

def timestamp (zone : Zone) (instant : Instant) : Timestamp :=
  ⟨instant, zone.offsetAt instant.seconds⟩

def instantOf (time : LocalTime) (offset : Int) : Instant :=
  ⟨time.seconds - offset, time.nanos⟩

-- The offsets at which clocks show a local time. There are none if one of them would put the time
-- outside the calendar.
def localOffsets (zone : Zone) (time : LocalTime) : List Int :=
  let found := zone.offsets.filter fun offset => zone.offsetAt (time.seconds - offset) = offset
  if found.all fun offset => (instantOf time offset).isInCalendar then found else []

def earliest? (zone : Zone) (time : LocalTime) : Option Timestamp :=
  (zone.localOffsets time).max?.map fun offset => ⟨instantOf time offset, offset⟩

def latest? (zone : Zone) (time : LocalTime) : Option Timestamp :=
  (zone.localOffsets time).min?.map fun offset => ⟨instantOf time offset, offset⟩

def unique? (zone : Zone) (time : LocalTime) : Option Timestamp :=
  match (zone.localOffsets time).eraseDups with
  | [offset] => some ⟨instantOf time offset, offset⟩
  | _ => none

-- The first instant of a local time. A time that is skipped moves forward by quarters of an hour,
-- for four hours at most, until clocks show it.
def forward? (zone : Zone) (time : LocalTime) : Option Timestamp :=
  (List.range 17).findSome? fun step => zone.earliest? (time.later (900 * step))

def startOfDay (zone : Zone) (day : Day) : Timestamp :=
  (zone.forward? day.midnight).getD
    (zone.timestamp (instantOf day.midnight 0))

-- The end of a day; if its last second is skipped, the nanosecond before the next day.
def endOfDay (zone : Zone) (day : Day) : Timestamp :=
  match zone.latest? day.lastMoment with
  | some time => time
  | none =>
    match day.next? with
    | some next => zone.timestamp (zone.startOfDay next).instant.before
    | none => zone.timestamp (instantOf day.lastMoment 0)

end Zone

end TaskSearch.Calendar
