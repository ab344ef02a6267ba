import TaskSearch.Calendar.Timestamp

set_option autoImplicit false

namespace TaskSearch.Date

open Calendar

structure Bound where
  time : Timestamp
  exclusive : Bool := false
deriving DecidableEq, Repr

structure DateRange where
  start : Option Timestamp := none
  stop : Option Timestamp := none
  startExclusive : Bool := false
  stopExclusive : Bool := false
deriving DecidableEq, Repr

namespace DateRange

def ofTimes (exclusive : Bool) (start stop : Option Timestamp) : DateRange where
  start
  stop
  startExclusive := exclusive && start.isSome
  stopExclusive := exclusive && stop.isSome

def lower (range : DateRange) : Option Bound :=
  range.start.map (⟨·, range.startExclusive⟩)

def upper (range : DateRange) : Option Bound :=
  range.stop.map (⟨·, range.stopExclusive⟩)

def contains (range : DateRange) (instant : Instant) : Bool :=
  let after (start : Timestamp) : Bool :=
    if range.startExclusive then start.instant.lt instant else start.instant.le instant
  let before (stop : Timestamp) : Bool :=
    if range.stopExclusive then instant.lt stop.instant else instant.le stop.instant
  range.start.all after && range.stop.all before

-- The stricter of two ends, where `stricter a b` holds if the instant `a` is stricter than `b`.
-- Of two ends at one instant an exclusive one is stricter.
def tighter (stricter : Instant → Instant → Bool) :
    Option Timestamp × Bool → Option Timestamp × Bool → Option Timestamp × Bool
  | (some a, exclusive), (some b, exclusiveToo) =>
      if a.instant = b.instant then (some a, exclusive || exclusiveToo)
      else if stricter a.instant b.instant then (some a, exclusive)
      else (some b, exclusiveToo)
  | (some a, exclusive), (none, _) => (some a, exclusive)
  | (none, _), other => other

def intersect (a b : DateRange) : DateRange :=
  let start := tighter (fun x y => y.lt x) (a.start, a.startExclusive) (b.start, b.startExclusive)
  let stop := tighter Instant.lt (a.stop, a.stopExclusive) (b.stop, b.stopExclusive)
  ⟨start.1, stop.1, start.2, stop.2⟩

end DateRange

inductive DateCondition where
  | any
  | range (range : DateRange)
  | missing
deriving DecidableEq, Repr

namespace DateCondition

def isAny : DateCondition → Bool
  | any => true
  | _ => false

def admits : DateCondition → Option Instant → Bool
  | any, _ => true
  | missing, date => date.isNone
  | range r, some instant => r.contains instant
  | range _, none => false

def lowerBound? : DateCondition → Option Bound
  | range r => r.lower
  | _ => none

def upperBound? : DateCondition → Option Bound
  | range r => r.upper
  | _ => none

-- Adds a condition to one that is already set. Two ranges are intersected; otherwise the new
-- condition takes the place of the old one.
def narrow : DateCondition → DateCondition → DateCondition
  | range a, range b => range (a.intersect b)
  | _, next => next

end DateCondition

end TaskSearch.Date
