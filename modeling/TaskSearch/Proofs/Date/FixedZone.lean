import TaskSearch.Proofs.Calendar.DayBoundaries
import TaskSearch.Proofs.Date.Offset

set_option autoImplicit false

namespace TaskSearch.Calendar.Zone

structure Fixed (zone : Zone) : Prop where
  unchanged : zone.transitions = []
  near : -secondsPerDay < zone.base ∧ zone.base < secondsPerDay

section

variable (zone : Zone) (fixed : zone.Fixed)

include fixed

theorem fixed_offset (second : Int) : zone.offsetAt second = zone.base := by
  rw [offsetAt, fixed.unchanged]
  rfl

theorem fixed_shown (second : Int) : zone.shown second = second + zone.base := by
  rw [shown, zone.fixed_offset fixed]

theorem fixed_bounded : zone.Bounded := by
  intro second
  rw [zone.fixed_offset fixed]
  exact fixed.near

theorem fixed_regular : zone.Regular where
  bounded := zone.fixed_bounded fixed
  jump := by
    intro second
    simp only [zone.fixed_offset fixed]
    omega
  quarter := by
    intro second change
    simp only [Changes, zone.fixed_offset fixed, ne_eq, not_true_eq_false] at change
  apart := by
    intro earlier later _ change
    simp only [Changes, zone.fixed_offset fixed, ne_eq, not_true_eq_false] at change
  midnight := by
    intro second day
    simp only [zone.fixed_offset fixed]
    omega

theorem fixed_start (day : Day) (inside : day.Within 1) :
    zone.startOfDay day = ⟨instantOf day.midnight zone.base, zone.base⟩ := by
  have begins : zone.Begins day (day.midnight.seconds - zone.base) := by
    intro second
    rw [zone.fixed_shown fixed]
    omega
  rw [zone.start_of_day_eq (zone.fixed_regular fixed) day inside _ begins, timestamp,
    zone.fixed_offset fixed]
  rfl

theorem fixed_once (time : LocalTime) : zone.ShownOnce time (time.seconds - zone.base) := by
  intro other
  rw [zone.fixed_shown fixed]
  omega

theorem once_of_fixed (time : LocalTime) (second : Int) (once : zone.ShownOnce time second) :
    second = time.seconds - zone.base :=
  ((once _).mp ((zone.fixed_once fixed time _).mpr rfl)).symm

theorem fixed_local (time : LocalTime) :
    (zone.timestamp (instantOf time zone.base)).localTime = time := by
  simp only [timestamp, Timestamp.localTime, instantOf, zone.fixed_offset fixed]
  exact congrArg (LocalTime.mk · time.nanos) (Int.sub_add_cancel _ _)

end

end TaskSearch.Calendar.Zone

namespace TaskSearch.Date

open Calendar

-- The local time that lies an amount of a unit away by the calendar.
def movedTime (time : LocalTime) (amount : Int) : OffsetUnit → LocalTime
  | .minute => ⟨time.seconds + 60 * amount, time.nanos⟩
  | .hour => ⟨time.seconds + 3600 * amount, time.nanos⟩
  | .day => time.onDay (time.day.addDays amount)
  | .week => time.onDay (time.day.addDays (7 * amount))
  | .month => time.onDay (time.day.addMonths amount)
  | .year => time.onDay (time.day.addMonths (12 * amount))

theorem on_day_day (time : LocalTime) (day : Day) : (time.onDay day).day = day := by
  have number : (time.onDay day).seconds / secondsPerDay = day.number := by
    simp only [LocalTime.onDay, LocalTime.secondOfDay, secondsPerDay]
    omega
  exact congrArg Day.mk number

theorem on_later_day (time : LocalTime) (days : Int) :
    (time.onDay (time.day.addDays days)).seconds = time.seconds + 86400 * days := by
  simp only [LocalTime.onDay, LocalTime.secondOfDay, LocalTime.day, Day.addDays, secondsPerDay]
  omega

theorem moved_nanos (time : LocalTime) (amount : Int) (unit : OffsetUnit) :
    (movedTime time amount unit).nanos = time.nanos := by
  cases unit <;> rfl

theorem moved_seconds (time : LocalTime) (amount : Int) (unit : OffsetUnit) (seconds : Nat)
    (length : unit.length = .inl seconds) :
    (movedTime time amount unit).seconds = time.seconds + amount * seconds := by
  cases unit with
  | month | year => cases length
  | minute | hour =>
      obtain rfl := Sum.inl.inj length
      simp only [movedTime]
      push_cast
      omega
  | day | week =>
      obtain rfl := Sum.inl.inj length
      simp only [movedTime, on_later_day]
      push_cast
      omega

theorem moved_turned (time : LocalTime) (amount : Int) (unit : OffsetUnit) (months : Nat)
    (length : unit.length = .inr months) :
    movedTime time amount unit = time.onDay (time.day.addMonths (amount * months)) := by
  cases unit with
  | minute | hour | day | week => cases length
  | month | year =>
      obtain rfl := Sum.inr.inj length
      simp [movedTime, Int.mul_comm]

theorem moved_grows (time : LocalTime) (fewer more : Int) (unit : OffsetUnit)
    (ordered : fewer ≤ more) :
    (movedTime time fewer unit).day.number ≤ (movedTime time more unit).day.number := by
  cases length : unit.length with
  | inl seconds =>
      have longer : fewer * seconds ≤ more * seconds :=
        Int.mul_le_mul_of_nonneg_right ordered (Int.natCast_nonneg seconds)
      apply Int.ediv_le_ediv (by decide)
      rw [moved_seconds time fewer unit seconds length, moved_seconds time more unit seconds length]
      exact Int.add_le_add_left longer _
  | inr months =>
      rw [moved_turned time fewer unit months length, moved_turned time more unit months length,
        on_day_day, on_day_day]
      exact add_months_grows time.day _ _
        (Int.mul_le_mul_of_nonneg_right ordered (Int.natCast_nonneg months))

section

variable (clock : Clock) (fixed : clock.zone.Fixed) (plain : clock.now.nanos < nanosPerSecond)

include fixed plain

theorem shift_moved (amount : Int) (unit : OffsetUnit) (seconds : Nat)
    (length : unit.length = .inl seconds) :
    clock.now.shift (amount * seconds) =
      Zone.instantOf (movedTime clock.time.localTime amount unit) clock.zone.base := by
  rw [Instant.shift, if_pos (.inl plain), Zone.instantOf, moved_nanos,
    moved_seconds _ amount unit seconds length]
  simp only [Clock.time, Zone.timestamp, Timestamp.localTime, clock.zone.fixed_offset fixed,
    Instant.mk.injEq, and_true]
  omega

theorem reached_moved (amount : Int) (unit : OffsetUnit) (instant : Instant)
    (reached : clock.Reaches amount unit instant) :
    instant = Zone.instantOf (movedTime clock.time.localTime amount unit) clock.zone.base := by
  cases reached with
  | elapsed seconds length inside => exact shift_moved clock fixed plain amount unit seconds length
  | turned months length day later known second once inside =>
      obtain rfl := (months_later_iff _ day _).mp later
      rw [clock.zone.once_of_fixed fixed _ second once, moved_turned _ amount unit months length]
      rfl

theorem moved_reached (amount : Int) (unit : OffsetUnit)
    (inside : (movedTime clock.time.localTime amount unit).day.Within 1) :
    clock.Reaches amount unit
      (Zone.instantOf (movedTime clock.time.localTime amount unit) clock.zone.base) := by
  have known : (Zone.instantOf (movedTime clock.time.localTime amount unit)
      clock.zone.base).isInCalendar = true := by
    apply clock.zone.fits_bounded (clock.zone.fixed_bounded fixed) _ inside _ rfl
    exact (clock.zone.fixed_once fixed _ _).mpr rfl
  cases length : unit.length with
  | inl seconds =>
      rw [← shift_moved clock fixed plain amount unit seconds length] at known ⊢
      exact .elapsed unit seconds length known
  | inr months =>
      rw [moved_turned _ amount unit months length] at inside known ⊢
      rw [on_day_day] at inside
      exact .turned unit months length _ ((months_later_iff _ _ _).mpr rfl)
        (.inr (Day.within_in_calendar _ inside)) _ (clock.zone.fixed_once fixed _) known

theorem start_of_moved (amount : Int) (unit : OffsetUnit) (time : Timestamp) (text : String)
    (asked : IsOffset text amount unit) (read : parseDate text clock = .ok (.at time)) :
    time = clock.zone.startOfDay (movedTime clock.time.localTime amount unit).day := by
  obtain ⟨instant, reached, rfl⟩ := reached_of_parse clock text amount unit asked time read
  rw [reached_moved clock fixed plain amount unit instant reached, Timestamp.day,
    clock.zone.fixed_local fixed]

end

theorem reaches_weeks (clock : Clock) (weeks : Int) (instant : Instant) :
    clock.Reaches weeks .week instant ↔ clock.Reaches (7 * weeks) .day instant := by
  have same : weeks * (604800 : Nat) = 7 * weeks * (86400 : Nat) := by
    push_cast
    omega
  rw [reaches_elapsed clock weeks .week instant 604800 rfl,
    reaches_elapsed clock (7 * weeks) .day instant 86400 rfl, same]

theorem reaches_years (clock : Clock) (years : Int) (instant : Instant) :
    clock.Reaches years .year instant ↔ clock.Reaches (12 * years) .month instant := by
  have same : years * (12 : Nat) = 12 * years * (1 : Nat) := by
    push_cast
    omega
  have none : years = 0 ↔ 12 * years = 0 := by omega
  rw [reaches_turned clock years .year instant 12 rfl,
    reaches_turned clock (12 * years) .month instant 1 rfl, same, none]

theorem fixed_offsets_follow_calendar (clock : Clock) (fixed : clock.zone.Fixed)
    (plain : clock.now.nanos < nanosPerSecond) :
    (∀ text amount unit, IsOffset text amount unit →
      ((movedTime clock.time.localTime amount unit).day.Within 1 →
        stops text clock = (!clock.today.isInCalendar) ∧
        parseDate text clock = .ok (.at
          ⟨Zone.instantOf (movedTime clock.time.localTime amount unit).day.midnight
            clock.zone.base, clock.zone.base⟩)) ∧
      ((Zone.instantOf (movedTime clock.time.localTime amount unit)
          clock.zone.base).isInCalendar = false →
        stops text clock = (!clock.today.isInCalendar) ∧
        parseDate text clock = .error (.outOfRange (Text.trim text)))) ∧
    (∀ amount,
      (movedTime clock.time.localTime amount .minute).seconds =
        clock.time.localTime.seconds + 60 * amount ∧
      (movedTime clock.time.localTime amount .hour).seconds =
        clock.time.localTime.seconds + 3600 * amount ∧
      (movedTime clock.time.localTime amount .day).day = clock.today.addDays amount ∧
      (movedTime clock.time.localTime amount .week).day = clock.today.addDays (7 * amount) ∧
      clock.today.MonthsLater (movedTime clock.time.localTime amount .month).day amount ∧
      clock.today.MonthsLater (movedTime clock.time.localTime amount .year).day (12 * amount)) ∧
    (∀ weeks days n, IsOffset weeks n .week → IsOffset days (7 * n) .day →
      stops weeks clock = stops days clock ∧ (stops weeks clock = false →
        (∃ value, parseDate weeks clock = .ok value ∧ parseDate days clock = .ok value) ∨
          parseDate weeks clock = .error (.outOfRange (Text.trim weeks)) ∧
            parseDate days clock = .error (.outOfRange (Text.trim days)))) ∧
    (∀ years months n, IsOffset years n .year → IsOffset months (12 * n) .month →
      stops years clock = stops months clock ∧ (stops years clock = false →
        (∃ value, parseDate years clock = .ok value ∧ parseDate months clock = .ok value) ∨
          parseDate years clock = .error (.outOfRange (Text.trim years)) ∧
            parseDate months clock = .error (.outOfRange (Text.trim months)))) ∧
    (∀ shorter longer fewer more unit first second, fewer ≤ more →
      IsOffset shorter fewer unit → IsOffset longer more unit →
      parseDate shorter clock = .ok (.at first) → parseDate longer clock = .ok (.at second) →
      first.day.number ≤ second.day.number) := by
  refine ⟨fun text amount unit asked => ⟨fun inside => ?_, fun outside => ?_⟩,
    fun amount => ?_, ?_, ?_, ?_⟩
  · have reached := moved_reached clock fixed plain amount unit inside
    have start := clock.zone.fixed_start fixed _ inside
    constructor
    · rw [stops_reached clock text amount unit asked _ reached, Timestamp.day,
        clock.zone.fixed_local fixed, Day.within_in_calendar _ inside, Bool.not_true,
        Bool.or_false]
    · rw [parse_reached clock text amount unit asked _ reached, Timestamp.day,
        clock.zone.fixed_local fixed, start]
  · have none (instant : Instant) : ¬ clock.Reaches amount unit instant := by
      intro reached
      have known := reached.in_calendar
      rw [reached_moved clock fixed plain amount unit instant reached] at known
      exact Bool.noConfusion (outside.symm.trans known)
    exact ⟨stops_unreached clock text amount unit asked none,
      parse_unreached clock text amount unit asked none⟩
  · refine ⟨rfl, rfl, on_day_day _ _, on_day_day _ _, ?_, ?_⟩
    · exact (months_later_iff _ _ _).mpr (on_day_day _ _)
    · exact (months_later_iff _ _ _).mpr (on_day_day _ _)
  · intro weeks days n askedWeeks askedDays
    have same := reaches_weeks clock n
    exact ⟨stops_same clock weeks n .week askedWeeks days _ .day askedDays same,
      fun _ => parse_same clock weeks n .week askedWeeks days _ .day askedDays same⟩
  · intro years months n askedYears askedMonths
    have same := reaches_years clock n
    exact ⟨stops_same clock years n .year askedYears months _ .month askedMonths same,
      fun _ => parse_same clock years n .year askedYears months _ .month askedMonths same⟩
  · intro shorter longer fewer more unit first second ordered askedFewer askedMore read readMore
    rw [start_of_moved clock fixed plain fewer unit first shorter askedFewer read,
      start_of_moved clock fixed plain more unit second longer askedMore readMore]
    exact clock.zone.start_day_grows (clock.zone.fixed_bounded fixed) _ _
      (moved_grows clock.time.localTime fewer more unit ordered)

-- Clocks five and a half hours before UTC, late in the evening of 2024-01-31.
def eveningClock : Clock :=
  ⟨⟨1706724600, 0⟩, ⟨19800, []⟩⟩

theorem evening_offsets :
    eveningClock.zone.Fixed ∧ eveningClock.now.nanos < nanosPerSecond ∧
      IsOffset " +01M" 1 .month ∧
      (movedTime eveningClock.time.localTime 1 .month).day = (CivilDate.mk 2024 2 29).toDay ∧
      parseDate " +01M" eveningClock = .ok (.at ⟨⟨1709145000, 0⟩, 19800⟩) ∧
      IsOffset "-99999999999999999999h" (-99999999999999999999) .hour ∧
      parseDate "-99999999999999999999h" eveningClock =
        .error (.outOfRange "-99999999999999999999h") := by
  have fixed : eveningClock.zone.Fixed := ⟨rfl, by decide, by decide⟩
  have plain : eveningClock.now.nanos < nanosPerSecond := by decide
  have month : IsOffset " +01M" 1 .month :=
    ⟨false, ['+'], by decide, 2, 1, by decide, by decide, by decide, rfl⟩
  have hours : IsOffset "-99999999999999999999h" (-99999999999999999999) .hour :=
    ⟨true, ['-'], by decide, 20, 99999999999999999999, by decide, by decide, by decide, rfl⟩
  have day : (movedTime eveningClock.time.localTime 1 .month).day =
      (CivilDate.mk 2024 2 29).toDay := by decide
  have calendar := (fixed_offsets_follow_calendar eveningClock fixed plain).1
  have later := (calendar _ _ _ month).1
  rw [day] at later
  exact ⟨fixed, plain, month, day, (later ⟨by decide, by decide⟩).2, hours,
    ((calendar _ _ _ hours).2 (by decide)).2⟩

end TaskSearch.Date
