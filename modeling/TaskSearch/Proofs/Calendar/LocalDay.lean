import Mathlib.Data.Int.LeastGreatest
import TaskSearch.Proofs.Calendar.Reading

set_option autoImplicit false

namespace TaskSearch.Calendar

def Day.Within (day : Day) (margin : Int) : Prop :=
  Day.earliest.number + margin ≤ day.number ∧ day.number + margin ≤ Day.latest.number

theorem Day.within_less (day : Day) (inside : day.Within 2) : day.Within 1 := by
  unfold Day.Within at *
  omega

theorem Day.within_next (day : Day) (inside : day.Within 2) : (day.addDays 1).Within 1 := by
  simp only [Day.Within, Day.addDays] at *
  omega

theorem Day.within_in_calendar (day : Day) (inside : day.Within 1) : day.isInCalendar = true := by
  unfold Day.Within at inside
  simp only [Day.isInCalendar, Bool.and_eq_true, decide_eq_true_eq]
  omega

theorem Day.next_some (day : Day) (inside : day.Within 1) :
    day.next? = some (day.addDays 1) := by
  have known : (day.addDays 1).isInCalendar = true := by
    unfold Day.Within at inside
    simp only [Day.isInCalendar, Bool.and_eq_true, decide_eq_true_eq]
    simp only [Day.addDays]
    omega
  rw [Day.next?, if_pos known]

theorem last_moment_day (day : Day) : day.lastMoment.day = day := by
  have number : day.lastMoment.seconds / secondsPerDay = day.number := by
    simp only [Day.lastMoment, secondsPerDay]
    omega
  exact congrArg Day.mk number

theorem later_midnight (day : Day) (seconds : Nat) :
    day.midnight.later seconds = ⟨day.midnight.seconds + seconds, 0⟩ := by
  unfold LocalTime.later
  split
  · rename_i none
    simp [none, Day.midnight]
  · rfl

theorem quarter_on_day (day : Day) (step : Nat) (bound : step < 17) :
    (day.midnight.later (900 * step)).day = day := by
  have number : (day.midnight.later (900 * step)).seconds / secondsPerDay = day.number := by
    rw [later_midnight]
    simp only [Day.midnight, secondsPerDay]
    omega
  exact congrArg Day.mk number

namespace Zone

def Bounded (zone : Zone) : Prop :=
  ∀ second, -secondsPerDay < zone.offsetAt second ∧ zone.offsetAt second < secondsPerDay

def Changes (zone : Zone) (second : Int) : Prop :=
  zone.offsetAt (second - 1) ≠ zone.offsetAt second

-- Offsets are below a day. A change is of four hours at most, 48 hours away from any other, between
-- local times on the quarter of an hour, and shows no midnight a second time that lies strictly
-- inside the repeated interval.
structure Regular (zone : Zone) : Prop where
  bounded : ∀ second,
    -secondsPerDay < zone.offsetAt second ∧ zone.offsetAt second < secondsPerDay
  jump : ∀ second,
    zone.offsetAt second - zone.offsetAt (second - 1) ≤ 14400 ∧
      zone.offsetAt (second - 1) - zone.offsetAt second ≤ 14400
  quarter : ∀ second, zone.Changes second →
    (second + zone.offsetAt (second - 1)) % 900 = 0 ∧ (second + zone.offsetAt second) % 900 = 0
  apart : ∀ earlier later, earlier < later → zone.Changes earlier → zone.Changes later →
    earlier + 172800 ≤ later
  midnight : ∀ second (day : Day),
    ¬ (second + zone.offsetAt second < day.midnight.seconds ∧
      day.midnight.seconds < second + zone.offsetAt (second - 1))

def Begins (zone : Zone) (day : Day) (first : Int) : Prop :=
  ∀ second, day.midnight.seconds ≤ zone.shown second ↔ first ≤ second

theorem shown_next (zone : Zone) (second : Int) (still : ¬ zone.Changes (second + 1)) :
    zone.shown (second + 1) = zone.shown second + 1 := by
  have same : zone.offsetAt second = zone.offsetAt (second + 1) := by
    simpa [Changes] using still
  unfold shown
  omega

theorem shown_still (zone : Zone) (start stop : Int) (ordered : start ≤ stop)
    (still : ∀ second, start < second → second ≤ stop → ¬ zone.Changes second) :
    zone.shown stop = zone.shown start + (stop - start) := by
  induction stop, ordered using Int.leInduction with
  | base => omega
  | succ stop ordered ih =>
      have before := ih fun second after upTo => still second after (by omega)
      rw [shown_next zone stop (still (stop + 1) (by omega) (by omega)), before]
      omega

theorem day_kept (zone : Zone) (regular : zone.Regular) (day : Day) (second : Int)
    (reached : day.midnight.seconds ≤ zone.shown second) :
    day.midnight.seconds ≤ zone.shown (second + 1) := by
  by_contra fallen
  apply regular.midnight (second + 1) day
  rw [Int.add_sub_cancel]
  unfold shown at reached fallen
  omega

theorem day_stays (zone : Zone) (regular : zone.Regular) (day : Day) (earlier later : Int)
    (ordered : earlier ≤ later) (reached : day.midnight.seconds ≤ zone.shown earlier) :
    day.midnight.seconds ≤ zone.shown later := by
  induction later, ordered using Int.leInduction with
  | base => exact reached
  | succ later ordered ih => exact day_kept zone regular day later ih

theorem shown_at_begin (zone : Zone) (regular : zone.Regular) (day : Day) (first : Int)
    (begins : zone.Begins day first) :
    zone.shown (first - 1) < day.midnight.seconds ∧ day.midnight.seconds ≤ zone.shown first ∧
      zone.shown first ≤ zone.shown (first - 1) + 14401 := by
  have reached := (begins first).mpr (Int.le_refl first)
  have before : ¬ day.midnight.seconds ≤ zone.shown (first - 1) := by
    rw [begins]
    omega
  have jump := regular.jump first
  unfold shown at *
  omega

theorem exists_begins (zone : Zone) (regular : zone.Regular) (day : Day) :
    ∃ first, zone.Begins day first := by
  have low : ∃ bound, ∀ second, day.midnight.seconds ≤ zone.shown second → bound ≤ second := by
    refine ⟨day.midnight.seconds - secondsPerDay, fun second reached => ?_⟩
    have := regular.bounded second
    unfold shown at reached
    omega
  have some : ∃ second, day.midnight.seconds ≤ zone.shown second := by
    refine ⟨day.midnight.seconds + secondsPerDay, ?_⟩
    have := regular.bounded (day.midnight.seconds + secondsPerDay)
    unfold shown
    omega
  obtain ⟨first, reached, least⟩ := Int.exists_least_of_bdd low some
  exact ⟨first, fun second =>
    ⟨least second, fun later => day_stays zone regular day first second later reached⟩⟩

theorem begins_iff (zone : Zone) (day : Day) (first : Int) (begins : zone.Begins day first)
    (instant : Instant) :
    day.number ≤ (zone.timestamp instant).day.number ↔ first ≤ instant.seconds := by
  rw [← begins instant.seconds]
  exact Int.le_ediv_iff_mul_le (by decide)

theorem day_le_iff (zone : Zone) (day : Day) (stop : Int)
    (begins : zone.Begins (day.addDays 1) stop) (instant : Instant) :
    (zone.timestamp instant).day.number ≤ day.number ↔ instant.seconds < stop := by
  have next := begins_iff zone (day.addDays 1) stop begins instant
  simp only [Day.addDays] at next
  omega

theorem shown_after_change (zone : Zone) (regular : zone.Regular) (day : Day) (first : Int)
    (begins : zone.Begins day first) (change : zone.Changes first) (second : Int)
    (later : first ≤ second) : zone.shown first ≤ zone.shown second := by
  have reached := (begins first).mpr (Int.le_refl first)
  have still (stop : Int) (near : stop < first + 172800) (after : first ≤ stop) :
      zone.shown stop = zone.shown first + (stop - first) := by
    apply shown_still zone first stop after
    intro other behind upTo again
    have := regular.apart first other behind change again
    omega
  by_cases near : second < first + 172800
  · have := still second near later
    omega
  · have stop := still (first + 172799) (by omega) (by omega)
    have next : (day.addDays 1).midnight.seconds ≤ zone.shown (first + 172799) := by
      simp only [Day.midnight, Day.addDays, secondsPerDay] at reached ⊢
      omega
    have kept := day_stays zone regular (day.addDays 1) _ second (by omega) next
    have small := shown_at_begin zone regular day first begins
    simp only [Day.midnight, Day.addDays, secondsPerDay] at kept small
    omega

theorem shown_before_change (zone : Zone) (regular : zone.Regular) (day : Day) (first : Int)
    (begins : zone.Begins day first) (change : zone.Changes first) (second : Int)
    (earlier : second < first) : zone.shown second ≤ zone.shown (first - 1) := by
  have small := shown_at_begin zone regular day first begins
  have still (start : Int) (near : first - 172800 ≤ start) (before : start ≤ first - 1) :
      zone.shown (first - 1) = zone.shown start + (first - 1 - start) := by
    apply shown_still zone start (first - 1) before
    intro other behind upTo again
    have := regular.apart other first (by omega) again change
    omega
  by_cases near : first - 172800 ≤ second
  · have := still second near (by omega)
    omega
  · have start := still (first - 172800) (by omega) (by omega)
    have fresh : ¬ (day.addDays (-1)).midnight.seconds ≤ zone.shown second := by
      intro reached
      have kept := day_stays zone regular (day.addDays (-1)) second (first - 172800) (by omega)
        reached
      simp only [Day.midnight, Day.addDays, secondsPerDay] at kept small
      omega
    simp only [Day.midnight, Day.addDays, secondsPerDay] at fresh small
    omega

theorem change_of_skip (zone : Zone) (second : Int)
    (skip : zone.shown second ≠ zone.shown (second - 1) + 1) : zone.Changes second := by
  intro same
  unfold shown at skip
  omega

theorem begin_on_quarter (zone : Zone) (regular : zone.Regular) (day : Day) (first : Int)
    (begins : zone.Begins day first) :
    ∃ step < 17, zone.shown first = day.midnight.seconds + 900 * (step : Nat) := by
  have small := shown_at_begin zone regular day first begins
  by_cases skip : zone.shown first = zone.shown (first - 1) + 1
  · exact ⟨0, by omega, by omega⟩
  · have quarter := (regular.quarter first (change_of_skip zone first skip)).2
    have shows : first + zone.offsetAt first = zone.shown first := rfl
    rw [shows] at quarter
    refine ⟨((zone.shown first - day.midnight.seconds) / 900).toNat, ?_, ?_⟩
    · omega
    · simp only [Day.midnight, secondsPerDay] at small ⊢
      omega

theorem quarter_skipped (zone : Zone) (regular : zone.Regular) (day : Day) (first time : Int)
    (begins : zone.Begins day first) (fromMidnight : day.midnight.seconds ≤ time)
    (before : time < zone.shown first) (second : Int) : zone.shown second ≠ time := by
  intro shows
  have small := shown_at_begin zone regular day first begins
  have later : first ≤ second := (begins second).mp (by omega)
  have change := change_of_skip zone first (by omega)
  have := shown_after_change zone regular day first begins change second later
  omega

theorem fits_bounded (zone : Zone) (bounded : zone.Bounded) (day : Day) (inside : day.Within 1)
    (time : LocalTime) (onDay : time.day = day) : zone.Fits time := by
  intro second shows
  obtain ⟨low, high⟩ := bounded second
  obtain ⟨early, late⟩ := inside
  have same : time.seconds / secondsPerDay = day.number := congrArg Day.number onDay
  simp only [Instant.isInCalendar, Day.isInCalendar, Bool.and_eq_true, decide_eq_true_eq]
  simp only [shown, secondsPerDay] at *
  omega

theorem forward_at (zone : Zone) (time : LocalTime) (step : Nat) (bound : step < 17)
    (found : Timestamp) (shows : zone.earliest? (time.later (900 * step)) = some found)
    (skipped : ∀ earlier < step, zone.earliest? (time.later (900 * earlier)) = none) :
    zone.forward? time = some found := by
  have cut : ∀ n < 17,
      List.range 17 = List.range n ++ n :: (List.range (16 - n)).map (· + (n + 1)) := by
    decide
  rw [forward?, List.findSome?_eq_some_iff]
  refine ⟨_, step, _, cut step bound, shows, ?_⟩
  intro earlier member
  exact skipped earlier (List.mem_range.mp member)

theorem start_of_day_eq (zone : Zone) (regular : zone.Regular) (day : Day) (inside : day.Within 1)
    (first : Int) (begins : zone.Begins day first) :
    zone.startOfDay day = zone.timestamp ⟨first, 0⟩ := by
  obtain ⟨step, bound, shows⟩ := begin_on_quarter zone regular day first begins
  have forward : zone.forward? day.midnight = some (zone.timestamp ⟨first, 0⟩) := by
    apply forward_at zone day.midnight step bound
    · have fits := fits_bounded zone regular.bounded day inside _ (quarter_on_day day step bound)
      rw [later_midnight] at fits ⊢
      apply earliest_at zone _ first fits
      · rw [shows]
        simp
      · intro other again
        apply (begins other).mp
        simp only at again
        omega
    · intro earlier less
      rw [later_midnight]
      apply earliest_skipped
      exact quarter_skipped zone regular day first _ begins (by simp only; omega)
        (by simp only; omega)
  rw [startOfDay, forward, Option.getD_some]

theorem start_of_day_day (zone : Zone) (regular : zone.Regular) (day : Day)
    (inside : day.Within 1) : (zone.startOfDay day).day = day := by
  obtain ⟨first, begins⟩ := exists_begins zone regular day
  obtain ⟨step, bound, shows⟩ := begin_on_quarter zone regular day first begins
  rw [start_of_day_eq zone regular day inside first begins]
  have number : zone.shown first / secondsPerDay = day.number := by
    simp only [shows, Day.midnight, secondsPerDay]
    omega
  exact congrArg Day.mk number

theorem end_of_day_eq (zone : Zone) (regular : zone.Regular) (day : Day) (inside : day.Within 2)
    (stop : Int) (begins : zone.Begins (day.addDays 1) stop) :
    zone.endOfDay day = zone.timestamp ⟨stop - 1, nanosPerSecond - 1⟩ := by
  have small := shown_at_begin zone regular (day.addDays 1) stop begins
  have moment : (day.addDays 1).midnight.seconds = day.lastMoment.seconds + 1 := by
    simp only [Day.midnight, Day.addDays, Day.lastMoment, secondsPerDay]
    omega
  rw [moment] at small
  by_cases shows : zone.shown (stop - 1) = day.lastMoment.seconds
  · have latest : zone.latest? day.lastMoment =
        some (zone.timestamp ⟨stop - 1, nanosPerSecond - 1⟩) := by
      apply latest_at zone day.lastMoment (stop - 1) _ shows
      · intro other again
        have before : ¬ (day.addDays 1).midnight.seconds ≤ zone.shown other := by omega
        rw [begins] at before
        omega
      · exact fits_bounded zone regular.bounded day (day.within_less inside) _
          (last_moment_day day)
    rw [endOfDay, latest]
  · have change := change_of_skip zone stop (by omega)
    have skipped (second : Int) : zone.shown second ≠ day.lastMoment.seconds := by
      by_cases earlier : second < stop
      · have := shown_before_change zone regular (day.addDays 1) stop begins change second earlier
        omega
      · have := (begins second).mpr (by omega)
        omega
    have inside' := day.within_next inside
    have next := day.next_some (day.within_less inside)
    have start := start_of_day_eq zone regular (day.addDays 1) inside' stop begins
    rw [endOfDay, latest_skipped zone day.lastMoment skipped, next]
    simp only [start]
    rfl

theorem from_start_iff (zone : Zone) (regular : zone.Regular) (day : Day) (inside : day.Within 1)
    (instant : Instant) :
    (zone.startOfDay day).instant.le instant = true ↔
      day.number ≤ (zone.timestamp instant).day.number := by
  obtain ⟨first, begins⟩ := exists_begins zone regular day
  rw [start_of_day_eq zone regular day inside first begins, begins_iff zone day first begins]
  rw [Instant.le_iff]
  simp only [timestamp]
  omega

theorem up_to_end_iff (zone : Zone) (regular : zone.Regular) (day : Day) (inside : day.Within 2)
    (instant : Instant) (plain : instant.nanos < nanosPerSecond) :
    instant.le (zone.endOfDay day).instant = true ↔
      (zone.timestamp instant).day.number ≤ day.number := by
  obtain ⟨stop, begins⟩ := exists_begins zone regular (day.addDays 1)
  rw [end_of_day_eq zone regular day inside stop begins, day_le_iff zone day stop begins]
  rw [Instant.le_iff]
  simp only [timestamp]
  omega

end Zone

end TaskSearch.Calendar
