import Mathlib.Order.Bounds.Basic
import TaskSearch.Proofs.Calendar.LocalDay

set_option autoImplicit false

namespace TaskSearch.Calendar.Zone

def dayAt (zone : Zone) (second : Int) : Day :=
  (zone.timestamp ⟨second, 0⟩).day

def Shown (zone : Zone) (time : Int) : Prop :=
  ∃ second, zone.shown second = time

-- A time opens a day if it is the first instant of that day, and closes it if it is not before any
-- instant of that day outside leap seconds.
def Opens (zone : Zone) (day : Day) (time : Timestamp) : Prop :=
  time.day = day ∧
    ∀ instant, (zone.timestamp instant).day = day → time.instant.le instant = true

def Closes (zone : Zone) (day : Day) (time : Timestamp) : Prop :=
  time.day = day ∧
    ∀ instant : Instant, instant.nanos < nanosPerSecond → (zone.timestamp instant).day = day →
      instant.le time.instant = true

theorem opens_iff (zone : Zone) (day : Day) (first second : Int)
    (least : IsLeast {second | zone.dayAt second = day} first) :
    zone.Opens day (zone.timestamp ⟨second, 0⟩) ↔ second = first := by
  constructor
  · rintro ⟨onDay, before⟩
    have earliest : first ≤ second := least.2 onDay
    have early := (Instant.le_iff _ _).mp (before ⟨first, 0⟩ least.1)
    simp only [timestamp] at early
    omega
  · rintro rfl
    refine ⟨least.1, fun instant onDay => ?_⟩
    have later : second ≤ instant.seconds := least.2 onDay
    rw [Instant.le_iff]
    simp only [timestamp]
    omega

theorem closes_iff (zone : Zone) (day : Day) (last second : Int)
    (greatest : IsGreatest {second | zone.dayAt second = day} last) :
    zone.Closes day (zone.timestamp ⟨second, nanosPerSecond - 1⟩) ↔ second = last := by
  constructor
  · rintro ⟨onDay, behind⟩
    have latest : second ≤ last := greatest.2 onDay
    have plain : nanosPerSecond - 1 < nanosPerSecond := by decide
    have late := (Instant.le_iff _ _).mp (behind ⟨last, nanosPerSecond - 1⟩ plain greatest.1)
    simp only [timestamp] at late
    omega
  · rintro rfl
    refine ⟨greatest.1, fun instant plain onDay => ?_⟩
    have earlier : instant.seconds ≤ second := greatest.2 onDay
    rw [Instant.le_iff]
    simp only [timestamp]
    omega

theorem day_at_iff (zone : Zone) (day : Day) (second : Int) :
    zone.dayAt second = day ↔ day.midnight.seconds ≤ zone.shown second ∧
      zone.shown second ≤ day.lastMoment.seconds := by
  have opened : zone.dayAt second = day ↔ zone.shown second / secondsPerDay = day.number :=
    ⟨congrArg Day.number, congrArg Day.mk⟩
  simp only [opened, Day.midnight, Day.lastMoment, secondsPerDay]
  omega

section

variable (zone : Zone) (bounded : zone.Bounded)

include bounded

theorem shown_near (time second : Int) (shows : zone.shown second = time) :
    time - secondsPerDay ≤ second ∧ second ≤ time + secondsPerDay := by
  have near := bounded second
  unfold shown at shows
  omega

theorem first_second (day : Day) (some : ∃ instant, (zone.timestamp instant).day = day) :
    ∃ first, IsLeast {second | zone.dayAt second = day} first := by
  obtain ⟨instant, onDay⟩ := some
  have low : ∀ second, zone.dayAt second = day →
      day.midnight.seconds - secondsPerDay ≤ second := by
    intro second shows
    have fromMidnight := ((zone.day_at_iff day second).mp shows).1
    have near := shown_near zone bounded _ second rfl
    omega
  obtain ⟨first, shows, least⟩ :=
    Int.exists_least_of_bdd ⟨_, low⟩ ⟨instant.seconds, onDay⟩
  exact ⟨first, shows, fun second onDay => least second onDay⟩

theorem last_second (day : Day) (some : ∃ instant, (zone.timestamp instant).day = day) :
    ∃ last, IsGreatest {second | zone.dayAt second = day} last := by
  obtain ⟨instant, onDay⟩ := some
  have high : ∀ second, zone.dayAt second = day →
      second ≤ day.lastMoment.seconds + secondsPerDay := by
    intro second shows
    have upTo := ((zone.day_at_iff day second).mp shows).2
    have near := shown_near zone bounded _ second rfl
    omega
  obtain ⟨last, shows, greatest⟩ :=
    Int.exists_greatest_of_bdd ⟨_, high⟩ ⟨instant.seconds, onDay⟩
  exact ⟨last, shows, fun second onDay => greatest second onDay⟩

theorem earliest_shown (time : LocalTime) (fits : zone.Fits time) (shown : zone.Shown time.seconds) :
    ∃ second, zone.shown second = time.seconds ∧
      (∀ other, zone.shown other = time.seconds → second ≤ other) ∧
      zone.earliest? time = some (zone.timestamp ⟨second, time.nanos⟩) := by
  have low : ∀ second, zone.shown second = time.seconds → time.seconds - secondsPerDay ≤ second :=
    fun second shows => (shown_near zone bounded time.seconds second shows).1
  obtain ⟨second, shows, least⟩ := Int.exists_least_of_bdd ⟨_, low⟩ shown
  exact ⟨second, shows, least, zone.earliest_at time second fits shows least⟩

theorem latest_shown (time : LocalTime) (fits : zone.Fits time) (shown : zone.Shown time.seconds) :
    ∃ second, zone.shown second = time.seconds ∧
      (∀ other, zone.shown other = time.seconds → other ≤ second) ∧
      zone.latest? time = some (zone.timestamp ⟨second, time.nanos⟩) := by
  have high : ∀ second, zone.shown second = time.seconds → second ≤ time.seconds + secondsPerDay :=
    fun second shows => (shown_near zone bounded time.seconds second shows).2
  obtain ⟨second, shows, greatest⟩ := Int.exists_greatest_of_bdd ⟨_, high⟩ shown
  exact ⟨second, shows, greatest, zone.latest_at time second fits shows greatest⟩

end

def quarter (day : Day) (step : Nat) : Int :=
  day.midnight.seconds + 900 * step

def FirstShown (zone : Zone) (day : Day) (step : Nat) : Prop :=
  zone.Shown (quarter day step) ∧ ∀ earlier < step, ¬ zone.Shown (quarter day earlier)

theorem first_shown (zone : Zone) (day : Day) (step : Nat) (shown : zone.Shown (quarter day step)) :
    ∃ first ≤ step, zone.FirstShown day first := by
  induction step using Nat.strongRecOn with
  | ind step ih =>
      by_cases earlier : ∃ other < step, zone.Shown (quarter day other)
      · obtain ⟨other, less, also⟩ := earlier
        obtain ⟨first, bound, firstShown⟩ := ih other less also
        exact ⟨first, by omega, firstShown⟩
      · exact ⟨step, Nat.le_refl step, shown, fun other less also => earlier ⟨other, less, also⟩⟩

theorem not_shown_iff (zone : Zone) (time : Int) :
    ¬ zone.Shown time ↔ ∀ second, zone.shown second ≠ time :=
  not_exists

theorem start_whole_second (zone : Zone) (day : Day) :
    ∃ second, zone.startOfDay day = zone.timestamp ⟨second, 0⟩ := by
  have whole : (zone.startOfDay day).instant.nanos = 0 := by
    unfold startOfDay
    cases forward : zone.forward? day.midnight with
    | none => rfl
    | some time =>
        obtain ⟨step, _, earliest⟩ := List.exists_of_findSome?_eq_some forward
        obtain ⟨offset, _, rfl⟩ := Option.map_eq_some_iff.mp earliest
        rw [later_midnight]
        rfl
  refine ⟨(zone.startOfDay day).instant.seconds, ?_⟩
  rw [← whole]
  exact zone.start_of_day_shows day

theorem start_at_quarter (zone : Zone) (bounded : zone.Bounded) (day : Day) (inside : day.Within 1)
    (step : Nat) (bound : step < 17) (first : zone.FirstShown day step) :
    ∃ second, zone.shown second = quarter day step ∧
      (∀ other, zone.shown other = quarter day step → second ≤ other) ∧
      zone.startOfDay day = zone.timestamp ⟨second, 0⟩ := by
  have seconds (n : Nat) : (day.midnight.later (900 * n)).seconds = quarter day n := by
    rw [later_midnight, quarter]
    push_cast
    rfl
  have fits := zone.fits_bounded bounded day inside _ (quarter_on_day day step bound)
  obtain ⟨second, shows, least, found⟩ := earliest_shown zone bounded _ fits
    (by rw [seconds]; exact first.1)
  rw [seconds] at shows
  simp only [seconds] at least
  refine ⟨second, shows, least, ?_⟩
  have forward := zone.forward_at day.midnight step bound _ found fun earlier less => by
    apply zone.earliest_skipped
    rw [seconds]
    exact (zone.not_shown_iff _).mp (first.2 earlier less)
  rw [startOfDay, forward, Option.getD_some, later_midnight]

theorem start_unshown (zone : Zone) (day : Day)
    (none : ∀ step < 17, ¬ zone.Shown (quarter day step)) :
    zone.startOfDay day = zone.timestamp ⟨day.midnight.seconds, 0⟩ := by
  have skipped : zone.forward? day.midnight = Option.none := by
    rw [forward?, List.findSome?_eq_none_iff]
    intro step listed
    apply zone.earliest_skipped
    have shown := (zone.not_shown_iff _).mp (none step (List.mem_range.mp listed))
    rw [later_midnight]
    simpa [quarter] using shown
  rw [startOfDay, skipped, Option.getD_none, instantOf, Int.sub_zero]
  rfl

-- When the beginning that is looked for is the first second of the day.
def BeginsOnQuarter (zone : Zone) (day : Day) (first : Int) : Prop :=
  (∃ step < 17, zone.FirstShown day step ∧ zone.shown first = quarter day step) ∨
    (∀ step < 17, ¬ zone.Shown (quarter day step)) ∧ first = day.midnight.seconds

theorem first_shown_unique (zone : Zone) (day : Day) (a b : Nat) (firstA : zone.FirstShown day a)
    (firstB : zone.FirstShown day b) : a = b := by
  rcases Nat.lt_trichotomy a b with before | equal | behind
  · exact absurd firstA.1 (firstB.2 a before)
  · exact equal
  · exact absurd firstB.1 (firstA.2 b behind)

theorem start_opens_iff (zone : Zone) (bounded : zone.Bounded) (day : Day) (inside : day.Within 1)
    (first : Int) (least : IsLeast {second | zone.dayAt second = day} first) :
    zone.Opens day (zone.startOfDay day) ↔ zone.BeginsOnQuarter day first := by
  by_cases shown : ∃ step < 17, zone.Shown (quarter day step)
  · obtain ⟨other, small, also⟩ := shown
    obtain ⟨step, less, firstShown⟩ := zone.first_shown day other also
    obtain ⟨second, shows, earliest, start⟩ :=
      start_at_quarter zone bounded day inside step (by omega) firstShown
    rw [start, zone.opens_iff day first second least]
    constructor
    · rintro rfl
      exact .inl ⟨step, by omega, firstShown, shows⟩
    · rintro (⟨same, _, firstToo, atFirst⟩ | ⟨none, _⟩)
      · obtain rfl := zone.first_shown_unique day same step firstToo firstShown
        have onDay : zone.dayAt second = day := by
          rw [day_at_iff, shows]
          simp only [quarter, Day.midnight, Day.lastMoment, secondsPerDay]
          omega
        exact Int.le_antisymm (earliest first atFirst) (least.2 onDay)
      · exact absurd also (none other small)
  · have none : ∀ step < 17, ¬ zone.Shown (quarter day step) :=
      fun step bound also => shown ⟨step, bound, also⟩
    rw [start_unshown zone day none, zone.opens_iff day first _ least]
    constructor
    · rintro rfl
      exact .inr ⟨none, rfl⟩
    · rintro (⟨step, bound, firstShown, _⟩ | ⟨_, same⟩)
      · exact absurd firstShown.1 (none step bound)
      · exact same.symm

theorem start_day_near (zone : Zone) (bounded : zone.Bounded) (day : Day) :
    day.number - 1 ≤ (zone.startOfDay day).day.number ∧
      (zone.startOfDay day).day.number ≤ day.number := by
  unfold startOfDay
  cases forward : zone.forward? day.midnight with
  | none =>
      have near := bounded day.midnight.seconds
      simp only [Option.getD_none, Timestamp.day, timestamp, Timestamp.localTime, LocalTime.day,
        instantOf, Int.sub_zero, Day.midnight, secondsPerDay] at near ⊢
      omega
  | some time =>
      obtain ⟨step, listed, earliest⟩ := List.exists_of_findSome?_eq_some forward
      obtain ⟨offset, _, rfl⟩ := Option.map_eq_some_iff.mp earliest
      have bound := List.mem_range.mp listed
      rw [Option.getD_some, later_midnight]
      simp only [Timestamp.day, Timestamp.localTime, LocalTime.day, instantOf, Day.midnight,
        secondsPerDay]
      omega

theorem start_day_grows (zone : Zone) (bounded : zone.Bounded) (earlier later : Day)
    (ordered : earlier.number ≤ later.number) :
    (zone.startOfDay earlier).day.number ≤ (zone.startOfDay later).day.number := by
  rcases Int.le_iff_eq_or_lt.mp ordered with same | before
  · have equal : earlier = later := congrArg Day.mk same
    exact Int.le_of_eq (congrArg (fun day => (zone.startOfDay day).day.number) equal)
  · have high := (zone.start_day_near bounded earlier).2
    have low := (zone.start_day_near bounded later).1
    omega

-- When the end that is looked for is the last second of the day.
def EndsBeforeNext (zone : Zone) (day : Day) (last : Int) : Prop :=
  zone.shown last = day.lastMoment.seconds ∨
    ¬ zone.Shown day.lastMoment.seconds ∧
      (zone.startOfDay (day.addDays 1)).instant = ⟨last + 1, 0⟩

theorem end_closes_iff (zone : Zone) (bounded : zone.Bounded) (day : Day) (inside : day.Within 1)
    (last : Int) (greatest : IsGreatest {second | zone.dayAt second = day} last) :
    zone.Closes day (zone.endOfDay day) ↔ zone.EndsBeforeNext day last := by
  by_cases shown : zone.Shown day.lastMoment.seconds
  · have fits := zone.fits_bounded bounded day inside _ (last_moment_day day)
    obtain ⟨second, shows, latest, found⟩ := latest_shown zone bounded _ fits shown
    have moment : zone.endOfDay day = zone.timestamp ⟨second, nanosPerSecond - 1⟩ := by
      rw [endOfDay, found]
      rfl
    rw [moment, zone.closes_iff day last second greatest]
    constructor
    · rintro rfl
      exact .inl shows
    · rintro (atLast | ⟨none, _⟩)
      · have alsoOnDay : zone.dayAt second = day := by
          rw [day_at_iff, shows]
          simp only [Day.midnight, Day.lastMoment, secondsPerDay]
          omega
        exact Int.le_antisymm (greatest.2 alsoOnDay) (latest last atLast)
      · exact absurd shown none
  · obtain ⟨second, start⟩ := zone.start_whole_second (day.addDays 1)
    have moment : zone.endOfDay day = zone.timestamp ⟨second - 1, nanosPerSecond - 1⟩ := by
      rw [endOfDay, zone.latest_skipped _ ((zone.not_shown_iff _).mp shown), day.next_some inside]
      simp only [start]
      rfl
    rw [moment, zone.closes_iff day last _ greatest, EndsBeforeNext, start]
    simp only [timestamp, Instant.mk.injEq, and_true]
    constructor
    · intro same
      exact .inr ⟨shown, by omega⟩
    · rintro (atLast | ⟨_, same⟩)
      · exact absurd ⟨last, atLast⟩ shown
      · omega

theorem day_boundaries_iff (zone : Zone) (bounded : zone.Bounded) (day : Day)
    (inside : day.Within 1) (some : ∃ instant, (zone.timestamp instant).day = day) :
    ∃ first last, IsLeast {second | zone.dayAt second = day} first ∧
      IsGreatest {second | zone.dayAt second = day} last ∧
      (zone.Opens day (zone.startOfDay day) ↔ zone.BeginsOnQuarter day first) ∧
      (zone.Closes day (zone.endOfDay day) ↔ zone.EndsBeforeNext day last) := by
  obtain ⟨first, least⟩ := first_second zone bounded day some
  obtain ⟨last, greatest⟩ := last_second zone bounded day some
  exact ⟨first, last, least, greatest, start_opens_iff zone bounded day inside first least,
    end_closes_iff zone bounded day inside last greatest⟩

theorem bounded_of_offsets (zone : Zone)
    (offsets : ∀ offset ∈ zone.offsets, -secondsPerDay < offset ∧ offset < secondsPerDay) :
    zone.Bounded :=
  fun second => offsets _ (zone.offset_at_mem second)

-- Clocks 44 and a half minutes behind UTC that are put forward to it at midnight of 1972-01-07.
def halfMinuteZone : Zone :=
  ⟨-2670, [⟨63593070, 0⟩]⟩

theorem half_minute_shown (second : Int) :
    halfMinuteZone.shown second = if 63593070 ≤ second then second else second - 2670 := by
  unfold shown offsetAt halfMinuteZone
  by_cases behind : 63593070 ≤ second
  · simp [behind]
  · simp [behind]
    omega

-- The day begins between two quarters of an hour, so that its beginning is missed, and ends at the
-- time that is looked for.
theorem half_minute_boundaries :
    halfMinuteZone.Bounded ∧ Day.Within ⟨736⟩ 1 ∧
      (∃ instant, (halfMinuteZone.timestamp instant).day = ⟨736⟩) ∧
      IsLeast {second | halfMinuteZone.dayAt second = ⟨736⟩} 63593070 ∧
      ¬ halfMinuteZone.Opens ⟨736⟩ (halfMinuteZone.startOfDay ⟨736⟩) ∧
      IsGreatest {second | halfMinuteZone.dayAt second = ⟨736⟩} 63676799 ∧
      halfMinuteZone.Closes ⟨736⟩ (halfMinuteZone.endOfDay ⟨736⟩) := by
  have bounded : halfMinuteZone.Bounded := bounded_of_offsets _ (by decide)
  have inside : Day.Within ⟨736⟩ 1 := ⟨by decide, by decide⟩
  have some : ∃ instant, (halfMinuteZone.timestamp instant).day = ⟨736⟩ :=
    ⟨⟨63593070, 0⟩, by decide⟩
  have onDay (second : Int) :
      halfMinuteZone.dayAt second = ⟨736⟩ ↔ 63593070 ≤ second ∧ second ≤ 63676799 := by
    rw [day_at_iff, half_minute_shown]
    simp only [Day.midnight, Day.lastMoment, secondsPerDay]
    split <;> omega
  have begins : IsLeast {second | halfMinuteZone.dayAt second = ⟨736⟩} 63593070 :=
    ⟨(onDay _).mpr (by decide), fun second on => ((onDay second).mp on).1⟩
  have finishes : IsGreatest {second | halfMinuteZone.dayAt second = ⟨736⟩} 63676799 :=
    ⟨(onDay _).mpr (by decide), fun second on => ((onDay second).mp on).2⟩
  obtain ⟨first, last, least, greatest, opens, closes⟩ :=
    day_boundaries_iff halfMinuteZone bounded ⟨736⟩ inside some
  obtain rfl := least.unique begins
  obtain rfl := greatest.unique finishes
  refine ⟨bounded, inside, some, begins, ?_, finishes, closes.mpr (.inl (by decide))⟩
  rw [opens]
  rintro (⟨step, _, _, atFirst⟩ | ⟨unshown, _⟩)
  · rw [half_minute_shown] at atFirst
    simp only [quarter, Day.midnight, secondsPerDay] at atFirst
    omega
  · exact unshown 3 (by decide) ⟨63593100, by decide⟩

-- Clocks that are put forward by 50 minutes at half past eleven in the evening of 1970-01-01.
def eveningZone : Zone :=
  ⟨0, [⟨84600, 3000⟩]⟩

theorem boundaries_off_quarter :
    halfMinuteZone.Bounded ∧ (halfMinuteZone.timestamp ⟨63593070, 0⟩).day = ⟨736⟩ ∧
      (halfMinuteZone.startOfDay ⟨736⟩).instant = ⟨63593100, 0⟩ ∧
      ¬ halfMinuteZone.Opens ⟨736⟩ (halfMinuteZone.startOfDay ⟨736⟩) ∧
      eveningZone.Bounded ∧ (eveningZone.timestamp ⟨0, 0⟩).day = ⟨0⟩ ∧
      (eveningZone.endOfDay ⟨0⟩).day = ⟨1⟩ ∧
      ¬ eveningZone.Closes ⟨0⟩ (eveningZone.endOfDay ⟨0⟩) := by
  refine ⟨bounded_of_offsets _ (by decide), by decide, by decide, ?_,
    bounded_of_offsets _ (by decide), by decide, by decide, ?_⟩
  · rintro ⟨_, before⟩
    exact absurd (before ⟨63593070, 0⟩ (by decide)) (by decide)
  · rintro ⟨onDay, _⟩
    exact absurd onDay (by decide)

end TaskSearch.Calendar.Zone
