import TaskSearch.Proofs.Calendar.LocalDay
import TaskSearch.Proofs.Date.Bounds

set_option autoImplicit false

namespace TaskSearch.Date

open Calendar

def compares (day value : Day) : Operator → Prop
  | .colon | .equal => day = value
  | .less => day.number < value.number
  | .lessEqual => day.number ≤ value.number
  | .greater => value.number < day.number
  | .greaterEqual => value.number ≤ day.number
  | .notEqual => False

theorem same_day_iff (a b : Day) : a = b ↔ b.number ≤ a.number ∧ a.number ≤ b.number := by
  cases a
  cases b
  simp only [Day.mk.injEq]
  omega

section

variable (clock : Clock) (regular : clock.zone.Regular)

include regular

theorem named_on_day (text : String) (day : Day) (named : NamesDay clock text day)
    (inside : day.Within 2) : ∃ time, parseDate text clock = .ok (.at time) ∧ time.day = day := by
  have near := day.within_less inside
  exact ⟨_, parse_named_day clock text day named (day.within_in_calendar near),
    Zone.start_of_day_day clock.zone regular day near⟩

theorem parse_day_named (operator : Operator) (text : String) (day : Day)
    (named : NamesDay clock text day) (inside : day.Within 2) :
    parseDay text operator clock = .ok day := by
  obtain ⟨time, parsed, rfl⟩ := named_on_day clock regular text day named inside
  exact parse_day_at clock text time parsed operator

theorem whole_days_contain (first last : Day) (inside : first.Within 2) (insideLast : last.Within 2)
    (instant : Instant) (plain : instant.nanos < nanosPerSecond) :
    (wholeDays clock.zone first last).admits (some instant) = true ↔
      first.number ≤ (clock.zone.timestamp instant).day.number ∧
        (clock.zone.timestamp instant).day.number ≤ last.number := by
  rw [← Zone.from_start_iff clock.zone regular first (first.within_less inside),
    ← Zone.up_to_end_iff clock.zone regular last insideLast instant plain]
  simp [wholeDays, DateCondition.admits, DateRange.contains, DateRange.ofTimes]

theorem condition_of_range (operator : Operator) (start stop : String) (first last : Day)
    (asked : operator.isExact = true) (named : NamesDay clock start first)
    (namedLast : NamesDay clock stop last) (inside : first.Within 2) (insideLast : last.Within 2) :
    parseCondition (start ++ ".." ++ stop) operator clock =
      .ok (wholeDays clock.zone first last) := by
  obtain ⟨time, parsed, rfl⟩ := named_on_day clock regular start first named inside
  obtain ⟨timeLast, parsedLast, rfl⟩ := named_on_day clock regular stop last namedLast insideLast
  exact condition_of_bounds clock start time parsed stop timeLast parsedLast operator asked

theorem condition_of_day (operator : Operator) (text : String) (day : Day)
    (asked : operator.isExact = true) (named : NamesDay clock text day) (inside : day.Within 2) :
    parseCondition text operator clock = .ok (wholeDays clock.zone day day) := by
  obtain ⟨time, parsed, rfl⟩ := named_on_day clock regular text day named inside
  cases operator with
  | colon | equal => exact condition_asked clock text time parsed _ (by decide)
  | _ => exact Bool.noConfusion asked

theorem condition_compares (operator : Operator) (text : String) (day : Day)
    (supported : operator ≠ .notEqual) (named : NamesDay clock text day) (inside : day.Within 2) :
    ∃ condition, parseCondition text operator clock = .ok condition ∧
      ∀ instant : Instant, instant.nanos < nanosPerSecond →
        (condition.admits (some instant) = true ↔
          compares (clock.zone.timestamp instant).day day operator) := by
  have parsed := parse_day_named clock regular operator text day named inside
  have fromStart := Zone.from_start_iff clock.zone regular day (day.within_less inside)
  have upToEnd := Zone.up_to_end_iff clock.zone regular day inside
  cases operator with
  | notEqual => exact absurd rfl supported
  | colon | equal =>
      refine ⟨_, condition_of_day clock regular _ text day rfl named inside, ?_⟩
      intro instant plain
      rw [whole_days_contain clock regular day day inside inside instant plain, compares,
        same_day_iff]
  | less =>
      refine ⟨_, by rw [parseCondition, parsed]; rfl, fun instant plain => ?_⟩
      rw [compares, ← Int.not_le, ← fromStart instant, ← Instant.lt_iff]
      simp [DateCondition.admits, DateRange.contains, DateRange.ofTimes]
  | lessEqual =>
      refine ⟨_, by rw [parseCondition, parsed]; rfl, fun instant plain => ?_⟩
      rw [compares, ← upToEnd instant plain]
      simp [DateCondition.admits, DateRange.contains, DateRange.ofTimes]
  | greater =>
      refine ⟨_, by rw [parseCondition, parsed]; rfl, fun instant plain => ?_⟩
      rw [compares, ← Int.not_le, ← upToEnd instant plain, ← Instant.lt_iff]
      simp [DateCondition.admits, DateRange.contains, DateRange.ofTimes]
  | greaterEqual =>
      refine ⟨_, by rw [parseCondition, parsed]; rfl, fun instant plain => ?_⟩
      rw [compares, ← fromStart instant]
      simp [DateCondition.admits, DateRange.contains, DateRange.ofTimes]

theorem date_operators_compare_days (start stop : String) (first last : Day)
    (named : NamesDay clock start first) (namedLast : NamesDay clock stop last)
    (inside : first.Within 2) (insideLast : last.Within 2) :
    (∀ operator, operator ≠ .notEqual →
      ∃ condition, parseCondition start operator clock = .ok condition ∧
        ∀ instant : Instant, instant.nanos < nanosPerSecond →
          (condition.admits (some instant) = true ↔
            compares (clock.zone.timestamp instant).day first operator)) ∧
    (∀ operator, operator.isExact = true →
      ∃ condition, parseCondition (start ++ ".." ++ stop) operator clock = .ok condition ∧
        ∀ instant : Instant, instant.nanos < nanosPerSecond →
          (condition.admits (some instant) = true ↔
            first.number ≤ (clock.zone.timestamp instant).day.number ∧
              (clock.zone.timestamp instant).day.number ≤ last.number)) := by
  constructor
  · intro operator supported
    exact condition_compares clock regular operator start first supported named inside
  · intro operator asked
    exact ⟨_, condition_of_range clock regular operator start stop first last asked named namedLast
      inside insideLast, whole_days_contain clock regular first last inside insideLast⟩

end

-- Clocks three hours behind UTC that are put forward at midnight of 2018-11-04 and back at midnight
-- of 2019-02-17.
def summerZone : Zone :=
  ⟨-10800, [⟨1541300400, -7200⟩, ⟨1550368800, -10800⟩]⟩

theorem summer_offset (second : Int) :
    summerZone.offsetAt second =
      if 1541300400 ≤ second ∧ second < 1550368800 then -7200 else -10800 := by
  unfold Zone.offsetAt summerZone
  by_cases begun : 1541300400 ≤ second
  · by_cases ended : 1550368800 ≤ second
    · have off : ¬ second < 1550368800 := by omega
      simp [begun, ended, off]
    · have still : second < 1550368800 := by omega
      simp [begun, ended, still]
  · have early : ¬ 1550368800 ≤ second := by omega
    simp [begun, early]

theorem summer_changes (second : Int) (change : summerZone.Changes second) :
    second = 1541300400 ∨ second = 1550368800 := by
  unfold Zone.Changes at change
  simp only [summer_offset] at change
  split at change <;> split at change <;> omega

theorem summer_regular : summerZone.Regular where
  bounded := by
    intro second
    rw [summer_offset]
    simp only [secondsPerDay]
    split <;> omega
  jump := by
    intro second
    simp only [summer_offset]
    split <;> split <;> omega
  quarter := by
    intro second change
    rcases summer_changes second change with rfl | rfl
    · decide
    · decide
  apart := by
    intro earlier later ordered change changeLater
    have first := summer_changes earlier change
    have second := summer_changes later changeLater
    omega
  midnight := by
    intro second day
    simp only [summer_offset, Day.midnight, secondsPerDay]
    split <;> split <;> omega

theorem summer_days_compare :
    let clock : Clock := ⟨⟨1541246400, 0⟩, summerZone⟩
    clock.zone.Regular ∧ NamesDay clock " Tomorrow" ⟨17839⟩ ∧
      NamesDay clock "17/02/2019" ⟨17944⟩ ∧
      (∃ condition, parseCondition " Tomorrow" .less clock = .ok condition ∧
        ∀ instant : Instant, instant.nanos < nanosPerSecond →
          (condition.admits (some instant) = true ↔
            (clock.zone.timestamp instant).day.number < 17839)) ∧
      ∃ condition, parseCondition " Tomorrow..17/02/2019" .colon clock = .ok condition ∧
        ∀ instant : Instant, instant.nanos < nanosPerSecond →
          (condition.admits (some instant) = true ↔
            17839 ≤ (clock.zone.timestamp instant).day.number ∧
              (clock.zone.timestamp instant).day.number ≤ 17944) := by
  intro clock
  have tomorrow : NamesDay clock " Tomorrow" ⟨17839⟩ := .tomorrow (by decide)
  have inFebruary : NamesDay clock "17/02/2019" ⟨17944⟩ :=
    .written (Written.dayFirst '/') { year := 2019, month := 2, day := 17 } (by decide) (by decide)
      (by decide) (by decide)
  have all := date_operators_compare_days clock summer_regular " Tomorrow" "17/02/2019" ⟨17839⟩
    ⟨17944⟩ tomorrow inFebruary ⟨by decide, by decide⟩ ⟨by decide, by decide⟩
  exact ⟨summer_regular, tomorrow, inFebruary, all.1 .less (by decide), all.2 .colon rfl⟩

end TaskSearch.Date
