import TaskSearch.Proofs.Date.Comparison
import TaskSearch.Proofs.Date.Narrowing

set_option autoImplicit false

namespace TaskSearch.Date

open Calendar

def asksForNone (text : String) : Bool :=
  Text.lower (Text.trim text) = "none"

inductive Requested (zone : Zone) (text : String) : DateCondition → Prop where
  | missing (none : asksForNone text = true) : Requested zone text .missing
  | range (range : DateRange) (some : asksForNone text = false) (formed : range.WellFormed zone) :
      Requested zone text (.range range)

theorem keyword_no_date (text : String) (today : Day)
    (keyword : readKeyword? text today = some .noDate) : Text.lower text = "none" := by
  by_contra none
  rw [readKeyword?, if_neg none] at keyword
  repeat' split at keyword
  all_goals simp at keyword

theorem no_date_iff (text : String) (clock : Clock) :
    parseDate text clock = .ok .noDate ↔ asksForNone text = true := by
  unfold asksForNone parseDate
  rw [decide_eq_true_eq]
  by_cases none : Text.lower (Text.trim text) = "none"
  · simp [readKeyword?, none]
  · simp only [none, iff_false]
    cases keyword : readKeyword? (Text.trim text) clock.today with
    | some word =>
        cases word with
        | day day => simp
        | noDate => exact absurd (keyword_no_date _ _ keyword) none
    | none =>
        cases Offset.read? (Text.trim text).toList with
        | some offset => cases given : offset.target? clock <;> simp [given]
        | none => cases readWritten? (Text.trim text).toList clock.zone <;> simp

theorem day_not_none (text : String) (operator : Operator) (clock : Clock) (day : Day)
    (parsed : parseDay text operator clock = .ok day) : asksForNone text = false := by
  rw [Bool.eq_false_iff]
  intro none
  rw [parseDay, (no_date_iff text clock).mpr none] at parsed
  cases parsed

theorem none_no_range (text : String) (none : asksForNone text = true) :
    splitRange? text.toList = Option.none := by
  apply split_range_none
  apply keyword_no_dot
  rw [of_decide_eq_true none]
  exact List.mem_cons_self

theorem of_times_formed (zone : Zone) (exclusive : Bool) (start stop : Option Timestamp)
    (opens : ∀ time ∈ start, zone.Shows time) (closes : ∀ time ∈ stop, zone.Shows time) :
    (DateRange.ofTimes exclusive start stop).WellFormed zone where
  lower := by
    intro bound given
    obtain ⟨time, here, rfl⟩ := Option.map_eq_some_iff.mp given
    exact opens time here
  upper := by
    intro bound given
    obtain ⟨time, here, rfl⟩ := Option.map_eq_some_iff.mp given
    exact closes time here
  guarded := DateRange.of_times_guarded exclusive start stop

theorem whole_days_requested (zone : Zone) (text : String) (first last : Day)
    (some : asksForNone text = false) : Requested zone text (wholeDays zone first last) := by
  refine .range _ some (of_times_formed zone _ _ _ ?_ ?_)
  · rintro start ⟨⟩
    exact zone.start_of_day_shows first
  · rintro stop ⟨⟩
    exact zone.end_of_day_shows last

theorem condition_requested (text : String) (operator : Operator) (clock : Clock)
    (condition : DateCondition) (parsed : parseCondition text operator clock = .ok condition) :
    Requested clock.zone text condition := by
  cases operator with
  | notEqual => cases parsed
  | less | lessEqual | greater | greaterEqual =>
      cases read : parseDay text _ clock with
      | error error =>
          rw [parseCondition, read] at parsed
          cases parsed
      | ok day =>
          rw [parseCondition, read] at parsed
          rw [← Except.ok.inj parsed]
          refine .range _ (day_not_none text _ clock day read)
            (of_times_formed clock.zone _ _ _ ?_ ?_)
          all_goals simp [Zone.start_of_day_shows, Zone.end_of_day_shows]
  | colon | equal =>
      cases cut : splitRange? text.toList with
      | some sides =>
          have some : asksForNone text = false := by
            rw [Bool.eq_false_iff]
            intro none
            rw [none_no_range text none] at cut
            cases cut
          simp only [parseCondition, cut] at parsed
          cases first : parseDay (String.ofList sides.1) _ clock with
          | error error =>
              rw [first] at parsed
              cases parsed
          | ok day =>
              cases last : parseDay (String.ofList sides.2) _ clock with
              | error error =>
                  rw [first, last] at parsed
                  cases parsed
              | ok dayToo =>
                  rw [first, last] at parsed
                  rw [← Except.ok.inj parsed]
                  exact whole_days_requested clock.zone text day dayToo some
      | none =>
          simp only [parseCondition, cut] at parsed
          cases read : parseDate text clock with
          | error error =>
              rw [read] at parsed
              cases parsed
          | ok value =>
              rw [read] at parsed
              cases value with
              | noDate =>
                  rw [← Except.ok.inj parsed]
                  exact .missing ((no_date_iff text clock).mp read)
              | «at» time =>
                  rw [← Except.ok.inj parsed]
                  apply whole_days_requested
                  rw [Bool.eq_false_iff, Ne, ← no_date_iff text clock, read]
                  simp

end TaskSearch.Date
