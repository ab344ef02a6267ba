import TaskSearch.Proofs.Date.Bounds
import TaskSearch.Proofs.Date.Offset

set_option autoImplicit false

namespace TaskSearch.Date

open Calendar

inductive HasForm (text : String) : Prop where
  | keyword (listed : Text.lower text ∈ keywords)
  | offset (offset : Offset) (written : offset.Written text.toList)
  | digits (shape : Written.Shape) (fields : Written.Fields)
      (listed : shape ∈ Written.dateShapes ++ Written.timeShapes) (valid : fields.isValid = true)
      (fits : fields.Fit shape) (spelled : text.toList = fields.spell shape)

theorem form_of_read (text : String) (shapes : List Written.Shape)
    (known : shapes ⊆ Written.dateShapes ++ Written.timeShapes) (fields : Written.Fields)
    (read : Written.readAny? shapes text.toList = some fields) : HasForm text := by
  obtain ⟨shape, listed, inShape, valid⟩ := Written.read_any_sound shapes _ fields read
  obtain ⟨spelled, fits⟩ := Written.spelled_of_read shape text.toList fields
    (Written.shape_distinct shape (known listed)) inShape
  exact .digits shape fields (known listed) valid fits spelled

theorem invalid_of_no_form (clock : Clock) (text : String) (other : ¬ HasForm (Text.trim text)) :
    parseDate text clock = .error (.invalid (Text.trim text)) := by
  have keyword : readKeyword? (Text.trim text) clock.today = none :=
    read_keyword_none _ _ fun listed => other (.keyword listed)
  have offset : Offset.read? (Text.trim text).toList = none := by
    rw [Option.eq_none_iff_forall_ne_some]
    intro offset read
    exact other (.offset offset ((Offset.read_iff _ offset).mp read))
  have unread (shapes : List Written.Shape)
      (known : shapes ⊆ Written.dateShapes ++ Written.timeShapes) :
      Written.readAny? shapes (Text.trim text).toList = none := by
    rw [Option.eq_none_iff_forall_ne_some]
    intro fields read
    exact other (form_of_read _ shapes known fields read)
  have dates := unread Written.dateShapes (List.subset_append_left _ _)
  have times := unread Written.timeShapes (List.subset_append_right _ _)
  simp only [parseDate, keyword, offset, readWritten?, dates, times]

theorem offset_of_error (clock : Clock) (text value : String)
    (error : parseDate text clock = .error (.outOfRange value)) :
    value = Text.trim text ∧ ∃ offset : Offset, offset.Written (Text.trim text).toList ∧
      offset.target? clock = none := by
  unfold parseDate at error
  cases keyword : readKeyword? (Text.trim text) clock.today with
  | some word => cases word <;> simp [keyword] at error
  | none =>
      cases read : Offset.read? (Text.trim text).toList with
      | none =>
          cases written : readWritten? (Text.trim text).toList clock.zone <;>
            simp [keyword, read, written] at error
      | some offset =>
          cases target : offset.target? clock with
          | some time => simp [keyword, read, target] at error
          | none =>
              simp only [keyword, read, target, Except.error.injEq, DateError.outOfRange.injEq]
                at error
              exact ⟨error.symm, offset, (Offset.read_iff _ offset).mp read, target⟩

-- How an offset can miss: its instant or its day lies outside the calendar, or clocks do not show
-- its local time exactly once.
inductive Clock.Misses (clock : Clock) (amount : Int) : OffsetUnit → Prop where
  | instant (unit : OffsetUnit) (seconds : Nat) (length : unit.length = .inl seconds)
      (outside : (clock.now.shift (amount * seconds)).isInCalendar = false) :
      Misses clock amount unit
  | day (unit : OffsetUnit) (months : Nat) (length : unit.length = .inr months) (day : Day)
      (later : clock.today.MonthsLater day (amount * months)) (some : amount ≠ 0)
      (outside : day.isInCalendar = false) :
      Misses clock amount unit
  | time (unit : OffsetUnit) (months : Nat) (length : unit.length = .inr months) (day : Day)
      (later : clock.today.MonthsLater day (amount * months))
      (unshown : ∀ second, clock.zone.ShownOnce (clock.time.localTime.onDay day) second →
        (Instant.mk second clock.now.nanos).isInCalendar = false) :
      Misses clock amount unit

theorem misses_iff (clock : Clock) (amount : Int) (unit : OffsetUnit) :
    clock.Misses amount unit ↔ ∀ instant, ¬ clock.Reaches amount unit instant := by
  cases length : unit.length with
  | inl seconds =>
      simp only [reaches_elapsed clock amount unit _ seconds length]
      constructor
      · intro misses
        cases misses with
        | instant other same outside =>
            obtain rfl : seconds = other := Sum.inl.inj (length.symm.trans same)
            rintro instant ⟨inside, _⟩
            exact Bool.noConfusion (outside.symm.trans inside)
        | day months same => cases length.symm.trans same
        | time months same => cases length.symm.trans same
      · intro none
        exact .instant unit seconds length (Bool.eq_false_iff.mpr fun inside => none _ ⟨inside, rfl⟩)
  | inr months =>
      simp only [reaches_turned clock amount unit _ months length, months_later_iff,
        exists_eq_left]
      constructor
      · intro misses
        cases misses with
        | instant seconds same => cases length.symm.trans same
        | day other same day later some outside =>
            obtain rfl : months = other := Sum.inr.inj (length.symm.trans same)
            obtain rfl := (months_later_iff _ day _).mp later
            rintro instant ⟨none | inside, _⟩
            · exact some none
            · exact Bool.noConfusion (outside.symm.trans inside)
        | time other same day later unshown =>
            obtain rfl : months = other := Sum.inr.inj (length.symm.trans same)
            obtain rfl := (months_later_iff _ day _).mp later
            rintro instant ⟨_, second, once, inside, _⟩
            exact Bool.noConfusion ((unshown second once).symm.trans inside)
      · intro none
        by_cases known : amount = 0 ∨ (clock.today.addMonths (amount * months)).isInCalendar = true
        · refine .time unit months length _ ((months_later_iff _ _ _).mpr rfl) fun second once => ?_
          exact Bool.eq_false_iff.mpr fun inside => none _ ⟨known, second, once, inside, rfl⟩
        · obtain ⟨some, outside⟩ := not_or.mp known
          exact .day unit months length _ ((months_later_iff _ _ _).mpr rfl) some
            (Bool.eq_false_iff.mpr outside)

theorem amount_none_iff (offset : Offset) :
    offset.amount? = none ↔ offset.digits.all Char.isDigit = false := by
  unfold Offset.amount? Text.decimalNumber?
  cases offset.digits.all Char.isDigit <;> simp

theorem target_none_iff (clock : Clock) (offset : Offset) :
    offset.target? clock = none ↔ offset.digits.all Char.isDigit = false ∨
      ∃ amount, offset.amount? = some amount ∧ clock.Misses amount offset.unit := by
  rw [← amount_none_iff, Option.eq_none_iff_forall_ne_some]
  simp only [Ne, target_iff, misses_iff]
  cases given : offset.amount? with
  | none => simp
  | some amount =>
      simp only [reduceCtorEq, false_or, Option.some.injEq, exists_eq_left']
      constructor
      · intro none instant reached
        exact none _ ⟨instant, reached, rfl⟩
      · rintro none time ⟨instant, reached, _⟩
        exact none instant reached

theorem out_of_range_iff (clock : Clock) (text : String)
    (known : clock.today.isInCalendar = true) :
    (∀ value, parseDate text clock = .error (.outOfRange value) ↔
      value = Text.trim text ∧
        ((∃ offset : Offset, offset.Written (Text.trim text).toList ∧
            offset.digits.all Char.isDigit = false) ∨
          ∃ amount unit, IsOffset text amount unit ∧ clock.Misses amount unit)) ∧
    (∀ amount unit, IsOffset text amount unit → ¬ clock.Misses amount unit →
      ∃ instant, clock.Reaches amount unit instant ∧
        stops text clock = (!(clock.zone.timestamp instant).day.isInCalendar) ∧
        ((clock.zone.timestamp instant).day.isInCalendar = true → parseDate text clock =
          .ok (.at (clock.zone.startOfDay (clock.zone.timestamp instant).day)))) ∧
    (¬ HasForm (Text.trim text) →
      parseDate text clock = .error (.invalid (Text.trim text))) ∧
    ∀ error, parseDate text clock = .error error → stops text clock = false := by
  refine ⟨fun value => ⟨?_, ?_⟩, ?_, invalid_of_no_form clock text,
    fun error => stops_of_error clock text error known⟩
  · intro error
    obtain ⟨same, offset, written, target⟩ := offset_of_error clock text value error
    refine ⟨same, ?_⟩
    rcases (target_none_iff clock offset).mp target with foreign | ⟨amount, given, missed⟩
    · exact .inl ⟨offset, written, foreign⟩
    · have asked := (is_offset_iff text amount offset.unit).mpr ⟨offset, written, given, rfl⟩
      exact .inr ⟨amount, offset.unit, asked, missed⟩
  · rintro ⟨rfl, ⟨offset, written, foreign⟩ | ⟨amount, unit, asked, missed⟩⟩
    · have target := (target_none_iff clock offset).mpr (.inl foreign)
      rw [parse_offset clock text offset written, target]
    · exact parse_unreached clock text amount unit asked ((misses_iff clock amount unit).mp missed)
  · intro amount unit asked reached
    rw [misses_iff, not_forall_not] at reached
    obtain ⟨instant, reached⟩ := reached
    refine ⟨instant, reached, ?_, fun _ =>
      parse_reached clock text amount unit asked instant reached⟩
    rw [stops_reached clock text amount unit asked instant reached, known, Bool.not_true,
      Bool.false_or]

-- Clocks fourteen hours before UTC, at noon of 2025-01-01 in UTC.
def aheadClock : Clock :=
  ⟨⟨1735732800, 0⟩, ⟨50400, []⟩⟩

-- The last instant that an offset in days reaches lies in the calendar, its local day behind it.
theorem last_offset_stops :
    aheadClock.today.isInCalendar = true ∧ IsOffset "+95006147d" 95006147 .day ∧
      ¬ aheadClock.Misses 95006147 .day ∧
      aheadClock.Reaches 95006147 .day (aheadClock.now.shift (95006147 * 86400)) ∧
      stops "+95006147d" aheadClock = true ∧
      IsOffset "+95006148d" 95006148 .day ∧
      parseDate "+95006148d" aheadClock = .error (.outOfRange "+95006148d") ∧
      stops "+95006148d" aheadClock = false := by
  have known : aheadClock.today.isInCalendar = true := by decide
  have last : IsOffset "+95006147d" 95006147 .day :=
    ⟨false, ['+'], by decide, 8, 95006147, by decide, by decide, by decide, rfl⟩
  have next : IsOffset "+95006148d" 95006148 .day :=
    ⟨false, ['+'], by decide, 8, 95006148, by decide, by decide, by decide, rfl⟩
  have reached : aheadClock.Reaches 95006147 .day (aheadClock.now.shift (95006147 * 86400)) :=
    .elapsed .day 86400 rfl (by decide)
  have meets : ¬ aheadClock.Misses 95006147 .day := fun misses =>
    (misses_iff _ _ _).mp misses _ reached
  obtain ⟨-, gives, -, -⟩ := out_of_range_iff aheadClock "+95006147d" known
  obtain ⟨outOfRange, -, -, answered⟩ := out_of_range_iff aheadClock "+95006148d" known
  obtain ⟨instant, also, stopped, -⟩ := gives _ _ last meets
  obtain ⟨-, rfl⟩ := (reaches_elapsed _ _ _ _ 86400 rfl).mp also
  have missed : aheadClock.Misses 95006148 .day := .instant .day 86400 rfl (by decide)
  have failed := (outOfRange "+95006148d").mpr ⟨by decide, .inr ⟨_, _, next, missed⟩⟩
  exact ⟨known, last, meets, reached, stopped.trans (by decide), next, failed, answered _ failed⟩

-- Clocks two hours before UTC that are put back by an hour at three in the morning of 2025-10-26,
-- at half past two a month before.
def autumnClock : Clock :=
  ⟨⟨1758846600, 0⟩, ⟨7200, [⟨1761440400, 3600⟩]⟩⟩

-- The time of day is shown twice a month later, both times inside the calendar; and a digit three
-- that is not ASCII stands for no number.
theorem repeated_time_out_of_range :
    parseDate "+1M" autumnClock = .error (.outOfRange "+1M") ∧
      IsOffset "+1M" 1 .month ∧
      (autumnClock.today.addMonths 1).isInCalendar = true ∧
      autumnClock.zone.shown 1761438600 =
        (autumnClock.time.localTime.onDay (autumnClock.today.addMonths 1)).seconds ∧
      autumnClock.zone.shown 1761442200 =
        (autumnClock.time.localTime.onDay (autumnClock.today.addMonths 1)).seconds ∧
      (Instant.mk 1761438600 0).isInCalendar = true ∧
      (Instant.mk 1761442200 0).isInCalendar = true ∧
      parseDate "٣d" autumnClock = .error (.outOfRange "٣d") := by
  have asked : IsOffset "+1M" 1 .month :=
    ⟨false, ['+'], by decide, 1, 1, by decide, by decide, by decide, rfl⟩
  exact ⟨by decide, asked, by decide, by decide, by decide, by decide, by decide, by decide⟩

end TaskSearch.Date
