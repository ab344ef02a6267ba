import TaskSearch.Proofs.Calendar.Months
import TaskSearch.Proofs.Calendar.Reading
import TaskSearch.Proofs.Date.NamedDay

set_option autoImplicit false

namespace TaskSearch.Date

open Calendar

namespace Offset

def signs (backward : Bool) : List (List Char) :=
  if backward then [['-']] else [[], ['+']]

structure Written (offset : Offset) (cs : List Char) : Prop where
  numbered : offset.digits ≠ []
  digits : ∀ c ∈ offset.digits, isDigit c = true
  spelled : ∃ sign ∈ signs offset.backward, cs = sign ++ (offset.digits ++ [offset.unit.letter])

theorem letter_no_digit (unit : OffsetUnit) : isDigit unit.letter = false := by
  cases unit <;> decide

theorem unit_of_letter (unit : OffsetUnit) :
    OffsetUnit.all.find? (·.letter = unit.letter) = some unit := by
  cases unit <;> rfl

theorem read_unsigned (digits : List Char) (unit : OffsetUnit)
    (all : ∀ c ∈ digits, isDigit c = true) :
    (digits ++ [unit.letter]).takeWhile isDigit = digits ∧
      (digits ++ [unit.letter]).dropWhile isDigit = [unit.letter] := by
  rw [List.takeWhile_append_of_pos all, List.dropWhile_append_of_pos all]
  simp [letter_no_digit]

theorem digit_no_sign (c : Char) (digit : isDigit c = true) : c ≠ '+' ∧ c ≠ '-' := by
  have other : isDigit '+' = false ∧ isDigit '-' = false := by decide
  constructor
  · rintro rfl
    exact Bool.noConfusion (digit.symm.trans other.1)
  · rintro rfl
    exact Bool.noConfusion (digit.symm.trans other.2)

theorem read_signed (sign : List Char) (backward : Bool) (c : Char) (rest : List Char)
    (listed : sign ∈ signs backward) (plain : c ≠ '+' ∧ c ≠ '-') :
    decide ((sign ++ c :: rest).head? = some '-') = backward ∧
      (if (sign ++ c :: rest).head? = some '+' || (sign ++ c :: rest).head? = some '-'
        then (sign ++ c :: rest).tail else sign ++ c :: rest) = c :: rest := by
  cases backward with
  | true =>
      obtain rfl : sign = ['-'] := by simpa [signs] using listed
      simp
  | false =>
      simp only [signs, Bool.false_eq_true, if_false, List.mem_cons, List.not_mem_nil,
        or_false] at listed
      rcases listed with rfl | rfl
      · simp [plain]
      · simp

theorem sign_of_read (cs : List Char) (offset : Offset) (read : read? cs = some offset) :
    offset.digits ≠ [] ∧ offset.backward = decide (cs.head? = some '-') := by
  unfold read? at read
  dsimp only at read
  split at read
  · obtain ⟨unit, _, rfl⟩ := Option.map_eq_some_iff.mp read
    exact ⟨List.cons_ne_nil _ _, rfl⟩
  · cases read

theorem read_iff (cs : List Char) (offset : Offset) :
    read? cs = some offset ↔ offset.Written cs := by
  constructor
  · intro read
    obtain ⟨numbered, backward⟩ := sign_of_read cs offset read
    obtain ⟨sign, listed, whole, all⟩ := offset_spelled cs offset read
    refine ⟨numbered, all, sign, ?_, whole⟩
    obtain ⟨c, rest, digits⟩ := List.exists_cons_of_ne_nil numbered
    have plain := (digit_no_sign c (all c (digits ▸ List.mem_cons_self))).2
    rw [backward, whole, digits]
    simp only [List.mem_cons, List.not_mem_nil, or_false] at listed
    rcases listed with rfl | rfl | rfl
    · simp [signs, plain]
    · simp [signs]
    · simp [signs]
  · rintro ⟨numbered, all, sign, listed, rfl⟩
    obtain ⟨backward, digits, unit⟩ := offset
    obtain ⟨c, rest, rfl⟩ := List.exists_cons_of_ne_nil numbered
    have plain := digit_no_sign c (all c List.mem_cons_self)
    obtain ⟨back, unsigned⟩ := read_signed sign backward c (rest ++ [unit.letter]) listed plain
    obtain ⟨taken, left⟩ := read_unsigned (c :: rest) unit all
    simp only [List.cons_append] at taken left
    simp only [read?, List.cons_append, unsigned, taken, left]
    simp only [unit_of_letter, Option.map_some, back]

theorem amount_iff (offset : Offset) (amount : Int) :
    offset.amount? = some amount ↔ ∃ n : Nat, Text.decimalNumber? offset.digits = some n ∧
      amount = if offset.backward then -(n : Int) else n := by
  unfold amount?
  cases Text.decimalNumber? offset.digits with
  | none => simp
  | some n =>
      constructor
      · rintro ⟨⟩
        exact ⟨n, rfl, rfl⟩
      · rintro ⟨_, ⟨⟩, rfl⟩
        rfl

end Offset

theorem offset_no_keyword (text : String) (offset : Offset) (written : offset.Written text.toList) :
    Text.lower text ∉ keywords := by
  intro keyword
  obtain ⟨sign, _, spelled⟩ := written.spelled
  obtain ⟨c, rest, digits⟩ := List.exists_cons_of_ne_nil written.numbered
  have first : c ∈ offset.digits := digits ▸ List.mem_cons_self
  have digit : Text.isDecimalDigit c = true := by
    have both := written.digits c first
    rw [Offset.isDigit, Bool.and_eq_true] at both
    exact both.2
  have member : c ∈ text.toList := by
    rw [spelled, List.mem_append, List.mem_append]
    exact .inr (.inl first)
  obtain ⟨same, noCase⟩ := Text.digit_caseless c digit
  have kept : c ∈ (Text.lower text).toList := by
    simpa [Text.lower] using Text.lower_keeps text.toList c same noCase member
  have plain : ∀ word ∈ keywords, ∀ letter ∈ word.toList, Text.isDecimalDigit letter = false := by
    simp [keywords, Text.isDecimalDigit]
  exact Bool.noConfusion ((plain _ keyword c kept).symm.trans digit)

theorem parse_offset (clock : Clock) (text : String) (offset : Offset)
    (written : offset.Written (Text.trim text).toList) :
    parseDate text clock =
      match offset.target? clock with
      | some time => .ok (.at (clock.zone.startOfDay time.day))
      | none => .error (.outOfRange (Text.trim text)) := by
  have keyword := read_keyword_none _ clock.today (offset_no_keyword _ offset written)
  have read := (Offset.read_iff _ offset).mpr written
  cases reached : offset.target? clock <;> simp only [parseDate, keyword, read, reached]

-- The instants that an offset can reach. Minutes to weeks are an exact time; months and years lead
-- to another day at the same time of day, which clocks have to show exactly once.
inductive Clock.Reaches (clock : Clock) (amount : Int) : OffsetUnit → Instant → Prop where
  | elapsed (unit : OffsetUnit) (seconds : Nat) (length : unit.length = .inl seconds)
      (inside : (clock.now.shift (amount * seconds)).isInCalendar = true) :
      Reaches clock amount unit (clock.now.shift (amount * seconds))
  | turned (unit : OffsetUnit) (months : Nat) (length : unit.length = .inr months) (day : Day)
      (later : clock.today.MonthsLater day (amount * months))
      (known : amount = 0 ∨ day.isInCalendar = true) (second : Int)
      (once : clock.zone.ShownOnce (clock.time.localTime.onDay day) second)
      (inside : (Instant.mk second clock.now.nanos).isInCalendar = true) :
      Reaches clock amount unit ⟨second, clock.now.nanos⟩

theorem seconds_from_iff (clock : Clock) (seconds : Int) (time : Timestamp) :
    Offset.secondsFrom? clock seconds = some time ↔
      (clock.now.shift seconds).isInCalendar = true ∧
        time = clock.zone.timestamp (clock.now.shift seconds) := by
  unfold Offset.secondsFrom?
  dsimp only
  split
  · rename_i inside
    simp [inside, eq_comm]
  · rename_i outside
    simp [outside]

theorem months_from_iff (clock : Clock) (months : Int) (time : Timestamp) :
    Offset.monthsFrom? clock months = some time ↔
      ∃ day, clock.today.MonthsLater day months ∧ (months = 0 ∨ day.isInCalendar = true) ∧
        clock.zone.unique? (clock.time.localTime.onDay day) = some time := by
  have same : (if months = 0 then clock.today else clock.today.addMonths months) =
      clock.today.addMonths months := by
    split
    · rename_i none
      rw [none, add_no_months]
    · rfl
  have opened : Offset.monthsFrom? clock months =
      if months = 0 || (clock.today.addMonths months).isInCalendar then
        clock.zone.unique? (clock.time.localTime.onDay (clock.today.addMonths months))
      else none := by
    rw [← same]
    rfl
  simp only [opened, months_later_iff, exists_eq_left, Bool.or_eq_true, decide_eq_true_eq,
    Option.ite_none_right_eq_some]

section

variable (clock : Clock) (amount : Int) (unit : OffsetUnit) (instant : Instant)

theorem reaches_elapsed (seconds : Nat) (length : unit.length = .inl seconds) :
    clock.Reaches amount unit instant ↔
      (clock.now.shift (amount * seconds)).isInCalendar = true ∧
        instant = clock.now.shift (amount * seconds) := by
  constructor
  · intro reached
    cases reached with
    | elapsed other same inside =>
        obtain rfl : seconds = other := Sum.inl.inj (length.symm.trans same)
        exact ⟨inside, rfl⟩
    | turned months same => cases length.symm.trans same
  · rintro ⟨inside, rfl⟩
    exact .elapsed unit seconds length inside

theorem reaches_turned (months : Nat) (length : unit.length = .inr months) :
    clock.Reaches amount unit instant ↔
      ∃ day, clock.today.MonthsLater day (amount * months) ∧
        (amount = 0 ∨ day.isInCalendar = true) ∧
        ∃ second, clock.zone.ShownOnce (clock.time.localTime.onDay day) second ∧
          (Instant.mk second clock.now.nanos).isInCalendar = true ∧
          instant = ⟨second, clock.now.nanos⟩ := by
  constructor
  · intro reached
    cases reached with
    | elapsed seconds same => cases length.symm.trans same
    | turned other same day later known second once inside =>
        obtain rfl : months = other := Sum.inr.inj (length.symm.trans same)
        exact ⟨day, later, known, second, once, inside, rfl⟩
  · rintro ⟨day, later, known, second, once, inside, rfl⟩
    exact .turned unit months length day later known second once inside

omit amount unit instant in
theorem Clock.Reaches.in_calendar {amount : Int} {unit : OffsetUnit} {instant : Instant}
    (reached : clock.Reaches amount unit instant) : instant.isInCalendar = true := by
  cases reached with
  | elapsed seconds length inside => exact inside
  | turned months length day later known second once inside => exact inside

theorem months_positive (months : Nat) (length : unit.length = .inr months) :
    amount * months = 0 ↔ amount = 0 := by
  have some : months ≠ 0 := by
    rintro rfl
    cases unit <;> simp [OffsetUnit.length] at length
  rw [Int.mul_eq_zero]
  simp [some]

end

theorem target_iff (clock : Clock) (offset : Offset) (time : Timestamp) :
    offset.target? clock = some time ↔
      ∃ amount, offset.amount? = some amount ∧
        ∃ instant, clock.Reaches amount offset.unit instant ∧
          time = clock.zone.timestamp instant := by
  simp only [Offset.target?, Option.bind_eq_bind, Option.bind_eq_some_iff]
  cases length : offset.unit.length with
  | inl seconds =>
      simp only [seconds_from_iff, reaches_elapsed clock _ offset.unit _ seconds length, and_assoc,
        exists_and_left, exists_eq_left]
  | inr months =>
      simp only [months_from_iff, months_positive _ offset.unit months length, Zone.unique_iff,
        reaches_turned clock _ offset.unit _ months length]
      constructor
      · rintro ⟨amount, given, day, later, known, second, once, inside, rfl⟩
        exact ⟨amount, given, _, ⟨day, later, known, second, once, inside, rfl⟩, rfl⟩
      · rintro ⟨amount, given, _, ⟨day, later, known, second, once, inside, rfl⟩, rfl⟩
        exact ⟨amount, given, day, later, known, second, once, inside, rfl⟩

-- A text that is an amount of a unit: a sign, a number in ASCII digits, leading zeros allowed, and
-- the letter of the unit.
def IsOffset (text : String) (amount : Int) (unit : OffsetUnit) : Prop :=
  ∃ backward, ∃ sign ∈ Offset.signs backward, ∃ width n, 0 < width ∧ n < 10 ^ width ∧
    (Text.trim text).toList = sign ++ (Text.decimal width n ++ [unit.letter]) ∧
    amount = if backward then -(n : Int) else n

theorem ascii_offset_digit (c : Char) (digit : c.isDigit = true) : Offset.isDigit c = true := by
  have ascii : c.toNat < 128 := by
    have bounds : 48 ≤ c.toNat ∧ c.toNat ≤ 57 := by
      simpa [Char.isDigit, UInt32.le_iff_toNat_le] using digit
    omega
  have old : Text.isRecent c = false := by
    rw [Bool.eq_false_iff]
    intro recent
    obtain ⟨range, listed, low, _⟩ := (Text.inRanges_iff _ c).mp recent
    have wide : ∀ range ∈ Text.recentRanges, 128 ≤ range.1 := by decide
    have := wide range listed
    omega
  rw [Offset.isDigit, old, Text.isDecimalDigit_eq_isDigit c ascii, digit]
  rfl

theorem is_offset_iff (text : String) (amount : Int) (unit : OffsetUnit) :
    IsOffset text amount unit ↔ ∃ offset : Offset, offset.Written (Text.trim text).toList ∧
      offset.amount? = some amount ∧ offset.unit = unit := by
  constructor
  · rintro ⟨backward, sign, listed, width, n, positive, fits, spelled, signed⟩
    have numbered : Text.decimal width n ≠ [] := by
      rw [← List.length_pos_iff, Text.decimal_length]
      exact positive
    have digits (c : Char) (member : c ∈ Text.decimal width n) : Offset.isDigit c = true :=
      ascii_offset_digit c (Text.decimal_digits width n c member)
    exact ⟨⟨backward, Text.decimal width n, unit⟩, ⟨numbered, digits, sign, listed, spelled⟩,
      (Offset.amount_iff _ _).mpr ⟨n, Text.number_of_decimal width n fits, signed⟩, rfl⟩
  · rintro ⟨offset, ⟨numbered, _, sign, listed, spelled⟩, given, rfl⟩
    obtain ⟨n, number, signed⟩ := (Offset.amount_iff offset amount).mp given
    obtain ⟨digits, fits⟩ := Text.decimal_of_number offset.digits n number
    rw [digits] at spelled
    exact ⟨offset.backward, sign, listed, offset.digits.length, n,
      List.length_pos_iff.mpr numbered, fits, spelled, signed⟩

section

variable (clock : Clock) (text : String) (amount : Int) (unit : OffsetUnit)
  (asked : IsOffset text amount unit)

include asked

theorem target_reached (instant : Instant) (reached : clock.Reaches amount unit instant) :
    ∃ offset : Offset, offset.Written (Text.trim text).toList ∧
      offset.target? clock = some (clock.zone.timestamp instant) := by
  obtain ⟨offset, written, given, rfl⟩ := (is_offset_iff text amount unit).mp asked
  exact ⟨offset, written, (target_iff clock offset _).mpr ⟨amount, given, instant, reached, rfl⟩⟩

theorem target_unreached (none : ∀ instant, ¬ clock.Reaches amount unit instant) :
    ∃ offset : Offset, offset.Written (Text.trim text).toList ∧
      offset.target? clock = Option.none := by
  obtain ⟨offset, written, given, rfl⟩ := (is_offset_iff text amount unit).mp asked
  refine ⟨offset, written, Option.eq_none_iff_forall_ne_some.mpr fun time target => ?_⟩
  obtain ⟨other, also, instant, reached, _⟩ := (target_iff clock offset time).mp target
  obtain rfl : amount = other := Option.some.inj (given.symm.trans also)
  exact none instant reached

theorem parse_reached (instant : Instant) (reached : clock.Reaches amount unit instant) :
    parseDate text clock =
      .ok (.at (clock.zone.startOfDay (clock.zone.timestamp instant).day)) := by
  obtain ⟨offset, written, target⟩ := target_reached clock text amount unit asked instant reached
  rw [parse_offset clock text offset written, target]

theorem parse_unreached (none : ∀ instant, ¬ clock.Reaches amount unit instant) :
    parseDate text clock = .error (.outOfRange (Text.trim text)) := by
  obtain ⟨offset, written, target⟩ := target_unreached clock text amount unit asked none
  rw [parse_offset clock text offset written, target]

theorem stops_reached (instant : Instant) (reached : clock.Reaches amount unit instant) :
    stops text clock =
      (!clock.today.isInCalendar || !(clock.zone.timestamp instant).day.isInCalendar) := by
  obtain ⟨offset, written, target⟩ := target_reached clock text amount unit asked instant reached
  simp only [stops, (Offset.read_iff _ offset).mpr written, Option.bind_some, target,
    Option.any_some]

theorem stops_unreached (none : ∀ instant, ¬ clock.Reaches amount unit instant) :
    stops text clock = !clock.today.isInCalendar := by
  obtain ⟨offset, written, target⟩ := target_unreached clock text amount unit asked none
  simp only [stops, (Offset.read_iff _ offset).mpr written, Option.bind_some, target,
    Option.any_none, Bool.or_false]

theorem reached_of_parse (time : Timestamp) (read : parseDate text clock = .ok (.at time)) :
    ∃ instant, clock.Reaches amount unit instant ∧
      time = clock.zone.startOfDay (clock.zone.timestamp instant).day := by
  by_cases some : ∃ instant, clock.Reaches amount unit instant
  · obtain ⟨instant, reached⟩ := some
    rw [parse_reached clock text amount unit asked instant reached] at read
    exact ⟨instant, reached, (DateValue.at.inj (Except.ok.inj read)).symm⟩
  · rw [parse_unreached clock text amount unit asked (not_exists.mp some)] at read
    cases read

theorem stops_same (other : String) (amountToo : Int) (unitToo : OffsetUnit)
    (askedToo : IsOffset other amountToo unitToo)
    (same : ∀ instant,
      clock.Reaches amount unit instant ↔ clock.Reaches amountToo unitToo instant) :
    stops text clock = stops other clock := by
  by_cases some : ∃ instant, clock.Reaches amount unit instant
  · obtain ⟨instant, reached⟩ := some
    rw [stops_reached clock text amount unit asked instant reached,
      stops_reached clock other amountToo unitToo askedToo instant ((same instant).mp reached)]
  · have none := not_exists.mp some
    rw [stops_unreached clock text amount unit asked none,
      stops_unreached clock other amountToo unitToo askedToo fun instant reached =>
        none instant ((same instant).mpr reached)]

theorem parse_same (other : String) (amountToo : Int) (unitToo : OffsetUnit)
    (askedToo : IsOffset other amountToo unitToo)
    (same : ∀ instant,
      clock.Reaches amount unit instant ↔ clock.Reaches amountToo unitToo instant) :
    (∃ value, parseDate text clock = .ok value ∧ parseDate other clock = .ok value) ∨
      parseDate text clock = .error (.outOfRange (Text.trim text)) ∧
        parseDate other clock = .error (.outOfRange (Text.trim other)) := by
  by_cases some : ∃ instant, clock.Reaches amount unit instant
  · obtain ⟨instant, reached⟩ := some
    exact .inl ⟨_, parse_reached clock text amount unit asked instant reached,
      parse_reached clock other amountToo unitToo askedToo instant ((same instant).mp reached)⟩
  · have none := not_exists.mp some
    exact .inr ⟨parse_unreached clock text amount unit asked none,
      parse_unreached clock other amountToo unitToo askedToo fun instant reached =>
        none instant ((same instant).mpr reached)⟩

end

theorem stops_of_error (clock : Clock) (text : String) (error : DateError)
    (known : clock.today.isInCalendar = true) (failed : parseDate text clock = .error error) :
    stops text clock = false := by
  cases read : Offset.read? (Text.trim text).toList with
  | none => simp [stops, read, known]
  | some offset =>
      rw [parse_offset clock text offset ((Offset.read_iff _ offset).mp read)] at failed
      cases target : offset.target? clock with
      | none => simp [stops, read, target, known]
      | some time =>
          rw [target] at failed
          cases failed

end TaskSearch.Date
