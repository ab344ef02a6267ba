import TaskSearch.Proofs.Date.FixedZone
import TaskSearch.Proofs.Date.Formats
import TaskSearch.Proofs.Date.OutOfRange

set_option autoImplicit false

namespace TaskSearch.Date

open Calendar

namespace Written

-- A text states fields in a shape if it spells them, and they are a date and a time of day. Fields
-- that the shape does not have are zero.
structure States (cs : List Char) (shape : Shape) (fields : Fields) : Prop where
  spelled : cs = fields.spell shape
  fits : fields.Fit shape
  whole : fields.kept shape = fields
  date : fields.date.isValid = true
  time : fields.hour ≤ 23 ∧ fields.minute ≤ 59 ∧ fields.second ≤ 60

theorem fields_valid_iff (fields : Fields) :
    fields.isValid = true ↔ fields.date.isValid = true ∧ fields.hour ≤ 23 ∧ fields.minute ≤ 59 ∧
      fields.second ≤ 60 := by
  simp only [Fields.isValid, Bool.and_eq_true, decide_eq_true_eq, and_assoc]

theorem states_iff (cs : List Char) (shape : Shape) (listed : shape ∈ dateShapes ++ timeShapes)
    (fields : Fields) :
    States cs shape fields ↔ readFields? shape cs = some fields ∧ fields.isValid = true := by
  rw [fields_valid_iff]
  constructor
  · rintro ⟨rfl, fits, whole, date, time⟩
    exact ⟨by rw [read_spelled fields shape fits, whole], date, time⟩
  · rintro ⟨read, date, time⟩
    obtain ⟨spelled, fits⟩ := spelled_of_read shape cs fields (shape_distinct shape listed) read
    rw [spelled, read_spelled fields shape fits] at read
    exact ⟨spelled, fits, Option.some.inj read, date, time⟩

theorem spell_append (fields : Fields) (shape other : Shape) :
    fields.spell (shape ++ other) = fields.spell shape ++ fields.spell other :=
  List.flatMap_append

theorem spell_length (fields : Fields) (shape : Shape) :
    (fields.spell shape).length = (shape.map Part.width).sum := by
  induction shape with
  | nil => rfl
  | cons part shape ih =>
      have width : (fields.spellPart part).length = part.width := by
        cases part with
        | sign c => rfl
        | _ => exact Text.decimal_length _ _
      rw [Fields.spell, List.flatMap_cons, List.length_append, width, ← Fields.spell, ih,
        List.map_cons, List.sum_cons]

theorem shape_unique (a b : Fields) (shape other : Shape)
    (listed : shape ∈ dateShapes ++ timeShapes) (also : other ∈ dateShapes ++ timeShapes)
    (same : a.spell shape = b.spell other) : shape = other := by
  obtain ⟨date, isDate, time, isTime, rfl⟩ := shape_cut shape listed
  obtain ⟨date', isDate', time', isTime', rfl⟩ := shape_cut other also
  have wide : ∀ date ∈ dateShapes, (date.map Part.width).sum = 10 := by decide
  have front : (a.spell date).length = (b.spell date').length := by
    rw [spell_length, spell_length, wide date isDate, wide date' isDate']
  have widths : (time.map Part.width).sum = (time'.map Part.width).sum := by
    have lengths := congrArg List.length same
    rw [spell_append, spell_append, List.length_append, List.length_append, front] at lengths
    rw [← spell_length a, ← spell_length b]
    exact Nat.add_left_cancel lengths
  have apart : ∀ time ∈ timesOfDay, ∀ other ∈ timesOfDay,
      (time.map Part.width).sum = (other.map Part.width).sum → time = other := by
    decide
  rw [spell_append, spell_append] at same
  obtain ⟨sameDate, -⟩ := List.append_inj same front
  rw [date_shape_unique a b date date' isDate isDate' sameDate,
    apart time isTime time' isTime' widths]

theorem states_unique (cs : List Char) (shape other : Shape) (fields others : Fields)
    (listed : shape ∈ dateShapes ++ timeShapes) (also : other ∈ dateShapes ++ timeShapes)
    (states : States cs shape fields) (again : States cs other others) :
    shape = other ∧ fields = others := by
  have same := states.spelled.symm.trans again.spelled
  obtain rfl := shape_unique fields others shape other listed also same
  have read := ((states_iff cs shape listed fields).mp states).1
  rw [((states_iff cs shape listed others).mp again).1] at read
  exact ⟨rfl, (Option.some.inj read).symm⟩

theorem read_any_iff (shapes : List Shape) (known : shapes ⊆ dateShapes ++ timeShapes)
    (cs : List Char) (fields : Fields) :
    readAny? shapes cs = some fields ↔ ∃ shape ∈ shapes, States cs shape fields := by
  constructor
  · intro read
    obtain ⟨shape, listed, inShape, valid⟩ := read_any_sound shapes cs fields read
    exact ⟨shape, listed, (states_iff cs shape (known listed) fields).mpr ⟨inShape, valid⟩⟩
  · rintro ⟨shape, listed, states⟩
    obtain ⟨inShape, valid⟩ := (states_iff cs shape (known listed) fields).mp states
    have accepted : (readAny? shapes cs).isSome = true := by
      rw [readAny?, List.findSome?_isSome_iff]
      exact ⟨shape, listed, by rw [inShape, Option.filter_some, if_pos valid]; rfl⟩
    obtain ⟨found, answer⟩ := Option.isSome_iff_exists.mp accepted
    obtain ⟨other, also, inOther, validToo⟩ := read_any_sound shapes cs found answer
    have again := (states_iff cs other (known also) found).mpr ⟨inOther, validToo⟩
    rw [answer, (states_unique cs shape other fields found (known listed) (known also) states
      again).2]

theorem stated_midnight (cs : List Char) (shape : Shape) (listed : shape ∈ dateShapes)
    (fields : Fields) (states : States cs shape fields) :
    fields.localTime = fields.date.toDay.midnight := by
  rw [← states.whole, kept_date fields shape listed]
  simp [Fields.localTime, Day.midnight]

theorem stated_day (cs : List Char) (shape : Shape) (fields : Fields)
    (states : States cs shape fields) : fields.localTime.day = fields.date.toDay := by
  obtain ⟨hour, minute, second⟩ := states.time
  have number : fields.localTime.seconds / secondsPerDay = fields.date.toDay.number := by
    simp only [Fields.localTime, secondsPerDay]
    split
    · simp only
      omega
    · simp only
      omega
  exact congrArg Day.mk number

theorem stated_within (cs : List Char) (shape : Shape)
    (listed : shape ∈ dateShapes ++ timeShapes) (fields : Fields)
    (states : States cs shape fields) : fields.date.toDay.Within 1 := by
  have read := ((states_iff cs shape listed fields).mp states).1
  exact date_within fields.date states.date (Int.natCast_nonneg _)
    (Int.ofNat_lt.mpr (read_year shape listed cs fields read))

end Written

theorem fixed_forward (zone : Zone) (fixed : zone.Fixed) (time : LocalTime)
    (inside : time.day.Within 1) :
    zone.forward? time = some ⟨Zone.instantOf time zone.base, zone.base⟩ := by
  have once := zone.fixed_once fixed time
  have fits := zone.fits_bounded (zone.fixed_bounded fixed) time.day inside time rfl
  have earliest := zone.earliest_at time _ fits ((once _).mpr rfl) fun other shows =>
    Int.le_of_eq ((once other).mp shows).symm
  have stamp : zone.timestamp ⟨time.seconds - zone.base, time.nanos⟩ =
      ⟨Zone.instantOf time zone.base, zone.base⟩ := by
    rw [Zone.timestamp, zone.fixed_offset fixed]
    rfl
  rw [stamp] at earliest
  exact zone.forward_at time 0 (by decide) _ earliest fun earlier less =>
    absurd less (Nat.not_lt_zero earlier)

theorem read_written_iff (zone : Zone) (fixed : zone.Fixed) (cs : List Char) (time : Timestamp) :
    readWritten? cs zone = some time ↔
      ∃ shape ∈ Written.dateShapes ++ Written.timeShapes, ∃ fields, Written.States cs shape fields ∧
        time = ⟨Zone.instantOf fields.localTime zone.base, zone.base⟩ := by
  have dates : Written.dateShapes ⊆ Written.dateShapes ++ Written.timeShapes :=
    List.subset_append_left _ _
  have times : Written.timeShapes ⊆ Written.dateShapes ++ Written.timeShapes :=
    List.subset_append_right _ _
  have start (shape : Written.Shape) (listed : shape ∈ Written.dateShapes)
      (fields : Written.Fields) (states : Written.States cs shape fields) :
      zone.startOfDay fields.date.toDay =
        ⟨Zone.instantOf fields.localTime zone.base, zone.base⟩ := by
    rw [zone.fixed_start fixed _ (Written.stated_within cs shape (dates listed) fields states),
      Written.stated_midnight cs shape listed fields states]
  have forward (shape : Written.Shape) (listed : shape ∈ Written.timeShapes)
      (fields : Written.Fields) (states : Written.States cs shape fields) :
      zone.forward? fields.localTime =
        some ⟨Zone.instantOf fields.localTime zone.base, zone.base⟩ := by
    apply fixed_forward zone fixed
    rw [Written.stated_day cs shape fields states]
    exact Written.stated_within cs shape (times listed) fields states
  constructor
  · intro read
    unfold readWritten? at read
    split at read
    · rename_i fields date
      obtain ⟨shape, listed, states⟩ := (Written.read_any_iff _ dates cs fields).mp date
      rw [start shape listed fields states] at read
      exact ⟨shape, dates listed, fields, states, (Option.some.inj read).symm⟩
    · split at read
      · rename_i fields moment
        obtain ⟨shape, listed, states⟩ := (Written.read_any_iff _ times cs fields).mp moment
        rw [forward shape listed fields states] at read
        exact ⟨shape, times listed, fields, states, (Option.some.inj read).symm⟩
      · cases read
  · rintro ⟨shape, listed, fields, states, rfl⟩
    rcases List.mem_append.mp listed with isDate | isTime
    · have date := (Written.read_any_iff _ dates cs fields).mpr ⟨shape, isDate, states⟩
      simp only [readWritten?, date, start shape isDate fields states]
    · have noDate : Written.readAny? Written.dateShapes cs = none := by
        rw [Option.eq_none_iff_forall_ne_some]
        intro others read
        obtain ⟨other, also, again⟩ := (Written.read_any_iff _ dates cs others).mp read
        obtain ⟨rfl, -⟩ := Written.states_unique cs shape other fields others listed (dates also)
          states again
        have apart : ∀ shape ∈ Written.dateShapes, shape ∉ Written.timeShapes := by decide
        exact apart shape also isTime
      have moment := (Written.read_any_iff _ times cs fields).mpr ⟨shape, isTime, states⟩
      simp only [readWritten?, noDate, moment, forward shape isTime fields states]

section

variable (clock : Clock) (text : String) (noKeyword : Text.lower (Text.trim text) ∉ keywords)
  (noOffset : ∀ offset : Offset, ¬ offset.Written (Text.trim text).toList)

include noKeyword noOffset

theorem parse_digits :
    parseDate text clock =
      match readWritten? (Text.trim text).toList clock.zone with
      | some time => .ok (.at time)
      | none => .error (.invalid (Text.trim text)) := by
  have keyword := read_keyword_none _ clock.today noKeyword
  have offset : Offset.read? (Text.trim text).toList = none := by
    rw [Option.eq_none_iff_forall_ne_some]
    intro offset read
    exact noOffset offset ((Offset.read_iff _ offset).mp read)
  cases read : readWritten? (Text.trim text).toList clock.zone <;>
    simp only [parseDate, keyword, offset, read]

theorem parse_digits_ok_iff (value : DateValue) :
    parseDate text clock = .ok value ↔
      ∃ time, readWritten? (Text.trim text).toList clock.zone = some time ∧ value = .at time := by
  rw [parse_digits clock text noKeyword noOffset]
  cases readWritten? (Text.trim text).toList clock.zone <;> simp [eq_comm]

theorem parse_digits_error_iff (error : DateError) :
    parseDate text clock = .error error ↔
      error = .invalid (Text.trim text) ∧
        readWritten? (Text.trim text).toList clock.zone = none := by
  rw [parse_digits clock text noKeyword noOffset]
  cases readWritten? (Text.trim text).toList clock.zone <;> simp [eq_comm]

end

theorem dates_in_digits (clock : Clock) (fixed : clock.zone.Fixed) (text : String)
    (noKeyword : Text.lower (Text.trim text) ∉ keywords)
    (noOffset : ∀ offset : Offset, ¬ offset.Written (Text.trim text).toList) :
    (∀ value, parseDate text clock = .ok value ↔
      ∃ shape ∈ Written.dateShapes ++ Written.timeShapes, ∃ fields,
        Written.States (Text.trim text).toList shape fields ∧
        value = .at ⟨Zone.instantOf fields.localTime clock.zone.base, clock.zone.base⟩) ∧
    (∀ error, parseDate text clock = .error error ↔
      error = .invalid (Text.trim text) ∧
        ¬ ∃ shape ∈ Written.dateShapes ++ Written.timeShapes, ∃ fields,
          Written.States (Text.trim text).toList shape fields) ∧
    (∀ cs, ∀ shape ∈ Written.dateShapes, ∀ fields, Written.States cs shape fields →
      fields.localTime = fields.date.toDay.midnight) ∧
    (∀ shape ∈ Written.dateShapes ++ Written.timeShapes,
      ∀ other ∈ Written.dateShapes ++ Written.timeShapes, ∀ a b : Written.Fields,
      a.spell shape = b.spell other → shape = other) ∧
    parseDate text clock =
      match Written.readFormatted? (Text.trim text).toList clock.zone with
      | some time => .ok (.at time)
      | none => .error (.invalid (Text.trim text)) := by
  have states := read_written_iff clock.zone fixed (Text.trim text).toList
  refine ⟨fun value => ?_, fun error => ?_, ?_, ?_, ?_⟩
  · rw [parse_digits_ok_iff clock text noKeyword noOffset]
    simp only [states]
    constructor
    · rintro ⟨time, ⟨shape, listed, fields, stated, rfl⟩, rfl⟩
      exact ⟨shape, listed, fields, stated, rfl⟩
    · rintro ⟨shape, listed, fields, stated, rfl⟩
      exact ⟨_, ⟨shape, listed, fields, stated, rfl⟩, rfl⟩
  · rw [parse_digits_error_iff clock text noKeyword noOffset, Option.eq_none_iff_forall_ne_some]
    simp only [ne_eq, states]
    apply and_congr_right
    rintro -
    constructor
    · rintro unread ⟨shape, listed, fields, stated⟩
      exact unread _ ⟨shape, listed, fields, stated, rfl⟩
    · rintro other time ⟨shape, listed, fields, stated, -⟩
      exact other ⟨shape, listed, fields, stated⟩
  · intro cs shape listed fields stated
    exact Written.stated_midnight cs shape listed fields stated
  · intro shape listed other also a b same
    exact Written.shape_unique a b shape other listed also same
  · rw [parse_digits clock text noKeyword noOffset, Written.read_formatted]

def hourAhead : Clock :=
  ⟨⟨0, 0⟩, ⟨3600, []⟩⟩

theorem leap_second_stated :
    hourAhead.zone.Fixed ∧
      Text.lower (Text.trim " 2024-02-29T23:59:60") ∉ keywords ∧
      (∀ offset : Offset, ¬ offset.Written (Text.trim " 2024-02-29T23:59:60").toList) ∧
      parseDate " 2024-02-29T23:59:60" hourAhead =
        .ok (.at ⟨⟨1709247599, nanosPerSecond⟩, 3600⟩) := by
  have fixed : hourAhead.zone.Fixed := ⟨rfl, by decide, by decide⟩
  have noKeyword : Text.lower (Text.trim " 2024-02-29T23:59:60") ∉ keywords := by decide
  have noOffset (offset : Offset) :
      ¬ offset.Written (Text.trim " 2024-02-29T23:59:60").toList := by
    have unread : Offset.read? (Text.trim " 2024-02-29T23:59:60").toList = none := by
      decide
    rw [← Offset.read_iff, unread]
    exact Option.some_ne_none offset ∘ Eq.symm
  have stated : Written.States (Text.trim " 2024-02-29T23:59:60").toList
      (Written.yearFirst '-' ++ [.sign 'T', .hour, .sign ':', .minute, .sign ':', .second])
      ⟨2024, 2, 29, 23, 59, 60⟩ :=
    ⟨by decide, by unfold Written.Fields.Fit; decide, rfl, by decide, by decide⟩
  have read := (dates_in_digits hourAhead fixed _ noKeyword noOffset).1
  exact ⟨fixed, noKeyword, noOffset, (read _).mpr ⟨_, by decide, _, stated, by decide⟩⟩

end TaskSearch.Date
