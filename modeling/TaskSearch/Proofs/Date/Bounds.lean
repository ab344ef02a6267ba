import TaskSearch.Date.Comparison
import TaskSearch.Proofs.Calendar.Reading
import TaskSearch.Proofs.Date.NamedDay

set_option autoImplicit false

namespace TaskSearch.Date

open Calendar

theorem Written.read_chars (shape : Shape) (cs : List Char) (fields : Fields)
    (read : readFields? shape cs = some fields) (c : Char) (member : c ∈ cs) :
    c.isDigit = true ∨ .sign c ∈ shape := by
  induction shape generalizing cs fields with
  | nil =>
      cases cs with
      | nil => cases member
      | cons d rest => simp [readFields?] at read
  | cons part shape ih =>
      by_cases numeric : part.isSign = false
      · obtain ⟨digits, rest, n, others, rfl, -, number, behind, -⟩ :=
          (read_numeric_iff part shape cs fields numeric).mp read
        rcases List.mem_append.mp member with digit | later
        · rw [(Text.decimal_of_number digits n number).1] at digit
          exact .inl (Text.decimal_digits _ _ c digit)
        · exact (ih rest others behind later).imp_right (List.mem_cons_of_mem part)
      · cases part with
        | sign d =>
            obtain ⟨rest, rfl, behind⟩ := (read_sign_iff d shape cs fields).mp read
            rcases List.mem_cons.mp member with rfl | later
            · exact .inr List.mem_cons_self
            · exact (ih rest fields behind later).imp_right (List.mem_cons_of_mem _)
        | _ => exact absurd rfl numeric

theorem Written.read_any_no_dot (shapes : List Shape) (cs : List Char) (fields : Fields)
    (plain : ∀ shape ∈ shapes, .sign '.' ∉ shape) (read : readAny? shapes cs = some fields) :
    '.' ∉ cs := by
  intro member
  obtain ⟨shape, listed, inShape, -⟩ := read_any_sound shapes cs fields read
  rcases read_chars shape cs fields inShape '.' member with digit | sign
  · cases digit
  · exact plain shape listed sign

theorem offset_no_dot (cs : List Char) (offset : Offset) (read : Offset.read? cs = some offset) :
    '.' ∉ cs := by
  obtain ⟨sign, listed, whole, digits⟩ := offset_spelled cs offset read
  intro member
  rw [whole, List.mem_append, List.mem_append, List.mem_singleton] at member
  rcases member with inSign | inDigits | isLetter
  · have plain : ∀ sign ∈ [[], ['+'], ['-']], '.' ∉ sign := by decide
    exact plain sign listed inSign
  · exact absurd (digits '.' inDigits) (by decide)
  · cases unit : offset.unit <;> simp [unit, OffsetUnit.letter] at isLetter

theorem keyword_listed (text : String) (today : Day) (keyword : DateKeyword)
    (read : readKeyword? text today = some keyword) : Text.lower text ∈ keywords := by
  by_contra other
  rw [read_keyword_none text today other] at read
  cases read

theorem written_no_dot (cs : List Char) (zone : Zone) (time : Timestamp)
    (read : readWritten? cs zone = some time) : '.' ∉ cs := by
  unfold readWritten? at read
  cases day : Written.readAny? Written.dateShapes cs with
  | some fields => exact Written.read_any_no_dot _ cs fields (by decide) day
  | none =>
      cases moment : Written.readAny? Written.timeShapes cs with
      | some fields => exact Written.read_any_no_dot _ cs fields (by decide) moment
      | none => simp [day, moment] at read

theorem readable_no_dot (text : String) (clock : Clock) (value : DateValue)
    (read : parseDate text clock = .ok value) : '.' ∉ text.toList := by
  intro member
  have inside := trim_keeps_dot text member
  unfold parseDate at read
  cases keyword : readKeyword? (Text.trim text) clock.today with
  | some word =>
      exact keyword_no_sign _ '.' (by decide) (keyword_listed _ _ word keyword) inside
  | none =>
      cases offset : Offset.read? (Text.trim text).toList with
      | some offset' => exact offset_no_dot _ offset' offset inside
      | none =>
          cases written : readWritten? (Text.trim text).toList clock.zone with
          | some time => exact written_no_dot _ _ time written inside
          | none => simp [keyword, offset, written] at read

theorem split_range_none (cs : List Char) (noDot : '.' ∉ cs) : splitRange? cs = none := by
  induction cs with
  | nil => rfl
  | cons c rest ih =>
      simp only [List.mem_cons, not_or] at noDot
      rw [splitRange?, ih noDot.2]
      · rfl
      · rintro more rfl
        exact absurd rfl noDot.1

theorem split_range_at (start stop : List Char) (noDot : '.' ∉ start) :
    splitRange? (start ++ '.' :: '.' :: stop) = some (start, stop) := by
  induction start with
  | nil => rfl
  | cons c rest ih =>
      simp only [List.mem_cons, not_or] at noDot
      rw [List.cons_append, splitRange?, ih noDot.2]
      · rfl
      · rintro more rfl
        exact absurd rfl noDot.1

def askedOn (zone : Zone) (day : Day) : Operator → DateCondition
  | .colon | .equal => wholeDays zone day day
  | .less => .range (.ofTimes true none (some (zone.startOfDay day)))
  | .lessEqual => .range (.ofTimes false none (some (zone.endOfDay day)))
  | .greater => .range (.ofTimes true (some (zone.endOfDay day)) none)
  | .greaterEqual => .range (.ofTimes false (some (zone.startOfDay day)) none)
  | .notEqual => .any

section

variable (clock : Clock) (text : String) (time : Timestamp)
  (read : parseDate text clock = .ok (.at time))

include read

theorem parse_day_at (operator : Operator) : parseDay text operator clock = .ok time.day := by
  rw [parseDay, read]
  rfl

theorem condition_asked (operator : Operator) (supported : operator ≠ .notEqual) :
    parseCondition text operator clock = .ok (askedOn clock.zone time.day operator) := by
  have day := parse_day_at clock text time read
  have whole := split_range_none text.toList (readable_no_dot text clock _ read)
  cases operator with
  | notEqual => exact absurd rfl supported
  | colon | equal =>
      simp only [parseCondition, whole, read]
      rfl
  | less | lessEqual | greater | greaterEqual =>
      rw [parseCondition, day]
      rfl

theorem condition_of_bounds (stop : String) (last : Timestamp)
    (closes : parseDate stop clock = .ok (.at last)) (operator : Operator)
    (exact : operator.isExact = true) :
    parseCondition (text ++ ".." ++ stop) operator clock =
      .ok (wholeDays clock.zone time.day last.day) := by
  have cut : splitRange? (text ++ ".." ++ stop).toList = some (text.toList, stop.toList) := by
    have dots : (text ++ ".." ++ stop).toList = text.toList ++ '.' :: '.' :: stop.toList := by
      simp [String.toList_append]
    rw [dots, split_range_at _ _ (readable_no_dot text clock _ read)]
  have opening := parse_day_at clock text time read
  have closing := parse_day_at clock stop last closes
  cases operator with
  | colon | equal =>
      simp only [parseCondition, cut, String.ofList_toList, opening, closing]
      rfl
  | _ => exact Bool.noConfusion exact

end

theorem condition_of_no_date (clock : Clock) (text : String)
    (none : parseDate text clock = .ok .noDate) (operator : Operator)
    (exact : operator.isExact = true) : parseCondition text operator clock = .ok .missing := by
  have whole := split_range_none text.toList (readable_no_dot text clock _ none)
  cases operator with
  | colon | equal =>
      simp only [parseCondition, whole, none]
      rfl
  | _ => exact Bool.noConfusion exact

theorem lt_eq_not_le (a b : Instant) : a.lt b = !b.le a := by
  rw [Bool.eq_iff_iff, Instant.lt_iff, Bool.not_eq_true, Bool.not_eq_true']

section

variable (zone : Zone) (day : Day) (instant : Instant)

theorem less_complements :
    (askedOn zone day .less).admits (some instant) =
      !(askedOn zone day .greaterEqual).admits (some instant) := by
  simp [askedOn, DateCondition.admits, DateRange.contains, DateRange.ofTimes, lt_eq_not_le]

theorem greater_complements :
    (askedOn zone day .greater).admits (some instant) =
      !(askedOn zone day .lessEqual).admits (some instant) := by
  simp [askedOn, DateCondition.admits, DateRange.contains, DateRange.ofTimes, lt_eq_not_le]

theorem exact_meets (operator : Operator) (exact : operator.isExact = true) :
    (askedOn zone day operator).admits (some instant) =
      ((askedOn zone day .greaterEqual).admits (some instant) &&
        (askedOn zone day .lessEqual).admits (some instant)) := by
  cases operator with
  | colon | equal =>
      simp [askedOn, wholeDays, DateCondition.admits, DateRange.contains, DateRange.ofTimes]
  | _ => exact Bool.noConfusion exact

end

end TaskSearch.Date
