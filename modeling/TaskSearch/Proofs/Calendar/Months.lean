import Mathlib.Algebra.BigOperators.Group.List.Basic
import Mathlib.Algebra.GroupWithZero.Nat
import Mathlib.Data.Int.Init
import TaskSearch.Calendar.Day

set_option autoImplicit false

namespace TaskSearch.Calendar

theorem days_before_next_year (year : Int) :
    daysBeforeYear (year + 1) = daysBeforeYear year + (monthLengths year).sum := by
  cases leap : isLeapYear year with
  | false =>
      simp only [monthLengths, leap, daysBeforeYear]
      simp only [isLeapYear, Bool.and_eq_false_iff, Bool.or_eq_false_iff, beq_eq_false_iff_ne,
        bne_eq_false_iff_eq] at leap
      simp
      omega
  | true =>
      simp only [monthLengths, leap, daysBeforeYear]
      simp only [isLeapYear, Bool.and_eq_true, Bool.or_eq_true, beq_iff_eq, bne_iff_ne] at leap
      simp
      omega

theorem days_before_year_grows (earlier later : Int) (ordered : earlier ≤ later) :
    daysBeforeYear earlier ≤ daysBeforeYear later := by
  induction later, ordered using Int.leInduction with
  | base => exact Int.le_refl _
  | succ later ordered ih =>
      rw [days_before_next_year]
      omega

theorem year_unique (a b n : Int) (fromA : daysBeforeYear a ≤ n)
    (beforeA : n < daysBeforeYear (a + 1)) (fromB : daysBeforeYear b ≤ n)
    (beforeB : n < daysBeforeYear (b + 1)) : a = b := by
  have ordered (x y : Int) (start : daysBeforeYear y ≤ n) (stop : n < daysBeforeYear (x + 1)) :
      y ≤ x := by
    by_contra later
    have := days_before_year_grows (x + 1) y (by omega)
    omega
  exact Int.le_antisymm (ordered b a fromA beforeB) (ordered a b fromB beforeA)

theorem year_holds (day : Day) :
    daysBeforeYear day.year ≤ day.number + epochDays ∧
      day.number + epochDays < daysBeforeYear (day.year + 1) := by
  have near : daysBeforeYear ((day.number + epochDays) * 400 / 146097 - 1) ≤
        day.number + epochDays ∧
      day.number + epochDays < daysBeforeYear ((day.number + epochDays) * 400 / 146097 + 1 + 1) := by
    unfold daysBeforeYear
    omega
  unfold Day.year
  dsimp only
  split
  · rename_i before
    rw [Int.sub_add_cancel]
    exact ⟨near.1, before⟩
  · split
    · omega
    · omega

theorem split_months_place (lengths : List Nat) (n : Nat) (inside : n < lengths.sum) :
    ∃ length, lengths[(splitMonths lengths n).1]? = some length ∧
      (splitMonths lengths n).2 < length ∧
      (lengths.take (splitMonths lengths n).1).sum + (splitMonths lengths n).2 = n := by
  induction lengths generalizing n with
  | nil => exact absurd inside (Nat.not_lt_zero n)
  | cons length rest ih =>
      by_cases first : n < length
      · exact ⟨length, by simp [splitMonths, first]⟩
      · rw [List.sum_cons] at inside
        obtain ⟨other, entry, fits, place⟩ := ih (n - length) (by omega)
        refine ⟨other, ?_⟩
        simp only [splitMonths, if_neg first, List.getElem?_cons_succ, List.take_succ_cons,
          List.sum_cons]
        exact ⟨entry, fits, by omega⟩

theorem split_months_at (lengths : List Nat) (month length day : Nat)
    (entry : lengths[month]? = some length) (fits : day < length) :
    splitMonths lengths ((lengths.take month).sum + day) = (month, day) := by
  induction lengths generalizing month with
  | nil => simp at entry
  | cons first rest ih =>
      cases month with
      | zero =>
          obtain rfl : first = length := by simpa using entry
          simp [splitMonths, fits]
      | succ month =>
          have later := ih month (by simpa using entry)
          have behind : ¬ first + (rest.take month).sum + day < first := by omega
          have left : first + (rest.take month).sum + day - first =
              (rest.take month).sum + day := by omega
          rw [List.take_succ_cons, List.sum_cons, splitMonths, if_neg behind, left, later]

theorem days_before_month_eq (year : Int) (month : Nat) :
    daysBeforeMonth year month = ((monthLengths year).take (month - 1)).sum :=
  rfl

theorem month_count (year : Int) : (monthLengths year).length = 12 :=
  rfl

theorem month_length_some (year : Int) (month : Nat) (low : 1 ≤ month) (high : month ≤ 12) :
    (monthLengths year)[month - 1]? = some (daysInMonth year month) := by
  have inside : month - 1 < (monthLengths year).length := by
    rw [month_count]
    omega
  rw [daysInMonth, List.getD_eq_getElem?_getD, List.getElem?_eq_getElem inside, Option.getD_some]

theorem days_in_month_pos (year : Int) (month : Nat) (low : 1 ≤ month) (high : month ≤ 12) :
    1 ≤ daysInMonth year month := by
  have lengths : ∀ length ∈ monthLengths year, 1 ≤ length := by
    cases leap : isLeapYear year <;> simp [monthLengths, leap]
  exact lengths _ (List.mem_of_getElem? (month_length_some year month low high))

theorem date_valid_iff (date : CivilDate) :
    date.isValid = true ↔ (1 ≤ date.month ∧ date.month ≤ 12) ∧ 1 ≤ date.day ∧
      date.day ≤ daysInMonth date.year date.month := by
  simp only [CivilDate.isValid, Bool.and_eq_true, decide_eq_true_eq, and_assoc]

theorem day_of_year_small (year : Int) (month day : Nat) (low : 1 ≤ month) (high : month ≤ 12)
    (fits : day ≤ daysInMonth year month) :
    daysBeforeMonth year month + day ≤ (monthLengths year).sum := by
  have entry := month_length_some year month low high
  have whole : (monthLengths year).sum =
      ((monthLengths year).take (month - 1)).sum + ((monthLengths year).drop (month - 1)).sum := by
    rw [← List.sum_append, List.take_append_drop]
  rw [List.getElem?_eq_some_iff] at entry
  obtain ⟨inside, length⟩ := entry
  rw [List.drop_eq_getElem_cons inside, length, List.sum_cons] at whole
  rw [days_before_month_eq]
  omega

theorem day_split (day : Day) :
    let rest := (day.number + epochDays - daysBeforeYear day.year).toNat
    (rest : Int) = day.number + epochDays - daysBeforeYear day.year ∧
      rest < (monthLengths day.year).sum := by
  obtain ⟨start, stop⟩ := year_holds day
  rw [days_before_next_year] at stop
  dsimp only
  omega

theorem to_date_valid (day : Day) : day.toDate.isValid = true := by
  obtain ⟨_, inside⟩ := day_split day
  obtain ⟨length, entry, fits, _⟩ := split_months_place _ _ inside
  obtain ⟨month, _⟩ := List.getElem?_eq_some_iff.mp entry
  rw [month_count] at month
  rw [date_valid_iff]
  simp only [Day.toDate, daysInMonth, Nat.add_sub_cancel, List.getD_eq_getElem?_getD, entry,
    Option.getD_some]
  omega

theorem to_day_to_date (day : Day) : day.toDate.toDay = day := by
  obtain ⟨whole, inside⟩ := day_split day
  obtain ⟨_, _, _, place⟩ := split_months_place _ _ inside
  have number : day.toDate.toDay.number = day.number := by
    simp only [Day.toDate, CivilDate.toDay, days_before_month_eq, Nat.add_sub_cancel]
    omega
  exact congrArg Day.mk number

theorem to_date_to_day (date : CivilDate) (valid : date.isValid = true) :
    date.toDay.toDate = date := by
  obtain ⟨⟨low, high⟩, positive, fits⟩ := (date_valid_iff date).mp valid
  have small := day_of_year_small date.year date.month date.day low high fits
  have number : date.toDay.number + epochDays =
      daysBeforeYear date.year + (daysBeforeMonth date.year date.month + (date.day - 1) : Nat) := by
    simp only [CivilDate.toDay]
    omega
  have next := days_before_next_year date.year
  have held := year_holds date.toDay
  have year : date.toDay.year = date.year :=
    year_unique _ _ _ held.1 held.2 (by omega) (by omega)
  have rest : (date.toDay.number + epochDays - daysBeforeYear date.year).toNat =
      ((monthLengths date.year).take (date.month - 1)).sum + (date.day - 1) := by
    rw [← days_before_month_eq]
    omega
  have split := split_months_at (monthLengths date.year) (date.month - 1)
    (daysInMonth date.year date.month) (date.day - 1)
    (month_length_some date.year date.month low high) (by omega)
  simp only [Day.toDate, year, rest, split, Nat.sub_add_cancel low, Nat.sub_add_cancel positive]

def CivilDate.monthIndex (date : CivilDate) : Int :=
  date.year * 12 + date.month - 1

def monthLength (index : Int) : Nat :=
  daysInMonth (index / 12) ((index % 12).toNat + 1)

def dateInMonth (index : Int) (day : Nat) : CivilDate :=
  ⟨index / 12, (index % 12).toNat + 1, day⟩

theorem month_index_date (index : Int) (day : Nat) :
    (dateInMonth index day).monthIndex = index := by
  simp only [dateInMonth, CivilDate.monthIndex]
  omega

theorem date_of_index (date : CivilDate) (valid : date.isValid = true) :
    dateInMonth date.monthIndex date.day = date := by
  obtain ⟨⟨low, high⟩, _⟩ := (date_valid_iff date).mp valid
  cases date
  simp only [dateInMonth, CivilDate.monthIndex, CivilDate.mk.injEq, and_true] at *
  omega

theorem month_length_pos (index : Int) : 1 ≤ monthLength index :=
  days_in_month_pos _ _ (by omega) (by omega)

theorem date_in_month_valid (index : Int) (day : Nat) (positive : 1 ≤ day)
    (fits : day ≤ monthLength index) : (dateInMonth index day).isValid = true := by
  rw [date_valid_iff]
  exact ⟨⟨by simp [dateInMonth], by simp only [dateInMonth]; omega⟩, positive, fits⟩

theorem month_start_next (index : Int) :
    (dateInMonth (index + 1) 1).toDay.number =
      (dateInMonth index 1).toDay.number + monthLength index := by
  have entry := month_length_some (index / 12) ((index % 12).toNat + 1) (by omega) (by omega)
  rw [Nat.add_sub_cancel] at entry
  obtain ⟨inside, length⟩ := List.getElem?_eq_some_iff.mp entry
  have taken := List.sum_take_succ (monthLengths (index / 12)) (index % 12).toNat inside
  rw [length] at taken
  simp only [dateInMonth, CivilDate.toDay, monthLength, days_before_month_eq, Nat.add_sub_cancel]
  by_cases december : index % 12 = 11
  · have year : (index + 1) / 12 = index / 12 + 1 := by omega
    have month : ((index + 1) % 12).toNat = 0 := by omega
    have whole : (monthLengths (index / 12)).take ((index % 12).toNat + 1) =
        monthLengths (index / 12) := by
      apply List.take_of_length_le
      rw [month_count]
      omega
    rw [whole] at taken
    rw [year, month, days_before_next_year, taken]
    simp only [List.take_zero, List.sum_nil]
    omega
  · have year : (index + 1) / 12 = index / 12 := by omega
    have month : ((index + 1) % 12).toNat = (index % 12).toNat + 1 := by omega
    rw [year, month, taken]
    omega

theorem day_in_month (index : Int) (day : Nat) :
    (dateInMonth index day).toDay.number = (dateInMonth index 1).toDay.number + day - 1 := by
  simp only [dateInMonth, CivilDate.toDay]
  omega

theorem month_start_grows (earlier later : Int) (ordered : earlier ≤ later) :
    (dateInMonth earlier 1).toDay.number ≤ (dateInMonth later 1).toDay.number := by
  induction later, ordered using Int.leInduction with
  | base => exact Int.le_refl _
  | succ later ordered ih =>
      rw [month_start_next]
      omega

-- The same day of the month some months later, or the last day of a month that does not have it.
def Day.MonthsLater (day later : Day) (months : Int) : Prop :=
  later.toDate.monthIndex = day.toDate.monthIndex + months ∧
    later.toDate.day = min day.toDate.day (daysInMonth later.toDate.year later.toDate.month)

theorem add_months_eq (day : Day) (months : Int) :
    day.addMonths months =
      (dateInMonth (day.toDate.monthIndex + months)
        (min day.toDate.day (monthLength (day.toDate.monthIndex + months)))).toDay := by
  have total : day.toDate.year * 12 + (day.toDate.month - 1) + months =
      day.toDate.monthIndex + months := by
    unfold CivilDate.monthIndex
    omega
  rw [Day.addMonths]
  simp only [total]
  rfl

theorem add_months_date (day : Day) (months : Int) :
    (day.addMonths months).toDate =
      dateInMonth (day.toDate.monthIndex + months)
        (min day.toDate.day (monthLength (day.toDate.monthIndex + months))) := by
  have positive := ((date_valid_iff _).mp (to_date_valid day)).2.1
  have some := month_length_pos (day.toDate.monthIndex + months)
  rw [add_months_eq]
  exact to_date_to_day _ (date_in_month_valid _ _ (by omega) (by omega))

theorem months_later_iff (day later : Day) (months : Int) :
    day.MonthsLater later months ↔ later = day.addMonths months := by
  constructor
  · rintro ⟨index, clamped⟩
    have date := date_of_index later.toDate (to_date_valid later)
    have length : daysInMonth later.toDate.year later.toDate.month =
        monthLength later.toDate.monthIndex := by
      conv_lhs => rw [← date]
      rfl
    rw [length] at clamped
    rw [← to_day_to_date later, ← date, clamped, index, add_months_eq]
  · rintro rfl
    have date := add_months_date day months
    rw [Day.MonthsLater, date, month_index_date]
    exact ⟨rfl, rfl⟩

theorem add_no_months (day : Day) : day.addMonths 0 = day := by
  have fits := ((date_valid_iff _).mp (to_date_valid day)).2.2
  exact ((months_later_iff day day 0).mp ⟨by omega, by omega⟩).symm

theorem add_months_grows (day : Day) (fewer more : Int) (ordered : fewer ≤ more) :
    (day.addMonths fewer).number ≤ (day.addMonths more).number := by
  have positive := ((date_valid_iff _).mp (to_date_valid day)).2.1
  rcases Int.le_iff_eq_or_lt.mp ordered with rfl | less
  · exact Int.le_refl _
  · have start := month_start_grows (day.toDate.monthIndex + fewer + 1)
      (day.toDate.monthIndex + more) (by omega)
    have some := month_length_pos (day.toDate.monthIndex + more)
    rw [month_start_next] at start
    rw [add_months_eq, add_months_eq, day_in_month _ (min _ _), day_in_month _ (min _ _)]
    omega

end TaskSearch.Calendar
