import TaskSearch.Date.Written
import TaskSearch.Proofs.Text.Decimal

set_option autoImplicit false

namespace TaskSearch.Date.Written

open Calendar Text

def Part.isSign : Part → Bool
  | .sign _ => true
  | _ => false

namespace Fields

def get (fields : Fields) : Part → Nat
  | .year => fields.year
  | .month => fields.month
  | .day => fields.day
  | .hour => fields.hour
  | .minute => fields.minute
  | .second => fields.second
  | .sign _ => 0

def spellPart (fields : Fields) : Part → List Char
  | .sign c => [c]
  | part => decimal part.width (fields.get part)

def spell (fields : Fields) (shape : Shape) : List Char :=
  shape.flatMap fields.spellPart

def kept (fields : Fields) (shape : Shape) : Fields :=
  shape.foldr (fun part rest => rest.put (fields.get part) part) {}

def Fit (fields : Fields) (shape : Shape) : Prop :=
  ∀ part ∈ shape, fields.get part < 10 ^ part.width

end Fields

theorem spell_numeric (fields : Fields) (part : Part) (numeric : part.isSign = false) :
    fields.spellPart part = decimal part.width (fields.get part) := by
  cases part with
  | sign c => exact Bool.noConfusion numeric
  | _ => rfl

theorem read_sign_iff (c : Char) (shape : Shape) (cs : List Char) (fields : Fields) :
    readFields? (.sign c :: shape) cs = some fields ↔
      ∃ rest, cs = c :: rest ∧ readFields? shape rest = some fields := by
  cases cs with
  | nil => simp [readFields?]
  | cons d rest =>
      by_cases same : d = c
      · simp [readFields?, same]
      · simp [readFields?, same]

theorem read_numeric_iff (part : Part) (shape : Shape) (cs : List Char) (fields : Fields)
    (numeric : part.isSign = false) :
    readFields? (part :: shape) cs = some fields ↔
      ∃ digits rest n others, cs = digits ++ rest ∧ digits.length = part.width ∧
        decimalNumber? digits = some n ∧ readFields? shape rest = some others ∧
        fields = others.put n part := by
  have unfolded : readFields? (part :: shape) cs =
      if part.width ≤ cs.length then do
        let n ← decimalNumber? (cs.take part.width)
        let fields ← readFields? shape (cs.drop part.width)
        some (fields.put n part)
      else none := by
    cases part with
    | sign c => exact Bool.noConfusion numeric
    | _ => rfl
  rw [unfolded]
  constructor
  · intro read
    by_cases long : part.width ≤ cs.length
    · rw [if_pos long] at read
      obtain ⟨n, number, others, behind, same⟩ := by
        simpa only [Option.bind_eq_bind, Option.bind_eq_some_iff] using read
      exact ⟨_, _, n, others, (List.take_append_drop part.width cs).symm,
        List.length_take_of_le long, number, behind, (Option.some.inj same).symm⟩
    · rw [if_neg long] at read
      cases read
  · rintro ⟨digits, rest, n, others, rfl, long, number, behind, rfl⟩
    rw [if_pos (by rw [List.length_append]; omega), List.take_left' long, List.drop_left' long,
      number, behind]
    rfl

theorem read_spelled (fields : Fields) (shape : Shape) (fits : fields.Fit shape) :
    readFields? shape (fields.spell shape) = some (fields.kept shape) := by
  induction shape with
  | nil => rfl
  | cons part shape ih =>
      have rest := ih fun other member => fits other (List.mem_cons_of_mem part member)
      by_cases numeric : part.isSign = false
      · rw [read_numeric_iff part shape _ _ numeric]
        exact ⟨fields.spellPart part, fields.spell shape, fields.get part, fields.kept shape, rfl,
          by rw [spell_numeric fields part numeric, decimal_length],
          by rw [spell_numeric fields part numeric,
            number_of_decimal part.width _ (fits part List.mem_cons_self)],
          rest, rfl⟩
      · cases part with
        | sign c => exact (read_sign_iff c shape _ _).mpr ⟨fields.spell shape, rfl, rest⟩
        | _ => exact absurd rfl numeric

theorem put_get_other (fields : Fields) (n : Nat) (part other : Part) (different : part ≠ other) :
    (fields.put n part).get other = fields.get other := by
  cases part <;> cases other <;> simp_all [Fields.put, Fields.get]

theorem put_get_same (fields : Fields) (n : Nat) (part : Part) (numeric : part.isSign = false) :
    (fields.put n part).get part = n := by
  cases part with
  | sign c => exact Bool.noConfusion numeric
  | _ => rfl

theorem spell_congr (a b : Fields) (shape : Shape)
    (agree : ∀ part ∈ shape, a.get part = b.get part) : a.spell shape = b.spell shape := by
  unfold Fields.spell
  rw [List.flatMap_def, List.flatMap_def]
  congr 1
  apply List.map_congr_left
  intro part member
  cases part with
  | sign c => rfl
  | _ => rw [spell_numeric a _ rfl, spell_numeric b _ rfl, agree _ member]

theorem spelled_of_read (shape : Shape) (cs : List Char) (fields : Fields)
    (distinct : shape.Pairwise fun part other => part.isSign = true ∨ part ≠ other)
    (read : readFields? shape cs = some fields) : cs = fields.spell shape ∧ fields.Fit shape := by
  induction shape generalizing cs fields with
  | nil =>
      cases cs with
      | nil => exact ⟨rfl, by simp [Fields.Fit]⟩
      | cons c rest => simp [readFields?] at read
  | cons part shape ih =>
      obtain ⟨others, apartBehind⟩ := List.pairwise_cons.mp distinct
      by_cases numeric : part.isSign = false
      · obtain ⟨digits, rest, n, before, rfl, long, number, behind, same⟩ :=
          (read_numeric_iff part shape cs fields numeric).mp read
        obtain ⟨spelled, fits⟩ := ih rest before apartBehind behind
        obtain ⟨written, bound⟩ := decimal_of_number digits n number
        rw [long] at written bound
        have agree : ∀ other ∈ shape, fields.get other = before.get other := by
          intro other member
          have apart : part ≠ other := by simpa [numeric] using others other member
          rw [same, put_get_other before n part other apart]
        have value : fields.get part = n := by rw [same, put_get_same before n part numeric]
        constructor
        · rw [Fields.spell, List.flatMap_cons, ← Fields.spell, spell_numeric fields part numeric,
            value, ← written, spell_congr fields before shape agree, ← spelled]
        · intro other member
          rcases List.mem_cons.mp member with rfl | later
          · rwa [value]
          · rw [agree other later]
            exact fits other later
      · cases part with
        | sign c =>
            obtain ⟨rest, rfl, behind⟩ := (read_sign_iff c shape cs fields).mp read
            obtain ⟨spelled, fits⟩ := ih rest fields apartBehind behind
            constructor
            · rw [spelled]
              rfl
            · intro other member
              rcases List.mem_cons.mp member with rfl | later
              · exact Nat.pow_pos (by decide)
              · exact fits other later
        | _ => exact absurd rfl numeric

theorem date_shape_iff (shape : Shape) :
    shape ∈ dateShapes ↔ ∃ c ∈ ['-', '/'], shape = yearFirst c ∨ shape = dayFirst c := by
  simp [dateShapes]
  tauto

theorem shape_distinct (shape : Shape) (listed : shape ∈ dateShapes ++ timeShapes) :
    shape.Pairwise fun part other => part.isSign = true ∨ part ≠ other := by
  revert shape
  decide

theorem date_shape_distinct (shape : Shape) (listed : shape ∈ dateShapes) :
    shape.Pairwise fun part other => part.isSign = true ∨ part ≠ other :=
  shape_distinct shape (List.mem_append_left _ listed)

theorem spell_year_first (fields : Fields) (c : Char) :
    fields.spell (yearFirst c) =
      decimal 4 fields.year ++ c :: (decimal 2 fields.month ++ c :: decimal 2 fields.day) := by
  simp [Fields.spell, yearFirst, Fields.spellPart, Fields.get, Part.width]

theorem spell_day_first (fields : Fields) (c : Char) :
    fields.spell (dayFirst c) =
      decimal 2 fields.day ++ c :: (decimal 2 fields.month ++ c :: decimal 4 fields.year) := by
  simp [Fields.spell, dayFirst, Fields.spellPart, Fields.get, Part.width]

theorem lead_unique (width other n m : Nat) (c d : Char) (rest more : List Char)
    (sign : c.isDigit = false) (also : d.isDigit = false)
    (same : decimal width n ++ c :: rest = decimal other m ++ d :: more) :
    width = other ∧ c = d := by
  have lead (width n : Nat) (c : Char) (rest : List Char) (sign : c.isDigit = false) :
      (decimal width n ++ c :: rest).takeWhile Char.isDigit = decimal width n := by
    rw [List.takeWhile_append_of_pos (decimal_digits width n)]
    simp [sign]
  have digits := congrArg (List.takeWhile Char.isDigit) same
  rw [lead width n c rest sign, lead other m d more also] at digits
  have widths := congrArg List.length digits
  rw [decimal_length, decimal_length] at widths
  rw [digits] at same
  exact ⟨widths, (List.cons.inj (List.append_cancel_left same)).1⟩

theorem date_shape_unique (a b : Fields) (shape other : Shape) (listed : shape ∈ dateShapes)
    (also : other ∈ dateShapes) (same : a.spell shape = b.spell other) : shape = other := by
  have signs (c : Char) (known : c ∈ ['-', '/']) : c.isDigit = false := by
    simp only [List.mem_cons, List.not_mem_nil, or_false] at known
    rcases known with rfl | rfl
    all_goals rfl
  obtain ⟨c, sign, first⟩ := (date_shape_iff shape).mp listed
  obtain ⟨d, signAlso, second⟩ := (date_shape_iff other).mp also
  have unique := fun width other n m rest more =>
    lead_unique width other n m c d rest more (signs c sign) (signs d signAlso)
  rcases first with rfl | rfl <;> rcases second with rfl | rfl
  all_goals simp only [spell_year_first, spell_day_first] at same
  · rw [(unique _ _ _ _ _ _ same).2]
  · exact absurd (unique _ _ _ _ _ _ same).1 (by decide)
  · exact absurd (unique _ _ _ _ _ _ same).1 (by decide)
  · rw [(unique _ _ _ _ _ _ same).2]

theorem read_any_sound (shapes : List Shape) (cs : List Char) (fields : Fields)
    (read : readAny? shapes cs = some fields) :
    ∃ shape ∈ shapes, readFields? shape cs = some fields ∧ fields.isValid = true := by
  obtain ⟨shape, listed, found⟩ := List.exists_of_findSome?_eq_some read
  obtain ⟨inShape, valid⟩ := Option.filter_eq_some_iff.mp found
  exact ⟨shape, listed, inShape, valid⟩

theorem days_in_month_le (year : Int) (month : Nat) : daysInMonth year month ≤ 31 := by
  have lengths : ∀ length ∈ monthLengths year, length ≤ 31 := by
    cases leap : isLeapYear year <;> simp [monthLengths, leap]
  unfold daysInMonth
  rw [List.getD_eq_getElem?_getD]
  cases entry : (monthLengths year)[month - 1]? with
  | none => exact Nat.zero_le 31
  | some length => exact lengths length (List.mem_of_getElem? entry)

theorem date_fits (fields : Fields) (shape : Shape) (listed : shape ∈ dateShapes)
    (valid : fields.date.isValid = true) (year : fields.year < 10000) : fields.Fit shape := by
  have days := days_in_month_le fields.date.year fields.date.month
  simp only [CivilDate.isValid, Bool.and_eq_true, decide_eq_true_eq] at valid
  have month : fields.month < 100 := by
    have : fields.month ≤ 12 := valid.1.1.2
    omega
  have day : fields.day < 100 := by
    have : fields.day ≤ daysInMonth fields.date.year fields.date.month := valid.2
    omega
  obtain ⟨c, _, rfl | rfl⟩ := (date_shape_iff shape).mp listed
  all_goals simp [Fields.Fit, yearFirst, dayFirst, Fields.get, Part.width, year, month, day]

theorem date_chars (fields : Fields) (shape : Shape) (listed : shape ∈ dateShapes) (c : Char)
    (member : c ∈ fields.spell shape) : c.isDigit = true ∨ c = '-' ∨ c = '/' := by
  obtain ⟨sign, known, rfl | rfl⟩ := (date_shape_iff shape).mp listed
  all_goals
    simp only [spell_year_first, spell_day_first, List.mem_append, List.mem_cons] at member
    rcases member with digit | rfl | digit | rfl | digit
    · exact .inl (decimal_digits _ _ c digit)
    · exact .inr (by simpa using known)
    · exact .inl (decimal_digits _ _ c digit)
    · exact .inr (by simpa using known)
    · exact .inl (decimal_digits _ _ c digit)

theorem date_has_sign (fields : Fields) (shape : Shape) (listed : shape ∈ dateShapes) :
    ∃ c ∈ ['-', '/'], c ∈ fields.spell shape := by
  obtain ⟨sign, known, rfl | rfl⟩ := (date_shape_iff shape).mp listed
  · exact ⟨sign, known, by simp [spell_year_first]⟩
  · exact ⟨sign, known, by simp [spell_day_first]⟩

theorem kept_date (fields : Fields) (shape : Shape) (listed : shape ∈ dateShapes) :
    fields.kept shape = { year := fields.year, month := fields.month, day := fields.day } := by
  obtain ⟨c, _, rfl | rfl⟩ := (date_shape_iff shape).mp listed
  all_goals rfl

theorem read_date_iff (cs : List Char) (date : CivilDate) :
    (∃ fields, readAny? dateShapes cs = some fields ∧ fields.date = date) ↔
      ∃ shape ∈ dateShapes, ∃ fields : Fields, fields.date = date ∧ date.isValid = true ∧
        fields.year < 10000 ∧ cs = fields.spell shape := by
  constructor
  · rintro ⟨fields, read, rfl⟩
    obtain ⟨shape, listed, inShape, valid⟩ := read_any_sound dateShapes cs fields read
    obtain ⟨spelled, fits⟩ :=
      spelled_of_read shape cs fields (date_shape_distinct shape listed) inShape
    have hasYear : .year ∈ shape := by
      obtain ⟨c, _, rfl | rfl⟩ := (date_shape_iff shape).mp listed
      all_goals simp [yearFirst, dayFirst]
    refine ⟨shape, listed, fields, rfl, ?_, fits .year hasYear, spelled⟩
    simp only [Fields.isValid, Bool.and_eq_true] at valid
    exact valid.1.1.1
  · rintro ⟨shape, listed, fields, rfl, valid, year, rfl⟩
    have read := read_spelled fields shape (date_fits fields shape listed valid year)
    rw [kept_date fields shape listed] at read
    have validKept :
        Fields.isValid { year := fields.year, month := fields.month, day := fields.day } =
          true := by
      simpa [Fields.isValid, Fields.date] using valid
    have accepted : (readAny? dateShapes (fields.spell shape)).isSome = true := by
      rw [readAny?, List.findSome?_isSome_iff]
      refine ⟨shape, listed, ?_⟩
      rw [read, Option.filter_some, if_pos validKept]
      rfl
    -- The answer may come from an earlier shape, but then the text would be spelled in two shapes.
    obtain ⟨found, answer⟩ := Option.isSome_iff_exists.mp accepted
    obtain ⟨other, also, inOther, _⟩ := read_any_sound dateShapes _ found answer
    obtain ⟨spelled, _⟩ :=
      spelled_of_read other _ found (date_shape_distinct other also) inOther
    obtain rfl := date_shape_unique fields found shape other listed also spelled
    rw [read] at inOther
    cases inOther
    exact ⟨_, answer, rfl⟩

end TaskSearch.Date.Written
