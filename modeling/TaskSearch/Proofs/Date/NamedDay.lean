import TaskSearch.Date.Value
import TaskSearch.Proofs.Date.Spelling
import TaskSearch.Proofs.Text.Characters

set_option autoImplicit false

namespace TaskSearch.Date

open Calendar

inductive NamesDay (clock : Clock) (text : String) : Day → Prop where
  | today (spelled : Text.lower (Text.trim text) = "today") : NamesDay clock text clock.today
  | tomorrow (spelled : Text.lower (Text.trim text) = "tomorrow") :
      NamesDay clock text (clock.today.addDays 1)
  | yesterday (spelled : Text.lower (Text.trim text) = "yesterday") :
      NamesDay clock text (clock.today.addDays (-1))
  | written (shape : Written.Shape) (fields : Written.Fields) (listed : shape ∈ Written.dateShapes)
      (valid : fields.date.isValid = true) (year : fields.year < 10000)
      (spelled : (Text.trim text).toList = fields.spell shape) :
      NamesDay clock text fields.date.toDay

theorem mem_trim (cs : List Char) (c : Char) (ink : Text.isBlank c = false) (member : c ∈ cs) :
    c ∈ Text.trimBlanks cs := by
  have kept (cs : List Char) (member : c ∈ cs) : c ∈ cs.dropWhile Text.isBlank := by
    rw [← List.takeWhile_append_dropWhile (p := Text.isBlank) (l := cs), List.mem_append] at member
    rcases member with blank | rest
    · have := List.all_eq_true.mp List.all_takeWhile c blank
      rw [ink] at this
      exact Bool.noConfusion this
    · exact rest
  rw [Text.trimBlanks, List.mem_reverse]
  exact kept _ (List.mem_reverse.mpr (kept cs member))

theorem lower_keeps_sign (text : String) (c : Char) (sign : c ∈ ['.', '-', '/'])
    (member : c ∈ text.toList) : c ∈ (Text.lower text).toList := by
  have caseless : Text.smallLetter c = c ∧ c ≠ 'Σ' ∧ c ≠ 'İ' := by
    simp only [List.mem_cons, List.not_mem_nil, or_false] at sign
    rcases sign with rfl | rfl | rfl
    all_goals decide
  obtain ⟨same, noCase⟩ := caseless
  simpa [Text.lower] using Text.lower_keeps text.toList c same noCase member

def keywords : List String :=
  ["none", "today", "tomorrow", "yesterday"]

theorem keyword_no_sign (text : String) (c : Char) (sign : c ∈ ['.', '-', '/'])
    (keyword : Text.lower text ∈ keywords) : c ∉ text.toList := by
  intro member
  have kept := lower_keeps_sign text c sign member
  simp only [List.mem_cons, List.not_mem_nil, or_false] at sign
  have plain : ∀ word ∈ keywords, '.' ∉ word.toList ∧ '-' ∉ word.toList ∧ '/' ∉ word.toList := by
    decide
  obtain ⟨noDot, noHyphen, noSlash⟩ := plain _ keyword
  rcases sign with rfl | rfl | rfl
  · exact noDot kept
  · exact noHyphen kept
  · exact noSlash kept

theorem read_keyword_none (text : String) (today : Day) (other : Text.lower text ∉ keywords) :
    readKeyword? text today = none := by
  simp only [keywords, List.mem_cons, List.not_mem_nil, or_false, not_or] at other
  obtain ⟨noNone, noToday, noTomorrow, noYesterday⟩ := other
  rw [readKeyword?, if_neg noNone, if_neg noToday, if_neg noTomorrow, if_neg noYesterday]

theorem offset_spelled (cs : List Char) (offset : Offset) (read : Offset.read? cs = some offset) :
    ∃ sign ∈ [[], ['+'], ['-']], cs = sign ++ (offset.digits ++ [offset.unit.letter]) ∧
      ∀ c ∈ offset.digits, Offset.isDigit c = true := by
  have signed : ∃ sign ∈ [[], ['+'], ['-']], cs =
      sign ++ if cs.head? = some '+' || cs.head? = some '-' then cs.tail else cs := by
    cases cs with
    | nil => exact ⟨[], by simp, rfl⟩
    | cons c rest =>
        by_cases plus : c = '+'
        · exact ⟨['+'], by simp, by simp [plus]⟩
        · by_cases minus : c = '-'
          · exact ⟨['-'], by simp, by simp [minus]⟩
          · exact ⟨[], by simp, by simp [plus, minus]⟩
  obtain ⟨sign, listed, whole⟩ := signed
  unfold Offset.read? at read
  generalize (if cs.head? = some '+' || cs.head? = some '-' then cs.tail else cs) = unsigned at *
  dsimp only at read
  split at read
  · rename_i c digits letter taken left
    obtain ⟨unit, found, rfl⟩ := Option.map_eq_some_iff.mp read
    have same : unit.letter = letter := by simpa using List.find?_some found
    refine ⟨sign, listed, ?_, ?_⟩
    · rw [whole, same, ← taken, ← left, List.takeWhile_append_dropWhile]
    · rw [← taken]
      exact List.all_eq_true.mp List.all_takeWhile
  · cases read

theorem offset_has_letter (cs : List Char) (offset : Offset)
    (read : Offset.read? cs = some offset) : offset.unit.letter ∈ cs := by
  obtain ⟨sign, -, whole, -⟩ := offset_spelled cs offset read
  rw [whole]
  simp

theorem written_no_offset (fields : Written.Fields) (shape : Written.Shape)
    (listed : shape ∈ Written.dateShapes) : Offset.read? (fields.spell shape) = none := by
  cases read : Offset.read? (fields.spell shape) with
  | none => rfl
  | some offset =>
      have member := offset_has_letter _ offset read
      have chars := Written.date_chars fields shape listed _ member
      cases unit : offset.unit <;> simp [unit, OffsetUnit.letter] at chars

theorem parse_named_day (clock : Clock) (text : String) (day : Day)
    (named : NamesDay clock text day) (inside : day.isInCalendar = true) :
    parseDate text clock = .ok (.at (clock.zone.startOfDay day)) := by
  unfold parseDate
  cases named with
  | today spelled => simp [readKeyword?, spelled]
  | tomorrow spelled => simp [readKeyword?, spelled, Day.next?, inside]
  | yesterday spelled => simp [readKeyword?, spelled, Day.previous?, inside]
  | written shape fields listed valid year spelled =>
      obtain ⟨sign, known, member⟩ := Written.date_has_sign fields shape listed
      have other : Text.lower (Text.trim text) ∉ keywords := by
        intro keyword
        apply keyword_no_sign (Text.trim text) sign _ keyword
        · rwa [spelled]
        · simp_all
      obtain ⟨found, read, same⟩ := (Written.read_date_iff _ fields.date).mpr
        ⟨shape, listed, fields, rfl, valid, year, rfl⟩
      simp only [read_keyword_none _ _ other, spelled, written_no_offset fields shape listed,
        readWritten?, read, same]

theorem trim_keeps_dot (text : String) (member : '.' ∈ text.toList) :
    '.' ∈ (Text.trim text).toList := by
  simpa [Text.trim] using mem_trim text.toList '.' (by decide) member

theorem keyword_no_dot (text : String) (keyword : Text.lower (Text.trim text) ∈ keywords) :
    '.' ∉ text.toList := fun member =>
  keyword_no_sign (Text.trim text) '.' (by decide) keyword (trim_keeps_dot text member)

end TaskSearch.Date
