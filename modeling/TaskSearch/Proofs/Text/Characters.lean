import Mathlib.Data.List.DropRight
import TaskSearch.Query.Lexer

set_option autoImplicit false

namespace TaskSearch.Text

-- No range of one list meets one of the other. The tables are long: numbers are compared as Booleans.
def areApart (a b : List (Nat × Nat)) : Bool :=
  a.all fun x => b.all fun y => Nat.blt x.2 y.1 || Nat.blt y.2 x.1

theorem are_apart_iff (a b : List (Nat × Nat)) :
    areApart a b = true ↔ ∀ x ∈ a, ∀ y ∈ b, x.2 < y.1 ∨ y.2 < x.1 := by
  simp [areApart]

theorem in_ranges_apart (a b : List (Nat × Nat)) (c : Char) (apart : areApart a b = true)
    (inside : inRanges a c = true) : inRanges b c = false := by
  rw [Bool.eq_false_iff]
  intro also
  obtain ⟨x, memberA, lowA, highA⟩ := (inRanges_iff a c).mp inside
  obtain ⟨y, memberB, lowB, highB⟩ := (inRanges_iff b c).mp also
  have := (are_apart_iff a b).mp apart x memberA y memberB
  omega

theorem ascii_word_not_blank :
    ∀ n < 128, Lexer.isWordChar (Char.ofNat n) = true → isBlank (Char.ofNat n) = false := by
  decide +kernel

theorem word_not_blank (c : Char) (word : Lexer.isWordChar c = true) : isBlank c = false := by
  by_cases ascii : c.toNat < 128
  · have small := ascii_word_not_blank c.toNat ascii
    rw [Char.ofNat_toNat] at small
    exact small word
  · have other (d : Char) (low : d.toNat < 128) : ¬ c = d := by
      rintro rfl
      exact ascii low
    simp only [Lexer.isWordChar, isAlphanumeric, isLetter, isNumeral, isDecimalDigit, ascii,
      if_false, Bool.or_eq_true, beq_iff_eq, other '_' (by decide), other '-' (by decide),
      other '.' (by decide), other '+' (by decide), or_false] at word
    rcases word with letter | digit | numeral
    · exact in_ranges_apart letterRanges blankRanges c (by decide +kernel) letter
    · exact in_ranges_apart digitRanges blankRanges c (by decide) digit
    · exact in_ranges_apart otherNumeralRanges blankRanges c (by decide) numeral

theorem trim_blanks_trimmed (cs : List Char) : trimBlanks (trimBlanks cs) = trimBlanks cs := by
  have trimmed (cs : List Char) : trimBlanks cs = (cs.dropWhile isBlank).rdropWhile isBlank := rfl
  have leading : (trimBlanks cs).dropWhile isBlank = trimBlanks cs := by
    rw [List.dropWhile_eq_self_iff]
    intro some
    have kept : trimBlanks cs <+: cs.dropWhile isBlank := List.rdropWhile_prefix _ _
    rw [kept.getElem some]
    exact List.dropWhile_get_zero_not isBlank cs (some.trans_le kept.length_le)
  rw [trimmed, leading, trimmed, List.rdropWhile_idempotent]

theorem trim_trimmed (text : String) : trim (trim text) = trim text := by
  rw [trim, trim, String.toList_ofList, trim_blanks_trimmed]

theorem lower_of_large (c : Char) (large : 0x5B ≤ c.toNat) : c.toLower = c := by
  have small : ¬ (c.val ≥ 'A'.val ∧ c.val ≤ 'Z'.val) := by
    rintro ⟨_, high⟩
    have bound : c.toNat ≤ 90 := high
    omega
  exact dif_neg small

theorem ascii_lower_small :
    ∀ n < 128, (Char.ofNat n).toLower.toLower = (Char.ofNat n).toLower := by
  decide

theorem of_nat_lower (n : Nat) (large : 0x5B ≤ n) : (Char.ofNat n).toLower = Char.ofNat n := by
  by_cases valid : n.isValidChar
  · have code : (Char.ofNat n).toNat = n := by
      rw [Char.ofNat, dif_pos valid]
      rfl
    exact lower_of_large _ (by omega)
  · rw [Char.ofNat, dif_neg valid]
    rfl

theorem runs_end_large :
    ∀ run ∈ smallLetterRuns, 0x5B ≤ (run.first : Int) + run.shift := by
  decide +kernel

theorem small_letter_small (c : Char) : (smallLetter c).toLower = smallLetter c := by
  unfold smallLetter
  split
  · rename_i ascii
    have small := ascii_lower_small c.toNat ascii
    rwa [Char.ofNat_toNat] at small
  · rename_i wide
    split
    · rename_i run found
      have covered := List.find?_some found
      have large := runs_end_large run (List.mem_of_find?_eq_some found)
      simp only [CaseRun.covers, Bool.and_eq_true, decide_eq_true_eq] at covered
      apply of_nat_lower
      omega
    · apply lower_of_large
      omega

theorem lower_at_small (before after : List Char) (c : Char) :
    (lowerAt before c after).map Char.toLower = lowerAt before c after := by
  unfold lowerAt
  repeat' split
  · decide
  · decide
  · decide
  · simp [small_letter_small]

theorem lower_after_small (before cs : List Char) :
    (lowerAfter before cs).map Char.toLower = lowerAfter before cs := by
  induction cs generalizing before with
  | nil => rfl
  | cons c rest ih => rw [lowerAfter, List.map_append, lower_at_small, ih]

theorem lower_chars_small (cs : List Char) : (lowerChars cs).map Char.toLower = lowerChars cs :=
  lower_after_small [] cs

theorem lower_keeps (cs : List Char) (c : Char) (same : smallLetter c = c)
    (noCase : c ≠ 'Σ' ∧ c ≠ 'İ') (member : c ∈ cs) : c ∈ lowerChars cs := by
  have kept (before cs : List Char) (member : c ∈ cs) : c ∈ lowerAfter before cs := by
    induction cs generalizing before with
    | nil => exact absurd member List.not_mem_nil
    | cons d rest ih =>
        rw [lowerAfter, List.mem_append]
        rcases List.mem_cons.mp member with rfl | later
        · left
          simp [lowerAt, noCase, same]
        · exact .inr (ih (d :: before) later)
  exact kept [] cs member

theorem ascii_digit_caseless :
    ∀ n < 128, (Char.ofNat n).isDigit = true → (Char.ofNat n).toLower = Char.ofNat n := by
  decide

theorem digit_no_run :
    areApart digitRanges (smallLetterRuns.map fun run => (run.first, run.last)) = true := by
  decide +kernel

theorem digit_caseless (c : Char) (digit : isDecimalDigit c = true) :
    smallLetter c = c ∧ c ≠ 'Σ' ∧ c ≠ 'İ' := by
  refine ⟨?_, ?_, ?_⟩
  · unfold smallLetter
    unfold isDecimalDigit at digit
    split
    · rename_i ascii
      have small := ascii_digit_caseless c.toNat ascii
      rw [Char.ofNat_toNat] at small
      exact small (by rwa [if_pos ascii] at digit)
    · rename_i wide
      rw [if_neg wide] at digit
      have outside := in_ranges_apart digitRanges _ c digit_no_run digit
      have none : smallLetterRuns.find? (·.covers c.toNat) = none := by
        rw [List.find?_eq_none]
        intro run member covered
        simp only [CaseRun.covers, Bool.and_eq_true, decide_eq_true_eq] at covered
        refine Bool.eq_false_iff.mp outside ((inRanges_iff _ c).mpr ?_)
        exact ⟨_, List.mem_map_of_mem member, covered.1⟩
      rw [none]
  · rintro rfl
    exact absurd digit (by decide)
  · rintro rfl
    exact absurd digit (by decide)

end TaskSearch.Text
