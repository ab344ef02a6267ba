import Mathlib.Algebra.Group.Nat.Defs
import Mathlib.Data.List.Basic
import Mathlib.Data.List.Induction
import TaskSearch.Text.Reader

set_option autoImplicit false

namespace TaskSearch.Text

def decimal : Nat → Nat → List Char
  | 0, _ => []
  | width + 1, n => decimal width (n / 10) ++ [Nat.digitChar (n % 10)]

theorem decimal_length (width n : Nat) : (decimal width n).length = width := by
  induction width generalizing n with
  | zero => rfl
  | succ width ih => rw [decimal, List.length_append, ih, List.length_singleton]

theorem digit_char_is_digit (n : Nat) : (Nat.digitChar (n % 10)).isDigit = true := by
  simp [Nat.isDigit_digitChar, Nat.mod_lt]

theorem decimal_digits (width n : Nat) (c : Char) (member : c ∈ decimal width n) :
    c.isDigit = true := by
  induction width generalizing n with
  | zero => simp [decimal] at member
  | succ width ih =>
      rw [decimal, List.mem_append, List.mem_singleton] at member
      rcases member with before | rfl
      · exact ih (n / 10) before
      · exact digit_char_is_digit n

theorem digit_value (n : Nat) : (Nat.digitChar (n % 10)).toNat - '0'.toNat = n % 10 := by
  have values : ∀ digit < 10, (Nat.digitChar digit).toNat - '0'.toNat = digit := by decide
  exact values (n % 10) (Nat.mod_lt n (by decide))

theorem digit_of_value (c : Char) (digit : c.isDigit = true) :
    c.toNat - '0'.toNat < 10 ∧ Nat.digitChar (c.toNat - '0'.toNat) = c := by
  have codes : ∀ code < 10, Nat.digitChar code = Char.ofNat (code + 48) := by decide
  have bounds : 48 ≤ c.toNat ∧ c.toNat ≤ 57 := by
    simpa [Char.isDigit, UInt32.le_iff_toNat_le] using digit
  have zero : '0'.toNat = 48 := rfl
  rw [zero]
  refine ⟨by omega, ?_⟩
  rw [codes _ (by omega), Nat.sub_add_cancel bounds.1, Char.ofNat_toNat]

theorem number_of_snoc (digits : List Char) (c : Char) (n : Nat) :
    decimalNumber? (digits ++ [c]) = some n ↔
      c.isDigit = true ∧ ∃ m, decimalNumber? digits = some m ∧
        n = m * 10 + (c.toNat - '0'.toNat) := by
  unfold decimalNumber?
  by_cases all : digits.all Char.isDigit = true
  · by_cases last : c.isDigit = true
    · simp [all, last, eq_comm]
    · simp [last]
  · simp [all]

theorem number_of_decimal (width n : Nat) (fits : n < 10 ^ width) :
    decimalNumber? (decimal width n) = some n := by
  induction width generalizing n with
  | zero =>
      have zero : n = 0 := by simpa using fits
      rw [zero]
      rfl
  | succ width ih =>
      rw [decimal, number_of_snoc]
      refine ⟨digit_char_is_digit n, n / 10, ih (n / 10) ?_, ?_⟩
      · rw [Nat.pow_succ] at fits
        omega
      · rw [digit_value]
        omega

theorem decimal_of_number (digits : List Char) (n : Nat) (read : decimalNumber? digits = some n) :
    digits = decimal digits.length n ∧ n < 10 ^ digits.length := by
  induction digits using List.reverseRecOn generalizing n with
  | nil =>
      cases read
      exact ⟨rfl, by decide⟩
  | append_singleton digits c ih =>
      obtain ⟨digit, m, before, rfl⟩ := (number_of_snoc digits c n).mp read
      obtain ⟨same, bound⟩ := ih m before
      obtain ⟨small, written⟩ := digit_of_value c digit
      have shifted : (m * 10 + (c.toNat - '0'.toNat)) / 10 = m := by omega
      have last : (m * 10 + (c.toNat - '0'.toNat)) % 10 = c.toNat - '0'.toNat := by omega
      rw [List.length_append, List.length_singleton, decimal, shifted, last, written, ← same,
        Nat.pow_succ]
      exact ⟨rfl, by omega⟩

theorem digits_are_digits (n : Nat) : ∀ c ∈ Nat.toDigits 10 n, c.isDigit = true :=
  fun _ member => Nat.isDigit_of_mem_toDigits (by decide) (by decide) member

theorem number_of_digits (n : Nat) : decimalNumber? (Nat.toDigits 10 n) = some n := by
  have value : Nat.ofDigitChars 10 (Nat.toDigits 10 n) 0 = n :=
    Nat.ofDigitChars_toDigits (by decide) (by decide)
  rw [decimalNumber?, if_pos (List.all_eq_true.mpr (digits_are_digits n))]
  simpa [Nat.ofDigitChars, Nat.mul_comm] using value

theorem digits_begin (n : Nat) (zero : (Nat.toDigits 10 n).head? = some '0') : n = 0 := by
  induction n using Nat.strongRecOn with
  | ind n ih =>
      by_cases small : n < 10
      · have others : ∀ n < 10, Nat.digitChar n = '0' → n = 0 := by decide
        rw [Nat.toDigits_of_lt_base small] at zero
        exact others n small (Option.some.inj zero)
      · rw [Nat.toDigits_of_base_le (by decide) (by omega),
          List.head?_append_of_ne_nil _ Nat.toDigits_ne_nil] at zero
        have above := ih (n / 10) (by omega) zero
        omega

end TaskSearch.Text
