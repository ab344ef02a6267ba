import TaskSearch.Mention
import TaskSearch.Proofs.Text.Characters

set_option autoImplicit false

namespace TaskSearch.Mention

theorem name_char_not_blank (c : Char) (inside : isNameChar c = true) : Text.isBlank c = false := by
  simp only [isNameChar, isWordChar, Bool.or_eq_true, Bool.and_eq_true, beq_iff_eq] at inside
  rcases inside with rfl | ⟨-, (((letter | digit) | mark) | connector) | joinControl⟩
  · decide
  · exact Text.word_not_blank c (by simp [Lexer.isWordChar, Text.isAlphanumeric, letter])
  · exact Text.word_not_blank c
      (by simp [Lexer.isWordChar, Text.isAlphanumeric, Text.isNumeral, digit])
  · exact Text.in_ranges_apart Text.markRanges Text.blankRanges c (by decide +kernel) mark
  · exact Text.in_ranges_apart Text.connectorRanges Text.blankRanges c (by decide) connector
  · exact Text.in_ranges_apart Text.joinControlRanges Text.blankRanges c (by decide)
      joinControl

theorem split_unread (c : Char) (rest : List Char)
    (unread : (if c = '@' then readAfterAt? rest else none) = none) :
    split (c :: rest) = ((split rest).1, c :: (split rest).2) := by
  rw [split]
  split
  · rename_i mention left read
    cases unread.symm.trans read
  · rfl

theorem split_kept (c : Char) (rest : List Char) (other : c ≠ '@') :
    split (c :: rest) = ((split rest).1, c :: (split rest).2) :=
  split_unread c rest (if_neg other)

theorem split_taken (rest left : List Char) (mention : Mention)
    (read : readAfterAt? rest = some (mention, left)) :
    split ('@' :: rest) = (mention :: (split left).1, (split left).2) := by
  rw [split]
  split
  · rename_i found behind same
    rw [if_pos rfl, read] at same
    cases same
    rfl
  · rename_i none
    rw [if_pos rfl, read] at none
    cases none

theorem split_unmarked (word after : List Char) (unmarked : '@' ∉ word) :
    split (word ++ after) = ((split after).1, word ++ (split after).2) := by
  induction word with
  | nil => rfl
  | cons c rest ih =>
      rw [List.mem_cons, not_or] at unmarked
      rw [List.cons_append, split_kept c _ (Ne.symm unmarked.1), ih unmarked.2]
      rfl

section

variable (name after : List Char) (nonempty : name ≠ [])
  (inside : ∀ c ∈ name, isNameChar c = true) (ended : ∀ c ∈ after.head?, isNameChar c = false)

include nonempty inside ended

theorem read_name_whole : readName? (name ++ after) = some (name, after) := by
  have stops : after.takeWhile isNameChar = [] ∧ after.dropWhile isNameChar = after := by
    cases after with
    | nil => exact ⟨rfl, rfl⟩
    | cons c rest => simp [ended c rfl]
  have taken : (name ++ after).takeWhile isNameChar = name := by
    rw [List.takeWhile_append_of_pos inside, stops.1, List.append_nil]
  have left : (name ++ after).dropWhile isNameChar = after := by
    rw [List.dropWhile_append_of_pos inside, stops.2]
  cases name with
  | nil => exact absurd rfl nonempty
  | cons c rest => rw [readName?, taken, left]

theorem read_after_whole (fuzzy : Bool) :
    readAfterAt? ((if fuzzy then ['~'] else []) ++ (name ++ after)) =
      some (⟨String.ofList name, fuzzy⟩, after) := by
  have read := read_name_whole name after nonempty inside ended
  cases fuzzy with
  | true => simp [readAfterAt?, read]
  | false =>
      cases name with
      | nil => exact absurd rfl nonempty
      | cons c rest =>
          have noTilde : c ≠ '~' := by
            rintro rfl
            exact absurd (inside '~' List.mem_cons_self) (by decide +kernel)
          simp only [Bool.false_eq_true, if_false, List.nil_append]
          unfold readAfterAt?
          split
          · rename_i same
            exact absurd (List.cons.inj same).1 noTilde
          · rw [read]
            rfl

theorem split_mention (fuzzy : Bool) :
    split ('@' :: ((if fuzzy then ['~'] else []) ++ (name ++ after))) =
      (⟨String.ofList name, fuzzy⟩ :: (split after).1, (split after).2) :=
  split_taken _ after _ (read_after_whole name after nonempty inside ended fuzzy)

end

end TaskSearch.Mention
