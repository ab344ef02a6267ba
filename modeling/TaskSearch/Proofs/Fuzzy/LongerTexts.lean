import Mathlib.Data.Rat.Floor
import Mathlib.Tactic.FieldSimp
import Mathlib.Tactic.Linarith
import Mathlib.Tactic.NormNum
import Mathlib.Tactic.Positivity
import Mathlib.Tactic.Ring
import TaskSearch.Fuzzy.Score
import TaskSearch.Proofs.Fuzzy.Embedding

set_option autoImplicit false

namespace TaskSearch.Fuzzy

theorem whole_points_rat (x : Rat) :
    wholePoints x = if x ≤ 0 then 0 else if 100 ≤ x then 100 else x.floor.toNat := by
  have unfolded : wholePoints x =
      if x ≤ (0.0 : Rat) then 0 else if (100.0 : Rat) ≤ x then 100 else x.floor.toNat := rfl
  norm_num at unfolded
  exact unfolded

theorem whole_points_mono (x y : Rat) (less : x ≤ y) : wholePoints x ≤ wholePoints y := by
  rw [whole_points_rat, whole_points_rat]
  by_cases low : x ≤ 0
  · rw [if_pos low]
    exact Nat.zero_le _
  · have positive : ¬ y ≤ 0 := fun none => low (less.trans none)
    rw [if_neg low, if_neg positive]
    by_cases high : 100 ≤ x
    · rw [if_pos high, if_pos (high.trans less)]
    · rw [if_neg high]
      split
      · have bound : x.floor ≤ 100 := by
          have below : (x.floor : Rat) ≤ x := Rat.floor_le x
          exact_mod_cast below.trans (le_of_not_ge high)
        omega
      · exact Int.toNat_le_toNat (Rat.floor_monotone less)

theorem whole_points_le (x : Rat) : wholePoints x ≤ 100 := by
  calc
    wholePoints x ≤ wholePoints (max x 100) := whole_points_mono _ _ (le_max_left x 100)
    _ = 100 := by
        rw [whole_points_rat, if_neg (by simp), if_pos (le_max_right x 100)]

theorem raw_score_rat (places : List Nat) (text : List Char) :
    (rawScore places text : Rat) =
      50.0 + coveragePoints places.length text.length
      + (if places.head? == some 0 then 12.0 else 0.0)
      + runPoints places.length (longestRun places)
      - 4.0 * ((places.length - longestRun places : Nat) : Rat)
      - (if longestRun places = 1 then 10.0 else 0.0)
      + 10.0 * (1.0 - (places.foldr (· + ·) 0 : Nat) / (places.length : Rat) / text.length)
      + (if places.length < (places.filter (follows (!Text.isAlphanumeric ·) text)).length * 2
          then 10.0 else 0.0)
      + (if (0.3 : Rat) * places.length ≤
            ((places.filter (follows isWordSeparator text)).length : Rat) then 8.0 else 0.0)
      + (if places.head? == some 0 && longestRun places == places.length
          then beginningPoints places.length text.length else 0.0)
      - ((text.length - places.length : Nat) : Rat) * lengthRate places.length := rfl

theorem coverage_rat (pattern text : Nat) (shorter : pattern < text) :
    (coveragePoints pattern text : Rat) = 25 * pattern / text := by
  have unfolded : (coveragePoints pattern text : Rat) =
      if pattern = text then 30.0 else (25.0 : Rat) * pattern / text := rfl
  rw [unfolded, if_neg (Nat.ne_of_lt shorter)]
  norm_num

theorem length_rate_rat (pattern : Nat) :
    (lengthRate pattern : Rat) =
      if pattern < 3 then 1 else if pattern < 5 then 7 / 10 else 1 / 2 := by
  have unfolded : (lengthRate pattern : Rat) =
      if pattern < 3 then (1.0 : Rat) else if pattern < 5 then 0.7 else 0.5 := rfl
  rw [unfolded]
  norm_num

theorem beginning_shrinks (pattern text longer : Nat) (shorter : pattern < text)
    (grown : text ≤ longer) :
    (beginningPoints pattern longer : Rat) ≤ beginningPoints pattern text := by
  have unfolded (length : Nat) (less : pattern < length) : (beginningPoints pattern length : Rat) =
      if length ≤ pattern * 2 then 10.0 else 5.0 := if_neg (Nat.ne_of_lt less)
  rw [unfolded longer (by omega), unfolded text shorter]
  by_cases near : longer ≤ pattern * 2
  · rw [if_pos near, if_pos (by omega)]
  · rw [if_neg near]
    split <;> norm_num

theorem sum_inside (places : List Nat) (length : Nat)
    (inside : ∀ place ∈ places, place < length) :
    places.foldr (· + ·) 0 + places.length ≤ length * places.length := by
  induction places with
  | nil => exact Nat.le_refl _
  | cons place rest ih =>
      have here := inside place List.mem_cons_self
      have behind := ih fun other member => inside other (List.mem_cons_of_mem _ member)
      simp only [List.foldr_cons, List.length_cons, Nat.mul_succ]
      omega

theorem mean_inside (places : List Nat) (length : Nat) (nonempty : places ≠ [])
    (inside : ∀ place ∈ places, place < length) :
    ((places.foldr (· + ·) 0 : Nat) : Rat) / places.length + 1 ≤ length := by
  have positive : (0 : Rat) < places.length := by
    exact_mod_cast List.length_pos_of_ne_nil nonempty
  rw [div_add_one positive.ne', div_le_iff₀ positive]
  exact_mod_cast sum_inside places length inside

-- What a longer text costs by its length outweighs what is gained by an earlier mean place.
theorem rate_covers (pattern : Nat) (mean length longer : Rat) (least : 1 ≤ pattern)
    (positive : 0 < length) (grown : length ≤ longer) (inside : mean + 1 ≤ length) :
    10 * mean ≤ 25 * pattern + lengthRate pattern * (length * longer) := by
  have square : length * length ≤ length * longer := mul_le_mul_of_nonneg_left grown positive.le
  rw [length_rate_rat]
  -- At each rate the difference is at least a square in the length with something to spare.
  split
  · have least : (1 : Rat) ≤ pattern := by exact_mod_cast least
    nlinarith [sq_nonneg (length - 5)]
  · split
    · have least : (3 : Rat) ≤ pattern := by exact_mod_cast Nat.le_of_not_lt ‹_›
      nlinarith [sq_nonneg (length - 7)]
    · have least : (5 : Rat) ≤ pattern := by exact_mod_cast Nat.le_of_not_lt ‹_›
      nlinarith [sq_nonneg (length - 10)]

theorem length_costs (pattern text longer : Nat) (mean : Rat) (least : 1 ≤ pattern)
    (shorter : pattern < text) (grown : text ≤ longer) (inside : mean + 1 ≤ text) :
    coveragePoints pattern longer + 10.0 * (1.0 - mean / longer)
        - ((longer - pattern : Nat) : Rat) * lengthRate pattern ≤
      coveragePoints pattern text + 10.0 * (1.0 - mean / text)
        - ((text - pattern : Nat) : Rat) * lengthRate pattern := by
  have positive : (0 : Rat) < text := by exact_mod_cast Nat.zero_lt_of_lt shorter
  have more : (text : Rat) ≤ longer := by exact_mod_cast grown
  have behind : (0 : Rat) < longer := positive.trans_le more
  rw [coverage_rat pattern text shorter, coverage_rat pattern longer (by omega),
    Nat.cast_sub (by omega), Nat.cast_sub (by omega), ← sub_nonneg]
  have factored : 25 * pattern / text + 10.0 * (1.0 - mean / text)
        - ((text : Rat) - pattern) * lengthRate pattern
      - (25 * pattern / longer + 10.0 * (1.0 - mean / longer)
        - ((longer : Rat) - pattern) * lengthRate pattern) =
      (longer - text) / (text * longer) *
        (25 * pattern + lengthRate pattern * (text * longer) - 10 * mean) := by
    norm_num
    field_simp
    ring
  rw [factored]
  refine mul_nonneg (div_nonneg (sub_nonneg.mpr more) (by positivity)) (sub_nonneg.mpr ?_)
  exact rate_covers pattern mean text longer least positive more inside

theorem follows_append (p : Char → Bool) (text more : List Char) (place : Nat)
    (inside : place < text.length) : follows p (text ++ more) place = follows p text place := by
  rw [follows, follows, List.getElem?_append_left (by omega)]

theorem raw_score_append (places : List Nat) (text more : List Char) (nonempty : places ≠ [])
    (shorter : places.length < text.length) (inside : ∀ place ∈ places, place < text.length) :
    rawScore places (text ++ more) ≤ (rawScore places text : Rat) := by
  have standing (p : Char → Bool) :
      places.filter (follows p (text ++ more)) = places.filter (follows p text) :=
    List.filter_congr fun place member => follows_append p text more place (inside place member)
  have grown : text.length ≤ (text ++ more).length := by simp
  have costs := length_costs places.length text.length (text ++ more).length _
    (List.length_pos_of_ne_nil nonempty) shorter grown
    (mean_inside places text.length nonempty inside)
  have beginning : (if places.head? == some 0 && longestRun places == places.length
        then beginningPoints places.length (text ++ more).length else 0.0 : Rat) ≤
      if places.head? == some 0 && longestRun places == places.length
        then beginningPoints places.length text.length else 0.0 := by
    split
    · exact beginning_shrinks _ _ _ shorter grown
    · exact le_refl _
  rw [raw_score_rat, raw_score_rat, standing, standing]
  linarith

theorem score_in_le (pattern text : List Char) : scoreIn Rat pattern text ≤ 100 := by
  unfold scoreIn
  split
  · exact Nat.le_refl 100
  · split
    · exact Nat.zero_le 100
    · split
      · exact whole_points_le _
      · exact Nat.zero_le 100

theorem score_of_places (pattern text : List Char) (found : List Nat) (different : pattern ≠ text)
    (nonempty : pattern ≠ []) (read : places pattern text = some found) :
    scoreIn Rat pattern text = wholePoints (rawScore found text : Rat) := by
  rw [scoreIn, if_neg different, if_neg nonempty, read]

theorem longer_text_not_better (pattern text more : List Char) (embeds : pattern.Sublist text) :
    scoreIn Rat pattern (text ++ more) ≤ scoreIn Rat pattern text := by
  by_cases whole : pattern = text
  · calc
      scoreIn Rat pattern (text ++ more)
          ≤ 100 := score_in_le _ _
      _ = scoreIn Rat pattern text := by rw [scoreIn, if_pos whole]
  · obtain ⟨found, read⟩ := Option.isSome_iff_exists.mp ((places_some_iff pattern text).mpr embeds)
    have shorter := found_shorter pattern text found read whole
    have placed := places_embed pattern text found read
    have different : pattern ≠ text ++ more := by
      intro same
      rw [placed.letters.length_eq, same, List.length_append] at shorter
      omega
    by_cases empty : pattern = []
    · rw [scoreIn, if_neg different, if_pos empty]
      exact Nat.zero_le _
    · have nonempty := found_nonempty pattern text found placed empty
      rw [score_of_places pattern text found whole empty read,
        score_of_places pattern _ found different empty
          (places_append pattern text more found read)]
      apply whole_points_mono
      exact raw_score_append found text more nonempty shorter
        (embeds_inside pattern text found placed)

theorem one_letter_more :
    ['x', 'y'].Sublist ['a', 'b', 'x', 'y'] ∧
    scoreIn Rat ['x', 'y'] ['a', 'b', 'x', 'y'] = 76 ∧
    scoreIn Rat ['x', 'y'] (['a', 'b', 'x', 'y'] ++ ['z']) = 74 ∧
    scoreIn Rat ['x', 'y'] (['a', 'b', 'x', 'y'] ++ ['z']) ≤
      scoreIn Rat ['x', 'y'] ['a', 'b', 'x', 'y'] := by
  have embeds : ['x', 'y'].Sublist ['a', 'b', 'x', 'y'] := by decide
  exact ⟨embeds, by decide +kernel, by decide +kernel, longer_text_not_better _ _ ['z'] embeds⟩

end TaskSearch.Fuzzy
