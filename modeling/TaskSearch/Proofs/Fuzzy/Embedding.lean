import Mathlib.Data.List.Forall2
import Mathlib.Data.List.Infix
import TaskSearch.Fuzzy.Score

set_option autoImplicit false

namespace TaskSearch.Fuzzy

-- Places of a text, one behind the other, that hold the characters of a pattern.
structure Embeds (pattern text : List Char) (places : List Nat) : Prop where
  ascending : places.Pairwise (· < ·)
  letters : List.Forall₂ (fun place c => text[place]? = some c) places pattern

theorem places_from_shift (index : Nat) (pattern text : List Char) :
    placesFrom index pattern text = (places pattern text).map (·.map (· + index)) := by
  unfold places
  induction text generalizing index pattern with
  | nil => cases pattern <;> rfl
  | cons c text ih =>
      have shift (place : Nat) : place + (index + 1) = place + 1 + index := by omega
      cases pattern with
      | nil => rfl
      | cons p pattern =>
          by_cases same : p = c
          · rw [placesFrom, placesFrom, if_pos same, if_pos same, ih (index + 1), ih (0 + 1)]
            simp [Function.comp_def, shift]
          · rw [placesFrom, placesFrom, if_neg same, if_neg same, ih (index + 1), ih (0 + 1)]
            simp [Function.comp_def, shift]

theorem places_nil (text : List Char) : places [] text = some [] := by
  rw [places, placesFrom]

theorem places_here (c : Char) (pattern text : List Char) :
    places (c :: pattern) (c :: text) =
      (places pattern text).map fun found => 0 :: found.map (· + 1) := by
  rw [places, placesFrom, if_pos rfl, places_from_shift, Option.map_map]
  rfl

theorem places_later (p c : Char) (pattern text : List Char) (different : p ≠ c) :
    places (p :: pattern) (c :: text) = (places (p :: pattern) text).map (·.map (· + 1)) := by
  rw [places, placesFrom, if_neg different, places_from_shift]

theorem places_some_iff (pattern text : List Char) :
    (places pattern text).isSome = true ↔ pattern.Sublist text := by
  induction text generalizing pattern with
  | nil => cases pattern <;> simp [places, placesFrom]
  | cons c text ih =>
      cases pattern with
      | nil => simp [places, placesFrom]
      | cons p pattern =>
          by_cases same : p = c
          · rw [same, places_here, Option.isSome_map, ih, List.cons_sublist_cons]
          · rw [places_later p c pattern text same, Option.isSome_map, ih, List.sublist_cons_iff]
            simp [same]

theorem embeds_nil (text : List Char) : Embeds [] text [] where
  ascending := .nil
  letters := .nil

theorem embeds_later_iff (pattern text : List Char) (c : Char) (places : List Nat) :
    Embeds pattern (c :: text) (places.map (· + 1)) ↔ Embeds pattern text places := by
  constructor
  · intro embeds
    have ascending := List.pairwise_map.mp embeds.ascending
    have letters := List.forall₂_map_left_iff.mp embeds.letters
    exact ⟨ascending.imp Nat.lt_of_succ_lt_succ, letters⟩
  · intro embeds
    refine ⟨List.pairwise_map.mpr (embeds.ascending.imp Nat.succ_lt_succ), ?_⟩
    exact List.forall₂_map_left_iff.mpr embeds.letters

theorem embeds_here (pattern text : List Char) (c : Char) (places : List Nat)
    (embeds : Embeds pattern text places) :
    Embeds (c :: pattern) (c :: text) (0 :: places.map (· + 1)) := by
  have later := (embeds_later_iff pattern text c places).mpr embeds
  refine ⟨List.pairwise_cons.mpr ⟨?_, later.ascending⟩, .cons rfl later.letters⟩
  intro place member
  obtain ⟨earlier, -, rfl⟩ := List.mem_map.mp member
  exact Nat.succ_pos earlier

theorem places_embed (pattern text : List Char) (found : List Nat)
    (read : places pattern text = some found) : Embeds pattern text found := by
  induction text generalizing pattern found with
  | nil =>
      cases pattern with
      | nil => cases read; exact embeds_nil []
      | cons p pattern => cases read
  | cons c text ih =>
      cases pattern with
      | nil => cases read; exact embeds_nil _
      | cons p pattern =>
          by_cases same : p = c
          · subst same
            rw [places_here, Option.map_eq_some_iff] at read
            obtain ⟨rest, read, rfl⟩ := read
            exact embeds_here pattern text p rest (ih pattern rest read)
          · rw [places_later p c pattern text same, Option.map_eq_some_iff] at read
            obtain ⟨rest, read, rfl⟩ := read
            exact (embeds_later_iff _ text c rest).mpr (ih _ rest read)

theorem positive_shifted (places : List Nat) (positive : ∀ place ∈ places, 0 < place) :
    ∃ earlier : List Nat, places = earlier.map (· + 1) := by
  refine ⟨places.map (· - 1), ?_⟩
  rw [List.map_map, List.map_congr_left (g := id), List.map_id]
  exact fun place member => Nat.sub_add_cancel (positive place member)

theorem embeds_cons (p c : Char) (pattern text : List Char) (found : List Nat)
    (embeds : Embeds (p :: pattern) (c :: text) found) :
    (p = c ∧ ∃ rest, found = 0 :: rest.map (· + 1) ∧ Embeds pattern text rest) ∨
      ∃ first rest, found = (first + 1) :: rest.map (· + 1) ∧
        Embeds (p :: pattern) text (first :: rest) ∧ Embeds pattern text rest := by
  obtain ⟨ascending, letters⟩ := embeds
  cases letters with
  | cons here letters =>
      rename_i first found
      obtain ⟨least, ascending⟩ := List.pairwise_cons.mp ascending
      obtain ⟨rest, rfl⟩ := positive_shifted found fun place member =>
        Nat.zero_lt_of_lt (least place member)
      have behind := (embeds_later_iff pattern text c rest).mp ⟨ascending, letters⟩
      cases first with
      | zero => exact .inl ⟨(Option.some.inj here).symm, rest, rfl, behind⟩
      | succ first =>
          refine .inr ⟨first, rest, rfl, ⟨List.pairwise_cons.mpr ⟨?_, behind.ascending⟩,
            .cons here behind.letters⟩, behind⟩
          intro place member
          exact Nat.lt_of_succ_lt_succ (least (place + 1) (List.mem_map_of_mem member))

theorem places_least (pattern text : List Char) (other : List Nat)
    (embeds : Embeds pattern text other) :
    ∃ found, places pattern text = some found ∧ List.Forall₂ (· ≤ ·) found other := by
  have shifted (found other : List Nat) (least : List.Forall₂ (· ≤ ·) found other) :
      List.Forall₂ (· ≤ ·) (found.map (· + 1)) (other.map (· + 1)) := by
    rw [List.forall₂_map_left_iff, List.forall₂_map_right_iff]
    exact least.imp fun _ _ => Nat.succ_le_succ
  induction text generalizing pattern other with
  | nil =>
      cases embeds.letters with
      | nil => exact ⟨[], rfl, .nil⟩
      | cons here letters => cases here
  | cons c text ih =>
      cases pattern with
      | nil =>
          cases embeds.letters
          exact ⟨[], rfl, .nil⟩
      | cons p pattern =>
          by_cases same : p = c
          · subst same
            rw [places_here]
            -- Taking the first place leaves all that any embedding takes for the other characters.
            rcases embeds_cons p p pattern text other embeds with
              ⟨-, rest, rfl, behind⟩ | ⟨first, rest, rfl, -, behind⟩
            all_goals
              obtain ⟨found, read, least⟩ := ih pattern rest behind
              refine ⟨0 :: found.map (· + 1), by rw [read]; rfl, .cons (Nat.zero_le _) ?_⟩
              exact shifted found rest least
          · rw [places_later p c pattern text same]
            rcases embeds_cons p c pattern text other embeds with
              ⟨here, -⟩ | ⟨first, rest, rfl, later, -⟩
            · exact absurd here same
            · obtain ⟨found, read, least⟩ := ih (p :: pattern) (first :: rest) later
              exact ⟨found.map (· + 1), by rw [read]; rfl, shifted found (first :: rest) least⟩

theorem embeds_inside (pattern text : List Char) (found : List Nat)
    (embeds : Embeds pattern text found) : ∀ place ∈ found, place < text.length := by
  intro place member
  obtain ⟨i, inside, rfl⟩ := List.getElem_of_mem member
  have letters := List.forall₂_iff_get.mp embeds.letters
  obtain ⟨here, -⟩ := List.getElem?_eq_some_iff.mp (letters.2 i inside (letters.1 ▸ inside))
  exact here

theorem found_nonempty (pattern text : List Char) (found : List Nat)
    (embeds : Embeds pattern text found) (some : pattern ≠ []) : found ≠ [] := by
  rintro rfl
  cases embeds.letters
  exact some rfl

theorem found_shorter (pattern text : List Char) (found : List Nat)
    (read : places pattern text = some found) (different : pattern ≠ text) :
    found.length < text.length := by
  have within : pattern.Sublist text := (places_some_iff pattern text).mp (by rw [read]; rfl)
  rw [(places_embed pattern text found read).letters.length_eq]
  exact Nat.lt_of_le_of_ne within.length_le fun same => different (within.eq_of_length same)

theorem places_append (pattern text more : List Char) (found : List Nat)
    (read : places pattern text = some found) : places pattern (text ++ more) = some found := by
  induction text generalizing pattern found with
  | nil =>
      cases pattern with
      | nil => cases read; exact places_nil _
      | cons p pattern => cases read
  | cons c text ih =>
      cases pattern with
      | nil => cases read; exact places_nil _
      | cons p pattern =>
          by_cases same : p = c
          · subst same
            rw [places_here, Option.map_eq_some_iff] at read
            obtain ⟨rest, read, rfl⟩ := read
            rw [List.cons_append, places_here, ih pattern rest read]
            rfl
          · rw [places_later p c pattern text same, Option.map_eq_some_iff] at read
            obtain ⟨rest, read, rfl⟩ := read
            rw [List.cons_append, places_later p c pattern _ same, ih (p :: pattern) rest read]
            rfl

-- The length of the longest block of places side by side. Where there are no places there is none.
structure IsLongestBlock (places : List Nat) (length : Nat) : Prop where
  bound : ∀ first size, List.range' first size <:+: places → size ≤ length
  attained : places ≠ [] → ∃ first, List.range' first length <:+: places

theorem leading_run_front (first : Nat) (rest : List Nat) :
    List.range' first (leadingRun (first :: rest)) <+: first :: rest := by
  induction rest generalizing first with
  | nil => exact List.prefix_rfl
  | cons next rest ih =>
      by_cases joined : next = first + 1
      · rw [leadingRun, if_pos joined, List.range'_succ, List.prefix_cons_inj]
        exact joined ▸ ih next
      · rw [leadingRun, if_neg joined]
        exact ⟨next :: rest, rfl⟩

theorem leading_run_greatest (first start size : Nat) (rest : List Nat)
    (block : List.range' start size <+: first :: rest) : size ≤ leadingRun (first :: rest) := by
  induction rest generalizing first start size with
  | nil => simpa [leadingRun] using block.length_le
  | cons next rest ih =>
      match size with
      | 0 => exact Nat.zero_le _
      | 1 =>
          rw [leadingRun]
          split <;> omega
      | size + 2 =>
          rw [List.range'_succ, List.cons_prefix_cons] at block
          obtain ⟨rfl, block⟩ := block
          have joined := (List.cons_prefix_cons.mp (List.range'_succ ▸ block)).1
          rw [leadingRun, if_pos joined.symm]
          exact Nat.succ_le_succ (ih next (start + 1) (size + 1) block)

theorem longest_run_block (places : List Nat) : IsLongestBlock places (longestRun places) := by
  induction places with
  | nil =>
      refine ⟨fun first size block => ?_, fun some => absurd rfl some⟩
      have none := block.length_le
      simp only [List.length_range', List.length_nil] at none
      omega
  | cons place rest ih =>
      rw [longestRun]
      refine ⟨fun first size block => ?_, fun _ => ?_⟩
      · rcases List.infix_cons_iff.mp block with front | behind
        · exact Nat.le_trans (leading_run_greatest place first size rest front) (Nat.le_max_left _ _)
        · exact Nat.le_trans (ih.bound first size behind) (Nat.le_max_right _ _)
      · by_cases longer : longestRun rest ≤ leadingRun (place :: rest)
        · rw [Nat.max_eq_left longer]
          exact ⟨place, (leading_run_front place rest).isInfix⟩
        · have nonempty : rest ≠ [] := by
            rintro rfl
            exact longer (Nat.le_refl 1)
          obtain ⟨first, block⟩ := ih.attained nonempty
          rw [Nat.max_eq_right (Nat.le_of_not_le longer)]
          exact ⟨first, block.trans (List.suffix_cons place rest).isInfix⟩

theorem longest_run_pos (places : List Nat) : 1 ≤ longestRun places := by
  cases places with
  | nil => exact Nat.le_refl 1
  | cons place rest =>
      exact (longest_run_block (place :: rest)).bound place 1 ⟨[], rest, rfl⟩

theorem longest_run_le (places : List Nat) (some : places ≠ []) :
    longestRun places ≤ places.length := by
  obtain ⟨first, block⟩ := (longest_run_block places).attained some
  simpa using block.length_le

end TaskSearch.Fuzzy
