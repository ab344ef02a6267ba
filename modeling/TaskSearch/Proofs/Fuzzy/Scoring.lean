import TaskSearch.Fuzzy.Score
import TaskSearch.Proofs.Fuzzy.Embedding

set_option autoImplicit false

namespace TaskSearch.Fuzzy

-- Subtraction that fails where it would go below zero.
def minus? (a b : Nat) : Option Nat :=
  if b ≤ a then some (a - b) else none

def follows? (p : Char → Bool) (text : List Char) (place : Nat) : Option Bool :=
  if place = 0 then some true else do
    let before ← minus? place 1
    let c ← text[before]?
    return p c

def countFollowing? (p : Char → Bool) (text : List Char) (places : List Nat) : Option Nat :=
  return (← places.mapM (follows? p text)).count true

theorem follows_checked (p : Char → Bool) (text : List Char) (place : Nat)
    (inside : place < text.length) : follows? p text place = some (follows p text place) := by
  by_cases first : place = 0
  · simp [follows?, follows, first]
  · have positive : 1 ≤ place := by omega
    have before : place - 1 < text.length := by omega
    simp [follows?, follows, minus?, first, positive, before]

theorem count_following_checked (p : Char → Bool) (text : List Char) (places : List Nat)
    (inside : ∀ place ∈ places, place < text.length) :
    countFollowing? p text places = some (places.filter (follows p text)).length := by
  have read : places.mapM (follows? p text) = some (places.map (follows p text)) := by
    induction places with
    | nil => rfl
    | cons place rest ih =>
        have here := follows_checked p text place (inside place List.mem_cons_self)
        have behind := ih fun other member => inside other (List.mem_cons_of_mem _ member)
        rw [List.mapM_cons, here, behind]
        rfl
  have counted : (places.map (follows p text)).count true =
      (places.filter (follows p text)).length := by
    rw [List.count, List.countP_map, List.countP_eq_length_filter]
    simp [Function.comp_def]
  rw [countFollowing?, read, ← counted]
  rfl

section

variable {α : Type} [ScoreNumber α] [DecidableLE α]

open ScoreNumber (ofNat)

def rawScore? (places : List Nat) (text : List Char) : Option α := do
  let pattern := places.length
  let length := text.length
  let run := longestRun places
  let begins := (← places[0]?) == 0
  let mean : α := ofNat (places.foldr (· + ·) 0) / ofNat pattern
  let scattered ← minus? pattern run
  let wordBeginnings ← countFollowing? (!Text.isAlphanumeric ·) text places
  let separated ← countFollowing? isWordSeparator text places
  let unmatched ← minus? length pattern
  return 50.0
    + coveragePoints pattern length
    + (if begins then 12.0 else 0.0)
    + runPoints pattern run
    - 4.0 * ofNat scattered
    - (if run = 1 then 10.0 else 0.0)
    + 10.0 * (1.0 - mean / ofNat length)
    + (if pattern < wordBeginnings * 2 then 10.0 else 0.0)
    + (if (0.3 : α) * ofNat pattern ≤ ofNat separated then 8.0 else 0.0)
    + (if begins && run == pattern then beginningPoints pattern length else 0.0)
    - ofNat unmatched * lengthRate pattern

theorem raw_score_checked (places : List Nat) (text : List Char) (nonempty : places ≠ [])
    (shorter : places.length < text.length) (inside : ∀ place ∈ places, place < text.length) :
    rawScore? places text = some (rawScore places text : α) := by
  have words := count_following_checked (!Text.isAlphanumeric ·) text places inside
  have separated := count_following_checked isWordSeparator text places inside
  have run := longest_run_le places nonempty
  cases places with
  | nil => exact absurd rfl nonempty
  | cons first rest =>
      rw [rawScore?, words, separated, minus?, minus?, if_pos run, if_pos (Nat.le_of_lt shorter)]
      rfl

theorem score_of_no_embedding (pattern text : List Char) (different : pattern ≠ text)
    (apart : ¬ pattern.Sublist text) : scoreIn α pattern text = 0 := by
  have unfound : places pattern text = none := by
    rw [← Option.not_isSome_iff_eq_none, places_some_iff]
    exact apart
  rw [scoreIn, if_neg different, unfound]
  exact ite_self 0

end

theorem places_are_leftmost (α : Type) [ScoreNumber α] [DecidableLE α] (pattern text : List Char) :
    ((places pattern text).isSome = true ↔ pattern.Sublist text) ∧
    (∀ found, places pattern text = some found →
      Embeds pattern text found ∧ (∀ place ∈ found, place < text.length) ∧
      (∀ other, Embeds pattern text other → List.Forall₂ (· ≤ ·) found other) ∧
      IsLongestBlock found (longestRun found) ∧
      (pattern ≠ [] → 1 ≤ longestRun found ∧ longestRun found ≤ pattern.length) ∧
      (pattern ≠ [] → pattern ≠ text → found ≠ [] ∧ found.length < text.length ∧
        rawScore? found text = some (rawScore found text : α))) ∧
    ∀ p t : String, Text.lowerChars p.toList ≠ Text.lowerChars t.toList →
      ¬ (Text.lowerChars p.toList).Sublist (Text.lowerChars t.toList) → score p t = 0 := by
  refine ⟨places_some_iff pattern text, fun found read => ?_, fun p t different apart =>
    score_of_no_embedding _ _ different apart⟩
  have embeds := places_embed pattern text found read
  have inside := embeds_inside pattern text found embeds
  refine ⟨embeds, inside, fun other embedsOther => ?_, longest_run_block found, fun some => ?_,
    fun some different => ?_⟩
  · obtain ⟨least, again, below⟩ := places_least pattern text other embedsOther
    obtain rfl : found = least := Option.some.inj (read.symm.trans again)
    exact below
  · have nonempty := found_nonempty pattern text found embeds some
    rw [← embeds.letters.length_eq]
    exact ⟨longest_run_pos found, longest_run_le found nonempty⟩
  · have nonempty := found_nonempty pattern text found embeds some
    have shorter := found_shorter pattern text found read different
    exact ⟨nonempty, shorter, raw_score_checked found text nonempty shorter inside⟩

theorem banana_leftmost :
    places ['a', 'n', 'a'] ['b', 'a', 'n', 'a', 'n', 'a'] = some [1, 2, 3] ∧
    Embeds ['a', 'n', 'a'] ['b', 'a', 'n', 'a', 'n', 'a'] [1, 4, 5] ∧
    List.Forall₂ (· ≤ ·) [1, 2, 3] [1, 4, 5] ∧
    ['a', 'n', 'a'] ≠ [] ∧ ['a', 'n', 'a'] ≠ ['b', 'a', 'n', 'a', 'n', 'a'] ∧
    longestRun [1, 2, 3] ≤ 3 ∧
    rawScore? [1, 2, 3] ['b', 'a', 'n', 'a', 'n', 'a'] =
      some (rawScore [1, 2, 3] ['b', 'a', 'n', 'a', 'n', 'a'] : Rat) ∧
    Text.lowerChars "Nab".toList ≠ Text.lowerChars "Banana".toList ∧
    ¬ (Text.lowerChars "Nab".toList).Sublist (Text.lowerChars "Banana".toList) ∧
    score "Nab" "Banana" = 0 := by
  have found : places ['a', 'n', 'a'] ['b', 'a', 'n', 'a', 'n', 'a'] = some [1, 2, 3] := by decide
  have embeds : Embeds ['a', 'n', 'a'] ['b', 'a', 'n', 'a', 'n', 'a'] [1, 4, 5] :=
    ⟨by decide, by simp⟩
  have small : Text.lowerChars "Nab".toList = ['n', 'a', 'b'] := by decide
  have smallText : Text.lowerChars "Banana".toList = ['b', 'a', 'n', 'a', 'n', 'a'] := by decide
  have different : Text.lowerChars "Nab".toList ≠ Text.lowerChars "Banana".toList := by
    rw [small, smallText]
    decide
  have apart : ¬ (Text.lowerChars "Nab".toList).Sublist (Text.lowerChars "Banana".toList) := by
    rw [small, smallText]
    decide
  obtain ⟨-, all, zero⟩ :=
    places_are_leftmost Rat ['a', 'n', 'a'] ['b', 'a', 'n', 'a', 'n', 'a']
  obtain ⟨-, -, least, -, run, safe⟩ := all [1, 2, 3] found
  exact ⟨found, embeds, least _ embeds, by decide, by decide, (run (by decide)).2,
    (safe (by decide) (by decide)).2.2, different, apart, zero _ _ different apart⟩

end TaskSearch.Fuzzy
