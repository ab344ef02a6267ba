import Mathlib.Order.Bounds.Defs
import TaskSearch.Text.Lower

set_option autoImplicit false

namespace TaskSearch.Text

inductive Edit : List Char → List Char → Prop where
  | delete (before after : List Char) (c : Char) : Edit (before ++ c :: after) (before ++ after)
  | insert (before after : List Char) (c : Char) : Edit (before ++ after) (before ++ c :: after)
  | replace (before after : List Char) (c d : Char) :
      Edit (before ++ c :: after) (before ++ d :: after)

inductive Edits : Nat → List Char → List Char → Prop where
  | none (text : List Char) : Edits 0 text text
  | more (count : Nat) (source next target : List Char) (edit : Edit source next)
      (edits : Edits count next target) : Edits (count + 1) source target

theorem distance_row_cons (source target : List Char) (y : Char) :
    distanceRow source (y :: target) =
      editDistance source (y :: target) :: distanceRow source target := by
  induction source with
  | nil => rfl
  | cons c source ih =>
      have opened : distanceRow (c :: source) (y :: target) =
          extendRow c (y :: target) (distanceRow source (y :: target)) := rfl
      rw [editDistance, opened, ih]
      rfl

section

variable (source target : List Char) (c y : Char)

theorem distance_of_nil : editDistance [] target = target.length := by
  cases target <;> rfl

theorem distance_to_nil : editDistance source [] = source.length := by
  induction source with
  | nil => rfl
  | cons c source ih => exact congrArg (· + 1) ih

theorem distance_cons : editDistance (c :: source) (y :: target) =
    if c = y then editDistance source target
    else 1 + min (editDistance source (y :: target))
      (min (editDistance (c :: source) target) (editDistance source target)) := by
  have opened : editDistance (c :: source) (y :: target) =
      (extendRow c (y :: target) (distanceRow source (y :: target))).headD 0 := rfl
  rw [opened, distance_row_cons]
  rfl

theorem distance_cons_le :
    editDistance (c :: source) (y :: target) ≤ editDistance source target + 1 := by
  rw [distance_cons]
  split <;> omega

end

theorem distance_self (text : List Char) : editDistance text text = 0 := by
  induction text with
  | nil => rfl
  | cons c text ih => rw [distance_cons, if_pos rfl, ih]

theorem Edit.behind (c : Char) (source target : List Char) (edit : Edit source target) :
    Edit (c :: source) (c :: target) := by
  cases edit with
  | delete before after d => exact .delete (c :: before) after d
  | insert before after d => exact .insert (c :: before) after d
  | replace before after d e => exact .replace (c :: before) after d e

theorem Edits.behind (c : Char) (count : Nat) (source target : List Char)
    (edits : Edits count source target) : Edits count (c :: source) (c :: target) := by
  induction edits with
  | none text => exact .none _
  | more count source next target edit _ ih => exact .more _ _ _ _ (edit.behind c) ih

theorem edits_attained (source target : List Char) :
    Edits (editDistance source target) source target := by
  induction source generalizing target with
  | nil =>
      rw [distance_of_nil]
      induction target with
      | nil => exact .none []
      | cons y target ih => exact .more _ _ _ _ (.insert [] [] y) (ih.behind y)
  | cons c source ih =>
      induction target with
      | nil =>
          have shorter := ih []
          rw [distance_to_nil] at shorter ⊢
          exact .more _ _ _ _ (.delete [] source c) shorter
      | cons y target shorter =>
          rw [distance_cons]
          split
          · rename_i same
            rw [same]
            exact (ih target).behind y
          · have deleted := Edits.more _ _ _ _ (.delete [] source c) (ih (y :: target))
            have inserted := Edits.more _ _ _ _ (.insert [] (c :: source) y) (shorter.behind y)
            have replaced := Edits.more _ _ _ _ (.replace [] source c y) ((ih target).behind y)
            have least (a b c : Nat) : 1 + min a (min b c) = a + 1 ∨ 1 + min a (min b c) = b + 1 ∨
                1 + min a (min b c) = c + 1 := by omega
            rcases least (editDistance source (y :: target)) (editDistance (c :: source) target)
                (editDistance source target) with same | same | same
            · rwa [same]
            · rwa [same]
            · rwa [same]

def Near (m n : Nat) : Prop :=
  m ≤ n + 1 ∧ n ≤ m + 1

theorem square_near (source target : List Char) (c y : Char)
    (right : Near (editDistance source (y :: target)) (editDistance source target))
    (down : Near (editDistance (c :: source) target) (editDistance source target)) :
    Near (editDistance (c :: source) (y :: target)) (editDistance source (y :: target)) ∧
      Near (editDistance (c :: source) (y :: target)) (editDistance (c :: source) target) := by
  unfold Near at *
  rw [distance_cons]
  split <;> omega

theorem shorter_source_near (source : List Char) (c : Char)
    (right : ∀ target y,
      Near (editDistance source (y :: target)) (editDistance source target)) (target : List Char) :
    Near (editDistance (c :: source) target) (editDistance source target) := by
  induction target with
  | nil =>
      rw [distance_to_nil, distance_to_nil, List.length_cons]
      exact ⟨Nat.le_refl _, by omega⟩
  | cons y target ih => exact (square_near source target c y (right target y) ih).1

theorem shorter_target_near (source target : List Char) (y : Char) :
    Near (editDistance source (y :: target)) (editDistance source target) := by
  induction source generalizing target y with
  | nil =>
      rw [distance_of_nil, distance_of_nil, List.length_cons]
      exact ⟨Nat.le_refl _, by omega⟩
  | cons c source ih =>
      exact (square_near source target c y (ih target y)
        (shorter_source_near source c ih target)).2

theorem first_character_near (source target : List Char) (c : Char) :
    Near (editDistance (c :: source) target) (editDistance source target) :=
  shorter_source_near source c (shorter_target_near source) target

theorem replaced_le (source target : List Char) (c d : Char) :
    editDistance (c :: source) target ≤ editDistance (d :: source) target + 1 := by
  induction target with
  | nil => simp [distance_to_nil]
  | cons y target ih =>
      have deleted := (first_character_near source (y :: target) c).1
      have inserted := (shorter_target_near (c :: source) target y).1
      have replaced := distance_cons_le source target c y
      rw [distance_cons source target d y]
      split <;> omega

theorem behind_le (source next : List Char) (c : Char)
    (step : ∀ target, editDistance source target ≤ editDistance next target + 1)
    (target : List Char) :
    editDistance (c :: source) target ≤ editDistance (c :: next) target + 1 := by
  induction target with
  | nil =>
      have shorter := step []
      rw [distance_to_nil, distance_to_nil] at shorter ⊢
      simp only [List.length_cons]
      omega
  | cons y target ih =>
      have across := step (y :: target)
      have both := step target
      rw [distance_cons, distance_cons]
      split <;> omega

theorem edit_le (source next target : List Char) (edit : Edit source next) :
    editDistance source target ≤ editDistance next target + 1 := by
  have behind (before source next : List Char)
      (step : ∀ target, editDistance source target ≤ editDistance next target + 1)
      (target : List Char) :
      editDistance (before ++ source) target ≤ editDistance (before ++ next) target + 1 := by
    induction before generalizing target with
    | nil => exact step target
    | cons c before ih => exact behind_le _ _ c ih target
  cases edit with
  | delete before after c =>
      exact behind before _ _ (fun target => (first_character_near after target c).1) target
  | insert before after c =>
      exact behind before _ _ (fun target => (first_character_near after target c).2) target
  | replace before after c d =>
      exact behind before _ _ (fun target => replaced_le after target c d) target

theorem edits_ge (count : Nat) (source target : List Char) (edits : Edits count source target) :
    editDistance source target ≤ count := by
  induction edits with
  | none text => exact Nat.le_of_eq (distance_self text)
  | more count source next target edit _ ih =>
      have step := edit_le source next target edit
      omega

theorem edit_distance_least (source target : List Char) :
    IsLeast {count | Edits count source target} (editDistance source target) :=
  ⟨edits_attained source target, fun count edits => edits_ge count source target edits⟩

theorem distance_pos (source target : List Char) (different : source ≠ target) :
    0 < editDistance source target := by
  rw [Nat.pos_iff_ne_zero]
  intro zero
  have edits := edits_attained source target
  rw [zero] at edits
  cases edits
  exact different rfl

end TaskSearch.Text
