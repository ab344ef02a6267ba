import Mathlib.Data.List.Basic
import Mathlib.Data.List.Induction
import TaskSearch.Date.Condition
import TaskSearch.Proofs.Calendar.Reading

set_option autoImplicit false

namespace TaskSearch.Date

open Calendar

structure Strict (stricter : Instant → Instant → Bool) : Prop where
  asymm : ∀ a b, stricter a b = true → ¬ stricter b a = true
  trans : ∀ a b c, stricter a b = true → stricter b c = true → stricter a c = true
  total : ∀ a b, a = b ∨ stricter a b = true ∨ stricter b a = true

theorem instant_le_iff (a b : Instant) : a.le b = true ↔ a.lt b = true ∨ a = b := by
  obtain ⟨s, n⟩ := a
  obtain ⟨t, m⟩ := b
  simp only [Instant.lt_iff, Instant.le_iff, Instant.mk.injEq]
  omega

theorem earlier_strict : Strict Instant.lt where
  asymm a b := by
    simp only [Instant.lt_iff, Instant.le_iff]
    omega
  trans a b c := by
    simp only [Instant.lt_iff, Instant.le_iff]
    omega
  total a b := by
    obtain ⟨s, n⟩ := a
    obtain ⟨t, m⟩ := b
    simp only [Instant.lt_iff, Instant.le_iff, Instant.mk.injEq]
    omega

theorem later_strict : Strict fun a b => b.lt a where
  asymm a b := earlier_strict.asymm b a
  trans a b c first second := earlier_strict.trans c b a second first
  total a b := (earlier_strict.total a b).imp_right Or.symm

def Bound.Tight (stricter : Instant → Instant → Bool) (a b : Bound) : Prop :=
  stricter a.time.instant b.time.instant = true ∨
    a.time.instant = b.time.instant ∧ (b.exclusive = true → a.exclusive = true)

def Bound.Shown (zone : Zone) (bound : Bound) : Prop :=
  zone.Shows bound.time

def Bound.Admits (stricter : Instant → Instant → Bool) (bound : Bound) (instant : Instant) : Prop :=
  stricter instant bound.time.instant = true ∨
    bound.exclusive = false ∧ instant = bound.time.instant

def Bound.tighter (stricter : Instant → Instant → Bool) (a b : Bound) : Bound :=
  if a.time.instant = b.time.instant then ⟨a.time, a.exclusive || b.exclusive⟩
  else if stricter a.time.instant b.time.instant then a
  else b

def Bound.tightest (stricter : Instant → Instant → Bool) :
    Option Bound → Option Bound → Option Bound
  | some a, some b => some (a.tighter stricter b)
  | some a, none => some a
  | none, b => b

def Tightest (stricter : Instant → Instant → Bool) (bounds : List Bound) : Option Bound → Prop
  | none => bounds = []
  | some bound => bound ∈ bounds ∧ ∀ other ∈ bounds, bound.Tight stricter other

namespace Bound

section

variable {stricter : Instant → Instant → Bool} (strict : Strict stricter)

theorem tight_refl (a : Bound) : a.Tight stricter a :=
  .inr ⟨rfl, id⟩

include strict

theorem tight_trans (a b c : Bound) (first : a.Tight stricter b) (second : b.Tight stricter c) :
    a.Tight stricter c := by
  rcases first with before | ⟨same, flag⟩
  · rcases second with beforeToo | ⟨same, _⟩
    · exact .inl (strict.trans _ _ _ before beforeToo)
    · exact .inl (same ▸ before)
  · rcases second with before | ⟨sameToo, flagToo⟩
    · exact .inl (same ▸ before)
    · exact .inr ⟨same.trans sameToo, flag ∘ flagToo⟩

theorem tight_antisymm (zone : Zone) (a b : Bound) (shown : a.Shown zone) (shownToo : b.Shown zone)
    (first : a.Tight stricter b) (second : b.Tight stricter a) : a = b := by
  rcases first with before | ⟨same, flag⟩
  · rcases second with after | ⟨same, _⟩
    · exact absurd after (strict.asymm _ _ before)
    · rw [same] at before
      exact absurd before (strict.asymm _ _ before)
  · rcases second with after | ⟨_, flagToo⟩
    · rw [same] at after
      exact absurd after (strict.asymm _ _ after)
    · have time : a.time = b.time := by
        rw [show a.time = _ from shown, show b.time = _ from shownToo, same]
      have exclusive : a.exclusive = b.exclusive := Bool.eq_iff_iff.mpr ⟨flagToo, flag⟩
      exact congrArg₂ Bound.mk time exclusive

theorem tighter_tight (zone : Zone) (a b : Bound) (shown : a.Shown zone) (shownToo : b.Shown zone) :
    (a.tighter stricter b = a ∨ a.tighter stricter b = b) ∧
      (a.tighter stricter b).Tight stricter a ∧ (a.tighter stricter b).Tight stricter b := by
  unfold tighter
  by_cases same : a.time.instant = b.time.instant
  · rw [if_pos same]
    have time : a.time = b.time := by
      rw [show a.time = _ from shown, show b.time = _ from shownToo, same]
    cases flag : a.exclusive with
    | true =>
        have kept : Bound.mk a.time (true || b.exclusive) = a :=
          congrArg (Bound.mk a.time) flag.symm
        rw [kept]
        exact ⟨.inl rfl, tight_refl a, .inr ⟨same, fun _ => flag⟩⟩
    | false =>
        have kept : Bound.mk a.time (false || b.exclusive) = b :=
          congrArg₂ Bound.mk time (Bool.false_or _)
        rw [kept]
        exact ⟨.inr rfl, .inr ⟨same.symm, fun set => absurd (flag.symm.trans set) (by simp)⟩,
          tight_refl b⟩
  · rw [if_neg same]
    by_cases before : stricter a.time.instant b.time.instant = true
    · rw [if_pos before]
      exact ⟨.inl rfl, tight_refl a, .inl before⟩
    · rw [if_neg before]
      have after := ((strict.total _ _).resolve_left same).resolve_left before
      exact ⟨.inr rfl, .inl after, tight_refl b⟩

theorem tight_admits (a b : Bound) (instant : Instant) (tight : a.Tight stricter b)
    (admits : a.Admits stricter instant) : b.Admits stricter instant := by
  rcases tight with before | ⟨same, flag⟩
  · rcases admits with inside | ⟨_, at_⟩
    · exact .inl (strict.trans _ _ _ inside before)
    · exact .inl (at_ ▸ before)
  · rcases admits with inside | ⟨inclusive, at_⟩
    · exact .inl (same ▸ inside)
    · refine .inr ⟨?_, at_.trans same⟩
      rw [Bool.eq_false_iff] at inclusive ⊢
      exact inclusive ∘ flag

end

theorem admits_after_iff (start : Timestamp) (exclusive : Bool) (instant : Instant) :
    (if exclusive then start.instant.lt instant else start.instant.le instant) = true ↔
      (mk start exclusive).Admits (fun x y => y.lt x) instant := by
  unfold Admits
  cases exclusive with
  | true => simp
  | false =>
      rw [if_neg Bool.false_ne_true, instant_le_iff, eq_comm (a := instant)]
      simp

theorem admits_before_iff (stop : Timestamp) (exclusive : Bool) (instant : Instant) :
    (if exclusive then instant.lt stop.instant else instant.le stop.instant) = true ↔
      (mk stop exclusive).Admits Instant.lt instant := by
  unfold Admits
  cases exclusive with
  | true => simp
  | false =>
      rw [if_neg Bool.false_ne_true, instant_le_iff]
      simp

end Bound

section

variable {stricter : Instant → Instant → Bool} (strict : Strict stricter) (zone : Zone)

include strict

theorem tightest_next (bounds : List Bound) (best next : Option Bound)
    (shown : ∀ bound ∈ bounds ++ next.toList, bound.Shown zone)
    (tightest : Tightest stricter bounds best) :
    Tightest stricter (bounds ++ next.toList) (Bound.tightest stricter best next) := by
  cases best with
  | none =>
      rw [show bounds = [] from tightest]
      cases next with
      | none => rfl
      | some b => exact ⟨List.mem_singleton_self b, by simpa using b.tight_refl⟩
  | some a =>
      obtain ⟨member, least⟩ := tightest
      cases next with
      | none =>
          rw [Option.toList_none, List.append_nil]
          exact ⟨member, least⟩
      | some b =>
          obtain ⟨one, first, second⟩ := Bound.tighter_tight strict zone a b
            (shown a (List.mem_append_left _ member)) (shown b (by simp))
          refine ⟨?_, fun other among => ?_⟩
          · rcases one with same | same
            · rw [same]
              exact List.mem_append_left _ member
            · rw [same]
              simp
          · rcases List.mem_append.mp among with early | last
            · exact Bound.tight_trans strict _ a other first (least other early)
            · rwa [List.mem_singleton.mp last]

theorem tightest_unique (bounds others : List Bound) (a b : Option Bound)
    (shown : ∀ bound ∈ bounds, bound.Shown zone) (same : ∀ bound, bound ∈ bounds ↔ bound ∈ others)
    (first : Tightest stricter bounds a) (second : Tightest stricter others b) : a = b := by
  cases a with
  | none =>
      cases b with
      | none => rfl
      | some b =>
          have member := (same b).mpr second.1
          rw [show bounds = [] from first] at member
          exact absurd member List.not_mem_nil
  | some a =>
      cases b with
      | none =>
          have member := (same a).mp first.1
          rw [show others = [] from second] at member
          exact absurd member List.not_mem_nil
      | some b =>
          have memberB := (same b).mpr second.1
          exact congrArg some (Bound.tight_antisymm strict zone a b (shown a first.1)
            (shown b memberB) (first.2 b memberB) (second.2 a ((same a).mp first.1)))

theorem tightest_admits (bounds : List Bound) (best : Option Bound) (instant : Instant)
    (tightest : Tightest stricter bounds best) :
    (∀ bound ∈ best, bound.Admits stricter instant) ↔
      ∀ bound ∈ bounds, bound.Admits stricter instant := by
  cases best with
  | none => simp [show bounds = [] from tightest]
  | some a =>
      constructor
      · intro admits other among
        exact Bound.tight_admits strict a other instant (tightest.2 other among) (admits a rfl)
      · rintro admits bound ⟨⟩
        exact admits a tightest.1

theorem side_tightest (side : DateRange → Option Bound)
    (meets : ∀ a b : DateRange,
      side (a.intersect b) = Bound.tightest stricter (side a) (side b))
    (first : DateRange) (rest : List DateRange)
    (shown : ∀ bound ∈ (first :: rest).filterMap side, bound.Shown zone) :
    Tightest stricter ((first :: rest).filterMap side)
      (side (rest.foldl DateRange.intersect first)) := by
  induction rest using List.reverseRecOn with
  | nil => cases given : side first <;> simp [Tightest, given, Bound.tight_refl]
  | append_singleton rest last ih =>
      have split : (first :: (rest ++ [last])).filterMap side =
          (first :: rest).filterMap side ++ (side last).toList := by
        rw [← List.cons_append, List.filterMap_append]
        cases given : side last <;> simp [given]
      rw [split] at shown ⊢
      rw [List.foldl_concat, meets]
      refine tightest_next strict zone _ _ _ shown (ih fun bound member => ?_)
      exact shown bound (List.mem_append_left _ member)

end

namespace DateRange

def Guarded (range : DateRange) : Prop :=
  (range.startExclusive = true → range.start.isSome = true) ∧
    (range.stopExclusive = true → range.stop.isSome = true)

structure WellFormed (zone : Zone) (range : DateRange) : Prop where
  lower : ∀ bound ∈ range.lower, bound.Shown zone
  upper : ∀ bound ∈ range.upper, bound.Shown zone
  guarded : range.Guarded

-- A range that asks on each side for the strictest bound of some ranges.
structure Meet (ranges : List DateRange) (met : DateRange) : Prop where
  lower : Tightest (fun a b => b.lt a) (ranges.filterMap lower) met.lower
  upper : Tightest Instant.lt (ranges.filterMap upper) met.upper
  guarded : met.Guarded

theorem of_times_guarded (exclusive : Bool) (start stop : Option Timestamp) :
    (ofTimes exclusive start stop).Guarded := by
  simp only [Guarded, ofTimes, Bool.and_eq_true]
  exact ⟨And.right, And.right⟩

theorem tighter_bound (stricter : Instant → Instant → Bool) (a b : Option Timestamp)
    (exclusive exclusiveToo : Bool) :
    (tighter stricter (a, exclusive) (b, exclusiveToo)).1.map
        (⟨·, (tighter stricter (a, exclusive) (b, exclusiveToo)).2⟩) =
      Bound.tightest stricter (a.map (⟨·, exclusive⟩)) (b.map (⟨·, exclusiveToo⟩)) := by
  cases a with
  | none => rfl
  | some a =>
      cases b with
      | none => rfl
      | some b =>
          simp only [tighter, Option.map_some, Bound.tightest, Bound.tighter]
          split
          · rfl
          · split <;> rfl

theorem intersect_lower (a b : DateRange) :
    (a.intersect b).lower = Bound.tightest (fun x y => y.lt x) a.lower b.lower :=
  tighter_bound _ a.start b.start a.startExclusive b.startExclusive

theorem intersect_upper (a b : DateRange) :
    (a.intersect b).upper = Bound.tightest Instant.lt a.upper b.upper :=
  tighter_bound _ a.stop b.stop a.stopExclusive b.stopExclusive

section

variable (stricter : Instant → Instant → Bool) (a b : Option Timestamp × Bool)

theorem tighter_is_some :
    (tighter stricter a b).1.isSome = (a.1.isSome || b.1.isSome) := by
  obtain ⟨_ | a, _⟩ := a
  · rfl
  · obtain ⟨_ | b, _⟩ := b
    · rfl
    · simp only [tighter]
      split
      · rfl
      · split <;> rfl

theorem tighter_guarded (guarded : b.2 = true → b.1.isSome = true) :
    (tighter stricter a b).2 = true → (tighter stricter a b).1.isSome = true := by
  intro flag
  obtain ⟨_ | a, _⟩ := a
  · exact guarded flag
  · rw [tighter_is_some]
    rfl

theorem tighter_before_none (time : Timestamp) (exclusive : Bool) :
    tighter stricter (tighter stricter a (some time, exclusive)) (none, false) =
      tighter stricter a (some time, exclusive) := by
  have given : (tighter stricter a (some time, exclusive)).1.isSome = true := by
    simp [tighter_is_some]
  generalize tighter stricter a (some time, exclusive) = first at given
  obtain ⟨_ | start, _⟩ := first
  · cases given
  · rfl

theorem tighter_after_none (time : Timestamp) (exclusive : Bool) :
    tighter stricter (tighter stricter a (none, false)) (some time, exclusive) =
      tighter stricter a (some time, exclusive) := by
  obtain ⟨_ | here, flag⟩ := a <;> rfl

end

theorem intersect_guarded (a b : DateRange) (guarded : b.Guarded) : (a.intersect b).Guarded :=
  ⟨tighter_guarded _ _ (b.start, b.startExclusive) guarded.1,
    tighter_guarded _ _ (b.stop, b.stopExclusive) guarded.2⟩

theorem fold_guarded (first : DateRange) (rest : List DateRange)
    (guarded : ∀ range ∈ first :: rest, range.Guarded) :
    (rest.foldl intersect first).Guarded := by
  cases rest using List.reverseRecOn with
  | nil => exact guarded first List.mem_cons_self
  | append_singleton rest last =>
      rw [List.foldl_concat]
      exact intersect_guarded _ last (guarded last (by simp))

theorem side_unique (a b : Option Timestamp) (exclusive exclusiveToo : Bool)
    (guarded : exclusive = true → a.isSome = true)
    (guardedToo : exclusiveToo = true → b.isSome = true)
    (same : a.map (Bound.mk · exclusive) = b.map (Bound.mk · exclusiveToo)) :
    a = b ∧ exclusive = exclusiveToo := by
  cases a <;> cases b <;> simp_all

theorem bounds_unique (a b : DateRange) (guarded : a.Guarded) (guardedToo : b.Guarded)
    (lower : a.lower = b.lower) (upper : a.upper = b.upper) : a = b := by
  obtain ⟨start, startFlag⟩ := side_unique _ _ _ _ guarded.1 guardedToo.1 lower
  obtain ⟨stop, stopFlag⟩ := side_unique _ _ _ _ guarded.2 guardedToo.2 upper
  cases a
  cases b
  simp_all

theorem contains_iff (range : DateRange) (instant : Instant) :
    range.contains instant = true ↔
      (∀ bound ∈ range.lower, bound.Admits (fun a b => b.lt a) instant) ∧
        ∀ bound ∈ range.upper, bound.Admits Instant.lt instant := by
  simp only [contains, lower, upper, Bool.and_eq_true, Option.all_eq_true,
    Bound.admits_after_iff, Bound.admits_before_iff, Option.mem_def, Option.map_eq_some_iff,
    forall_exists_index, and_imp, forall_apply_eq_imp_iff₂]

theorem side_shown (zone : Zone) (side : DateRange → Option Bound) (ranges : List DateRange)
    (shown : ∀ range ∈ ranges, ∀ bound ∈ side range, bound.Shown zone) :
    ∀ bound ∈ ranges.filterMap side, bound.Shown zone := by
  intro bound member
  obtain ⟨range, among, given⟩ := List.mem_filterMap.mp member
  exact shown range among bound given

theorem intersect_meet (zone : Zone) (first : DateRange) (rest : List DateRange)
    (formed : ∀ range ∈ first :: rest, range.WellFormed zone) :
    Meet (first :: rest) (rest.foldl intersect first) where
  lower := side_tightest later_strict zone lower intersect_lower first rest
    (side_shown zone lower _ fun range member => (formed range member).lower)
  upper := side_tightest earlier_strict zone upper intersect_upper first rest
    (side_shown zone upper _ fun range member => (formed range member).upper)
  guarded := fold_guarded first rest fun range member => (formed range member).guarded

namespace Meet

variable {ranges : List DateRange} {met : DateRange} (meet : Meet ranges met)

include meet

theorem contains_iff (instant : Instant) :
    met.contains instant = true ↔ ∀ range ∈ ranges, range.contains instant = true := by
  simp only [DateRange.contains_iff, tightest_admits later_strict _ _ instant meet.lower,
    tightest_admits earlier_strict _ _ instant meet.upper, List.mem_filterMap]
  constructor
  · rintro ⟨after, before⟩ range member
    exact ⟨fun bound given => after bound ⟨range, member, given⟩,
      fun bound given => before bound ⟨range, member, given⟩⟩
  · intro inside
    exact ⟨fun bound ⟨range, member, given⟩ => (inside range member).1 bound given,
      fun bound ⟨range, member, given⟩ => (inside range member).2 bound given⟩

theorem lower_given (bound : Bound) (given : bound ∈ met.lower) :
    ∃ range ∈ ranges, range.lower = some bound := by
  have tightest := meet.lower
  rw [show met.lower = some bound from given] at tightest
  exact List.mem_filterMap.mp tightest.1

theorem upper_given (bound : Bound) (given : bound ∈ met.upper) :
    ∃ range ∈ ranges, range.upper = some bound := by
  have tightest := meet.upper
  rw [show met.upper = some bound from given] at tightest
  exact List.mem_filterMap.mp tightest.1

theorem unique (zone : Zone) (others : List DateRange) (other : DateRange)
    (formed : ∀ range ∈ ranges, range.WellFormed zone)
    (same : ∀ range, range ∈ ranges ↔ range ∈ others) (meetToo : Meet others other) :
    met = other := by
  have sameSide (side : DateRange → Option Bound) (bound : Bound) :
      bound ∈ ranges.filterMap side ↔ bound ∈ others.filterMap side := by
    simp only [List.mem_filterMap, same]
  have lower := tightest_unique later_strict zone _ _ _ _
    (side_shown zone DateRange.lower _ fun range member => (formed range member).lower) (sameSide _)
    meet.lower meetToo.lower
  have upper := tightest_unique earlier_strict zone _ _ _ _
    (side_shown zone DateRange.upper _ fun range member => (formed range member).upper) (sameSide _)
    meet.upper meetToo.upper
  exact bounds_unique _ _ meet.guarded meetToo.guarded lower upper

end Meet

end DateRange

namespace DateCondition

def narrowAll (conditions : List DateCondition) : DateCondition :=
  conditions.foldl narrow .any

theorem narrow_all_missing (before : List DateCondition) :
    narrowAll (before ++ [.missing]) = .missing := by
  rw [narrowAll, List.foldl_concat]
  cases before.foldl narrow .any <;> rfl

theorem narrow_all_any_iff (conditions : List DateCondition)
    (given : ∀ condition ∈ conditions, condition ≠ .any) :
    narrowAll conditions = .any ↔ conditions = [] := by
  cases conditions using List.reverseRecOn with
  | nil => exact iff_of_true rfl rfl
  | append_singleton before last =>
      refine iff_of_false ?_ (by simp)
      have asked := given last (by simp)
      rw [narrowAll, List.foldl_concat]
      cases last with
      | any => exact absurd rfl asked
      | missing => cases before.foldl narrow .any <;> simp [narrow]
      | range range => cases before.foldl narrow .any <;> simp [narrow]

theorem fold_narrow_ranges (first : DateRange) (rest : List DateRange) :
    (rest.map range).foldl narrow (.range first) =
      .range (rest.foldl DateRange.intersect first) := by
  induction rest generalizing first with
  | nil => rfl
  | cons next rest ih => exact ih (first.intersect next)

theorem narrow_all_ranges (before : List DateCondition) (first : DateRange) (rest : List DateRange)
    (restart : before = [] ∨ before.getLast? = some .missing) :
    narrowAll (before ++ (first :: rest).map range) =
      .range (rest.foldl DateRange.intersect first) := by
  have start : (before.foldl narrow .any).narrow (.range first) = .range first := by
    rcases restart with rfl | last
    · rfl
    · obtain ⟨early, rfl⟩ := List.getLast?_eq_some_iff.mp last
      rw [show (early ++ [missing]).foldl narrow .any = missing from narrow_all_missing early]
      rfl
  rw [narrowAll, List.foldl_append, List.map_cons, List.foldl_cons, start, fold_narrow_ranges]

end DateCondition

end TaskSearch.Date
