import Mathlib.Data.List.DropRight
import TaskSearch.Proofs.Conversion.Fields

set_option autoImplicit false

namespace TaskSearch

open Calendar (Instant)
open Date (Bound DateCondition DateRange)

namespace Converter

def alone (converter : Converter) (field : Field) (clause : Clause) : DateCondition :=
  (converter.convertClauses [clause] "").filter.dateOn field

-- The accepted clauses on a date behind the last request for no date.
def counting (converter : Converter) (field : Field) (clauses : List Clause) : List Clause :=
  (converter.acceptedOn field clauses).rtakeWhile (!Date.asksForNone ·.value)

def rangeOf (converter : Converter) (clause : Clause) : DateRange :=
  match converter.dateOf clause with
  | .range range => range
  | _ => {}

theorem accepted_requested (converter : Converter) (clause : Clause)
    (accepted : converter.accepts clause = true) (dated : clause.field.isDated = true) :
    Date.Requested converter.clock.zone clause.value (converter.dateOf clause) := by
  obtain ⟨edit, writes, _⟩ := converter.writes_of_accepted clause accepted
  cases writes with
  | date _ read => exact Date.condition_requested _ _ _ _ read
  | status word on | priority word on | project id on | includeTag on | excludeTag on =>
      rw [on] at dated
      cases dated

section

variable (converter : Converter) (field : Field) (dated : field.isDated = true)

theorem mem_accepted_on (clauses : List Clause) (clause : Clause) :
    clause ∈ converter.acceptedOn field clauses ↔
      clause ∈ clauses ∧ converter.accepts clause = true ∧ clause.field = field := by
  simp [acceptedOn]

include dated

theorem date_means (clauses : List Clause) (search : String) :
    (converter.convertClauses clauses search).filter.dateOn field =
      DateCondition.narrowAll ((converter.acceptedOn field clauses).map converter.dateOf) := by
  rw [filter_means]
  cases field with
  | due | created | updated => rfl
  | status | priority | project | tag => cases dated

theorem given_requested (clauses : List Clause) (clause : Clause)
    (given : clause ∈ converter.acceptedOn field clauses) :
    Date.Requested converter.clock.zone clause.value (converter.dateOf clause) := by
  obtain ⟨_, accepted, on⟩ := (converter.mem_accepted_on field clauses clause).mp given
  exact converter.accepted_requested clause accepted (on ▸ dated)

theorem alone_means (clauses : List Clause) (clause : Clause)
    (given : clause ∈ converter.acceptedOn field clauses) :
    converter.alone field clause = converter.dateOf clause := by
  obtain ⟨_, accepted, on⟩ := (converter.mem_accepted_on field clauses clause).mp given
  rw [alone, date_means converter field dated, acceptedOn, List.filter_cons_of_pos (by simp [*])]
  rfl

theorem range_of_counting (clauses : List Clause) (clause : Clause)
    (counts : clause ∈ converter.counting field clauses) :
    converter.dateOf clause = .range (converter.rangeOf clause) ∧
      (converter.rangeOf clause).WellFormed converter.clock.zone := by
  have given := (List.rtakeWhile_suffix _ _).subset counts
  have requested := converter.given_requested field dated clauses clause given
  have some := List.mem_rtakeWhile_imp counts
  unfold rangeOf
  cases asked : converter.dateOf clause with
  | any =>
      rw [asked] at requested
      cases requested
  | missing =>
      rw [asked] at requested
      cases requested with
      | missing none => simp [none] at some
  | range range =>
      rw [asked] at requested
      cases requested with
      | range _ _ formed => exact ⟨rfl, formed⟩

theorem missing_of_none (clauses : List Clause) (clause : Clause)
    (given : clause ∈ converter.acceptedOn field clauses)
    (none : Date.asksForNone clause.value = true) : converter.dateOf clause = .missing := by
  have requested := converter.given_requested field dated clauses clause given
  generalize converter.dateOf clause = condition at requested
  cases requested with
  | missing => rfl
  | range _ some => simp [some] at none

theorem counting_restarts (clauses : List Clause) :
    let before := (converter.acceptedOn field clauses).rdropWhile (!Date.asksForNone ·.value)
    before.map converter.dateOf = [] ∨ (before.map converter.dateOf).getLast? = some .missing := by
  intro before
  by_cases empty : before = []
  · exact .inl (by rw [empty, List.map_nil])
  · have none := List.rdropWhile_last_not _ _ empty
    have given := (List.rdropWhile_prefix _ _).subset (List.getLast_mem empty)
    refine .inr ?_
    rw [List.getLast?_map, List.getLast?_eq_some_getLast empty, Option.map_some,
      converter.missing_of_none field dated clauses _ given (by simpa using none)]

theorem counting_meet (clauses : List Clause) (search : String)
    (some : converter.counting field clauses ≠ []) :
    ∃ met, (converter.convertClauses clauses search).filter.dateOn field = .range met ∧
      DateRange.Meet ((converter.counting field clauses).map converter.rangeOf) met := by
  obtain ⟨first, rest, counted⟩ := List.exists_cons_of_ne_nil some
  have ranged := converter.range_of_counting field dated clauses
  rw [counted] at ranged ⊢
  have ranges : (first :: rest).map converter.dateOf =
      ((first :: rest).map converter.rangeOf).map .range := by
    rw [List.map_map]
    exact List.map_congr_left fun clause counts => (ranged clause counts).1
  have formed :
      ∀ range ∈ (first :: rest).map converter.rangeOf, range.WellFormed converter.clock.zone := by
    intro range member
    obtain ⟨clause, counts, rfl⟩ := List.mem_map.mp member
    exact (ranged clause counts).2
  refine ⟨_, ?_, DateRange.intersect_meet converter.clock.zone _ _ formed⟩
  have split : (converter.acceptedOn field clauses).rdropWhile (!Date.asksForNone ·.value) ++
      first :: rest = converter.acceptedOn field clauses := by
    rw [← counted]
    exact List.rdropWhile_append_rtakeWhile
  rw [date_means converter field dated, ← split, List.map_append, ranges]
  exact DateCondition.narrow_all_ranges _ _ _ (converter.counting_restarts field dated clauses)

theorem alone_of_counting (clauses : List Clause) (clause : Clause)
    (counts : clause ∈ converter.counting field clauses) :
    converter.alone field clause = .range (converter.rangeOf clause) := by
  rw [converter.alone_means field dated clauses clause ((List.rtakeWhile_suffix _ _).subset counts)]
  exact (converter.range_of_counting field dated clauses clause counts).1

theorem counting_order (clauses others : List Clause) (search words : String)
    (some : converter.counting field clauses ≠ [])
    (same : (converter.counting field others).Perm (converter.counting field clauses)) :
    (converter.convertClauses others words).filter.dateOn field =
      (converter.convertClauses clauses search).filter.dateOn field := by
  have someToo : converter.counting field others ≠ [] := fun none =>
    some (none ▸ same).symm.eq_nil
  obtain ⟨met, means, meet⟩ := converter.counting_meet field dated clauses search some
  obtain ⟨other, meansToo, meetToo⟩ := converter.counting_meet field dated others words someToo
  rw [means, meansToo]
  refine congrArg _ (meetToo.unique converter.clock.zone _ _ ?_ ?_ meet)
  · intro range member
    obtain ⟨clause, counts, rfl⟩ := List.mem_map.mp member
    exact (converter.range_of_counting field dated others clause counts).2
  · exact fun range => (same.map converter.rangeOf).mem_iff

end

theorem counting_some (converter : Converter) (field : Field) (clauses : List Clause)
    (last : Clause) (ends : last ∈ (converter.acceptedOn field clauses).getLast?)
    (some : Date.asksForNone last.value = false) : converter.counting field clauses ≠ [] := by
  obtain ⟨early, split⟩ := List.getLast?_eq_some_iff.mp ends
  rw [counting, split, List.rtakeWhile_concat_pos _ _ _ (by simp [some])]
  simp

theorem date_clauses_intersect (converter : Converter) (clauses : List Clause) (search : String)
    (field : Field) (dated : field.isDated = true) :
    let given := converter.acceptedOn field clauses
    let counted := converter.counting field clauses
    let condition := (converter.convertClauses clauses search).filter.dateOn field
    (given = [] → condition = .any) ∧
    (∀ last ∈ given.getLast?, Date.asksForNone last.value = true → condition = .missing) ∧
    ∀ last ∈ given.getLast?, Date.asksForNone last.value = false →
      ∃ range, condition = .range range ∧
        (∀ instant, condition.admits (some instant) = true ↔
          ∀ clause ∈ counted, (converter.alone field clause).admits (some instant) = true) ∧
        condition.admits none = false ∧
        (range.startExclusive = true → range.start.isSome = true) ∧
        (range.stopExclusive = true → range.stop.isSome = true) ∧
        (∀ bound ∈ range.lower, ∃ clause ∈ counted,
          (converter.alone field clause).lowerBound? = some bound) ∧
        (∀ bound ∈ range.upper, ∃ clause ∈ counted,
          (converter.alone field clause).upperBound? = some bound) ∧
        ∀ others words, (converter.counting field others).Perm counted →
          (converter.convertClauses others words).filter.dateOn field = condition := by
  intro given counted condition
  have means := converter.date_means field dated clauses search
  have lone := converter.alone_of_counting field dated clauses
  refine ⟨fun empty => ?_, fun last ends none => ?_, fun last ends some => ?_⟩
  · rw [show condition = _ from means, show converter.acceptedOn field clauses = [] from empty]
    rfl
  · obtain ⟨early, split⟩ := List.getLast?_eq_some_iff.mp ends
    have among : last ∈ given := List.mem_of_getLast? ends
    have missing := converter.missing_of_none field dated clauses last among none
    rw [show condition = _ from means, show converter.acceptedOn field clauses = _ from split,
      List.map_append, List.map_singleton, missing, DateCondition.narrow_all_missing]
  · have counts := converter.counting_some field clauses last ends some
    obtain ⟨met, ranged, meet⟩ := converter.counting_meet field dated clauses search counts
    refine ⟨met, ranged, fun instant => ?_, ?_, meet.guarded.1, meet.guarded.2,
      fun bound here => ?_, fun bound here => ?_, fun others words same => ?_⟩
    · rw [show condition = _ from ranged]
      simp only [DateCondition.admits, meet.contains_iff, List.forall_mem_map]
      exact forall₂_congr fun clause among => by rw [lone clause among]
    · rw [show condition = _ from ranged]
      rfl
    · obtain ⟨range, member, bounded⟩ := meet.lower_given bound here
      obtain ⟨clause, among, rfl⟩ := List.mem_map.mp member
      exact ⟨clause, among, by rw [lone clause among]; exact bounded⟩
    · obtain ⟨range, member, bounded⟩ := meet.upper_given bound here
      obtain ⟨clause, among, rfl⟩ := List.mem_map.mp member
      exact ⟨clause, among, by rw [lone clause among]; exact bounded⟩
    · exact converter.counting_order field dated clauses others search words counts same

def januaryConverter : Converter :=
  ⟨⟨fun _ => .ok none, fun _ => .ok none, fun _ _ => .ok []⟩, {}, ⟨⟨1704844800, 0⟩, ⟨0, []⟩⟩⟩

-- A request for no date that is overruled, two bounds of which the earlier one holds in whatever
-- order they come, and a clause that is rejected.
def januaryClauses : List Clause :=
  [⟨.due, .colon, "none", false, false⟩, ⟨.due, .less, "today", false, false⟩,
    ⟨.due, .less, "tomorrow", false, false⟩, ⟨.due, .greater, "none", false, false⟩]

theorem earlier_bound_holds :
    Field.due.isDated = true ∧
      januaryConverter.counting .due januaryClauses =
        [⟨.due, .less, "today", false, false⟩, ⟨.due, .less, "tomorrow", false, false⟩] ∧
      ∀ others words, (januaryConverter.counting .due others).Perm
          (januaryConverter.counting .due januaryClauses) →
        (januaryConverter.convertClauses others words).filter.due =
          .range { stop := some ⟨⟨1704844800, 0⟩, 0⟩, stopExclusive := true } := by
  have means : (januaryConverter.convertClauses januaryClauses "").filter.due =
      .range { stop := some ⟨⟨1704844800, 0⟩, 0⟩, stopExclusive := true } := by decide
  have ends : (januaryConverter.acceptedOn .due januaryClauses).getLast? =
      some ⟨.due, .less, "tomorrow", false, false⟩ := by decide
  obtain ⟨_, _, _, _, _, _, _, _, order⟩ :=
    (januaryConverter.date_clauses_intersect januaryClauses "" .due rfl).2.2 _ ends (by decide)
  exact ⟨rfl, by decide, fun others words same => (order others words same).trans means⟩

end Converter

end TaskSearch
