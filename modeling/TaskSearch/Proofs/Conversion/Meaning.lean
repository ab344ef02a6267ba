import TaskSearch.Proofs.Conversion.DateClauses
import TaskSearch.Proofs.Text.Characters

set_option autoImplicit false

namespace TaskSearch

open Date (DateCondition)

theorem erase_dups_nodup (tags : List String) : tags.eraseDups.Nodup := by
  induction tags using List.reverseRecOn with
  | nil => exact List.nodup_nil
  | append_singleton tags tag ih =>
      rw [List.eraseDups_append]
      by_cases known : tag ∈ tags
      · simpa [List.removeAll, known] using ih
      · have apart : ∀ other ∈ tags.eraseDups, other ≠ tag := by
          rintro _ member rfl
          exact known (List.mem_eraseDups.mp member)
        simpa [List.removeAll, known, List.eraseDups_cons, List.nodup_append, ih] using apart

theorem erase_dups_nil_iff (tags : List String) : tags.eraseDups = [] ↔ tags = [] := by
  cases tags <;> simp [List.eraseDups_cons]

theorem last_none_iff {α β : Type} (value : α → Option β) (rows : List α)
    (some : ∀ row ∈ rows, (value row).isSome = true) :
    rows.getLast?.bind value = none ↔ rows = [] := by
  cases rows using List.reverseRecOn with
  | nil => exact iff_of_true rfl rfl
  | append_singleton early last =>
      have valued := some last (by simp)
      refine iff_of_false ?_ (by simp)
      rw [List.getLast?_concat, Option.bind_some]
      exact Option.isSome_iff_ne_none.mp valued

namespace Converter

def Tells (converter : Converter) (clause : Clause) : Prop :=
  match clause.field with
  | .status => (clause.keyword? Status).isSome = true
  | .priority => (clause.keyword? Priority).isSome = true
  | .project => (converter.projectOf? clause).isSome = true
  | .tag => clause.tag ≠ ""
  | .due | .created | .updated => converter.dateOf clause ≠ .any

theorem accepted_tells (converter : Converter) (clause : Clause)
    (accepted : converter.accepts clause = true) : converter.Tells clause := by
  obtain ⟨edit, writes, _⟩ := converter.writes_of_accepted clause accepted
  unfold Tells
  cases writes with
  | status word on read => simp [on, read]
  | priority word on read => simp [on, read]
  | project id on found => simp [on, found]
  | includeTag on inked _ => simpa [on] using inked
  | excludeTag on inked _ => simpa [on] using inked
  | date dated _ =>
      have requested := converter.accepted_requested clause accepted dated
      have asks : converter.dateOf clause ≠ .any := by
        intro any
        rw [any] at requested
        cases requested
      cases on : clause.field <;> simp_all [Field.isDated]

theorem tags_nil_iff (given : List Clause) :
    ((given.filter (!·.negated)).map Clause.tag).eraseDups = [] ∧
      ((given.filter (·.negated)).map Clause.tag).eraseDups = [] ↔ given = [] := by
  simp only [erase_dups_nil_iff, List.map_eq_nil_iff, List.filter_eq_nil_iff]
  constructor
  · rintro ⟨plain, negated⟩
    rw [List.eq_nil_iff_forall_not_mem]
    intro clause member
    have unmarked := plain clause member
    have marked := negated clause member
    simp_all
  · rintro rfl
    simp

section

variable (converter : Converter) (clauses : List Clause) (search : String)

theorem tells_on (field : Field) (clause : Clause)
    (given : clause ∈ converter.acceptedOn field clauses) :
    clause.field = field ∧ converter.Tells clause := by
  obtain ⟨_, accepted, on⟩ := (converter.mem_accepted_on field clauses clause).mp given
  exact ⟨on, converter.accepted_tells clause accepted⟩

theorem last_on_none_iff {α : Type} (field : Field) (value : Clause → Option α)
    (told : ∀ clause, clause.field = field → converter.Tells clause →
      (value clause).isSome = true) :
    (converter.acceptedOn field clauses).getLast?.bind value = none ↔
      converter.acceptedOn field clauses = [] := by
  apply last_none_iff
  intro clause given
  obtain ⟨on, tells⟩ := converter.tells_on clauses field clause given
  exact told clause on tells

theorem dates_any_iff (field : Field) (dated : field.isDated = true) :
    DateCondition.narrowAll ((converter.acceptedOn field clauses).map converter.dateOf) = .any ↔
      converter.acceptedOn field clauses = [] := by
  rw [DateCondition.narrow_all_any_iff, List.map_eq_nil_iff]
  intro condition member
  obtain ⟨clause, given, rfl⟩ := List.mem_map.mp member
  obtain ⟨on, tells⟩ := converter.tells_on clauses field clause given
  unfold Tells at tells
  cases field with
  | due | created | updated => simpa [on] using tells
  | status | priority | project | tag => cases dated

theorem is_any_iff (condition : DateCondition) : condition.isAny = true ↔ condition = .any := by
  cases condition <;> simp [DateCondition.isAny]

theorem meaning_unrestricted_iff :
    (converter.meaning clauses search).isUnrestricted = true ↔
      (∀ field, converter.acceptedOn field clauses = []) ∧ Text.trim search = "" := by
  have status := converter.last_on_none_iff clauses .status (Clause.keyword? Status)
    fun clause on tells => by simpa [Tells, on] using tells
  have priority := converter.last_on_none_iff clauses .priority (Clause.keyword? Priority)
    fun clause on tells => by simpa [Tells, on] using tells
  have project := converter.last_on_none_iff clauses .project converter.projectOf?
    fun clause on tells => by simpa [Tells, on] using tells
  have tags := tags_nil_iff (converter.acceptedOn .tag clauses)
  have dates := converter.dates_any_iff clauses
  have words : (if Text.trim search = "" then none else some (Text.trim search)) = none ↔
      Text.trim search = "" := by
    simp
  simp only [Filter.isUnrestricted, meaning, Bool.and_eq_true, Option.isNone_iff_eq_none,
    List.isEmpty_iff, is_any_iff, status, priority, project, words, dates .due rfl,
    dates .created rfl, dates .updated rfl]
  constructor
  · rintro ⟨⟨⟨⟨⟨⟨⟨⟨status, priority⟩, project⟩, plain⟩, negated⟩, wordless⟩, due⟩, created⟩,
      updated⟩
    refine ⟨fun field => ?_, wordless⟩
    cases field with
    | tag => exact tags.mp ⟨plain, negated⟩
    | _ => assumption
  · rintro ⟨none, wordless⟩
    obtain ⟨plain, negated⟩ := tags.mpr (none .tag)
    exact ⟨⟨⟨⟨⟨⟨⟨⟨none .status, none .priority⟩, none .project⟩, plain⟩, negated⟩, wordless⟩,
      none .due⟩, none .created⟩, none .updated⟩

theorem meaning_tag (tag : String)
    (member : tag ∈ (converter.meaning clauses search).tags ++
      (converter.meaning clauses search).excludedTags) :
    tag ≠ "" ∧ Text.trim tag = tag := by
  have origin : ∃ clause ∈ converter.acceptedOn .tag clauses, clause.tag = tag := by
    simp only [meaning, List.mem_append, List.mem_eraseDups, List.mem_map,
      List.mem_filter] at member
    rcases member with ⟨clause, ⟨given, _⟩, same⟩ | ⟨clause, ⟨given, _⟩, same⟩
    · exact ⟨clause, given, same⟩
    · exact ⟨clause, given, same⟩
  obtain ⟨clause, given, rfl⟩ := origin
  obtain ⟨on, tells⟩ := converter.tells_on clauses .tag clause given
  exact ⟨by simpa [Tells, on] using tells, Text.trim_trimmed clause.value⟩

theorem rejected_clauses :
    (converter.convertClauses clauses search).rejected.map (·.clause) =
      clauses.filter (!converter.accepts ·) := by
  rw [convertClauses, apply_all_run]
  induction clauses with
  | nil => rfl
  | cons clause clauses ih =>
      rcases converter.accepted_or_listed clause with
        ⟨_, accepted, unlisted⟩ | ⟨rejection, _, refused, listed⟩
      · simpa [accepted, unlisted] using ih
      · simpa [refused, listed] using ih

theorem all_rejected_iff :
    (converter.convertClauses clauses search).rejected.map (·.clause) = clauses ↔
      ∀ field, converter.acceptedOn field clauses = [] := by
  rw [rejected_clauses, List.filter_eq_self]
  simp only [acceptedOn, List.filter_eq_nil_iff]
  constructor
  · intro refused field clause member
    simp_all
  · intro none clause member
    simpa using none clause.field clause member

theorem meaning_by_field (others : List Clause)
    (same : ∀ field, others.filter (·.field = field) = clauses.filter (·.field = field)) :
    converter.meaning others search = converter.meaning clauses search := by
  have acceptedSame (field : Field) :
      converter.acceptedOn field others = converter.acceptedOn field clauses := by
    simp only [acceptedOn, ← List.filter_filter, same]
  simp only [meaning, acceptedSame]

end

theorem filter_settled_by_field (converter : Converter) (query : Query) :
    let words := " ".intercalate query.freeText
    let conversion := converter.convert query
    conversion.filter = converter.meaning query.clauses words ∧
    (∀ clause ∈ query.clauses, converter.accepts clause = true → converter.Tells clause) ∧
    (∀ tag ∈ conversion.filter.tags ++ conversion.filter.excludedTags,
      tag ≠ "" ∧ Text.trim tag = tag) ∧
    conversion.filter.tags.Nodup ∧ conversion.filter.excludedTags.Nodup ∧
    (∀ others : Query, others.freeText = query.freeText →
      (∀ field, others.clauses.filter (·.field = field) =
        query.clauses.filter (·.field = field)) →
      (converter.convert others).filter = conversion.filter) ∧
    (conversion.filter.isUnrestricted = true ↔
      conversion.rejected.map (·.clause) = query.clauses ∧ Text.trim words = "") := by
  intro words conversion
  have means : conversion.filter = converter.meaning query.clauses words :=
    converter.filter_means query.clauses words
  refine ⟨means, fun clause _ => converter.accepted_tells clause, ?_, ?_, ?_, ?_, ?_⟩
  · rw [means]
    exact converter.meaning_tag query.clauses words
  · rw [means]
    exact erase_dups_nodup _
  · rw [means]
    exact erase_dups_nodup _
  · intro others sameWords same
    rw [means, convert, filter_means, sameWords]
    exact converter.meaning_by_field query.clauses words others.clauses same
  · rw [means, meaning_unrestricted_iff, ← converter.all_rejected_iff query.clauses words]
    rfl

theorem tags_before_priority :
    let low : Clause := ⟨.priority, .colon, "low", false, false⟩
    let most : Clause := ⟨.priority, .lessEqual, "high", false, false⟩
    let padded : Clause := ⟨.tag, .colon, " a ", false, false⟩
    let again : Clause := ⟨.tag, .equal, "a", false, false⟩
    let query : Query := ⟨[low, padded, most, again], [], []⟩
    let others : Query := ⟨[padded, again, low, most], [], []⟩
    (∀ field, others.clauses.filter (·.field = field) = query.clauses.filter (·.field = field)) ∧
      (januaryConverter.convert others).filter = (januaryConverter.convert query).filter ∧
      (januaryConverter.convert others).filter =
        { priority := some .low, tags := ["a"] } := by
  intro low most padded again query others
  have same (field : Field) :
      others.clauses.filter (·.field = field) = query.clauses.filter (·.field = field) := by
    cases field <;> rfl
  obtain ⟨_, _, _, _, _, reordered, _⟩ := januaryConverter.filter_settled_by_field query
  exact ⟨same, reordered others rfl same, by decide⟩

end Converter

end TaskSearch
