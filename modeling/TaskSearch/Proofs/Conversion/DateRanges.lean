import TaskSearch.Proofs.Conversion.DateClauses
import TaskSearch.Proofs.Date.Bounds

set_option autoImplicit false

namespace TaskSearch

open Calendar (Instant Zone Day Timestamp)
open Date (DateCondition Clock parseDate parseCondition askedOn wholeDays)

theorem Date.narrow_bounds (condition : DateCondition) (zone : Zone) (first last : Day) :
    (condition.narrow (askedOn zone first .greaterEqual)).narrow (askedOn zone last .lessEqual) =
      condition.narrow (wholeDays zone first last) := by
  cases condition with
  | any | missing => rfl
  | range range =>
      simp only [askedOn, wholeDays, DateCondition.narrow, DateRange.intersect, DateRange.ofTimes,
        Bool.false_and, Prod.mk.eta, DateRange.tighter_before_none,
        DateRange.tighter_after_none]

theorem Filter.narrow_date_bounds (filter : Filter) (field : Field) (zone : Zone)
    (first last : Day) :
    (filter.narrowDate field (askedOn zone first .greaterEqual)).narrowDate field
        (askedOn zone last .lessEqual) =
      filter.narrowDate field (wholeDays zone first last) := by
  cases field with
  | due | created | updated => simp only [narrowDate, Date.narrow_bounds]
  | status | priority | project | tag => rfl

namespace Converter

section

variable (converter : Converter) (clause : Clause) (condition : DateCondition)
  (dated : clause.field.isDated = true) (plain : clause.negated = false)
  (read : parseCondition clause.value clause.operator converter.clock = .ok condition)

include dated plain read

theorem date_clause_edit : converter.editOf clause = .ok (.date clause.field condition) := by
  have passed : requireNotNegated clause = .ok () := by simp [requireNotNegated, plain]
  have edit : converter.dateEdit clause = .ok (.date clause.field condition) := by
    rw [dateEdit, read]
  unfold editOf
  cases on : clause.field with
  | due | created | updated =>
      rw [on] at edit
      rw [passed, ← edit]
      rfl
  | status | priority | project | tag =>
      rw [on] at dated
      cases dated

theorem date_clause_accepted :
    converter.accepts clause = true ∧ converter.listed? clause = none ∧
      ∀ filter, converter.after filter clause = filter.narrowDate clause.field condition := by
  have edit := converter.date_clause_edit clause condition dated plain read
  have verdict : converter.verdict? clause = none := by rw [verdict_of_edit, edit]
  refine ⟨by rw [accepts, verdict]; rfl, by rw [listed?, verdict]; rfl, fun filter => ?_⟩
  rw [after, apply_settles, edit]
  rfl

theorem date_clause_means (search : String) :
    (converter.convertClauses [clause] search).filter.dateOn clause.field = condition := by
  have accepted := (converter.date_clause_accepted clause condition dated plain read).1
  have given : clause ∈ converter.acceptedOn clause.field [clause] :=
    (converter.mem_accepted_on _ _ _).mpr ⟨List.mem_singleton_self _, accepted, rfl⟩
  have means := converter.alone_means clause.field dated [clause] clause given
  rw [alone, converter.date_means clause.field dated] at means
  rw [converter.date_means clause.field dated, means, dateOf, read]
  rfl

end

section

variable (converter : Converter) (field : Field) (dated : field.isDated = true)
  (start stop : String) (first last : Timestamp)
  (opens : parseDate start converter.clock = .ok (.at first))
  (closes : parseDate stop converter.clock = .ok (.at last))

include dated opens closes

theorem range_as_comparisons (operator : Operator) (exact : operator.isExact = true)
    (before after : List Clause) (search : String) :
    converter.convertClauses
        (before ++ { field, operator, value := start ++ ".." ++ stop } :: after) search =
      converter.convertClauses (before ++ { field, operator := .greaterEqual, value := start } ::
        { field, operator := .lessEqual, value := stop } :: after) search := by
  have bounds := Date.condition_of_bounds converter.clock start first opens stop last closes
    operator exact
  have opening := Date.condition_asked converter.clock start first opens .greaterEqual (by decide)
  have closing := Date.condition_asked converter.clock stop last closes .lessEqual (by decide)
  obtain ⟨accepted, unlisted, next⟩ := converter.date_clause_accepted
    { field, operator, value := start ++ ".." ++ stop } _ dated rfl bounds
  obtain ⟨accepted₁, unlisted₁, next₁⟩ := converter.date_clause_accepted
    { field, operator := .greaterEqual, value := start } _ dated rfl opening
  obtain ⟨accepted₂, unlisted₂, next₂⟩ := converter.date_clause_accepted
    { field, operator := .lessEqual, value := stop } _ dated rfl closing
  simp only [convertClauses, apply_all_run, List.filterMap_append, List.filter_append,
    List.filterMap_cons_none unlisted, List.filterMap_cons_none unlisted₁,
    List.filterMap_cons_none unlisted₂, List.filter_cons_of_pos accepted,
    List.filter_cons_of_pos accepted₁, List.filter_cons_of_pos accepted₂, List.foldl_append,
    List.foldl_cons, next, next₁, next₂, Filter.narrow_date_bounds]

theorem date_operators_complement (value : String) (time : Timestamp)
    (given : parseDate value converter.clock = .ok (.at time)) :
    (∃ asks : Operator → DateCondition,
      (∀ operator, operator ≠ .notEqual →
        parseCondition value operator converter.clock = .ok (asks operator) ∧
          (asks operator).admits none = false) ∧
      (∀ instant,
        (asks .less).admits (some instant) = !(asks .greaterEqual).admits (some instant)) ∧
      (∀ instant,
        (asks .greater).admits (some instant) = !(asks .lessEqual).admits (some instant)) ∧
      ∀ operator, operator.isExact = true →
        parseCondition (value ++ ".." ++ value) operator converter.clock = .ok (asks operator) ∧
          ∀ instant, (asks operator).admits (some instant) =
            ((asks .greaterEqual).admits (some instant) &&
              (asks .lessEqual).admits (some instant))) ∧
    (∀ operator, operator.isExact = true → ∃ condition,
      parseCondition (start ++ ".." ++ stop) operator converter.clock = .ok condition ∧
        condition.admits none = false ∧
        (∀ search, (converter.convertClauses [{ field, operator := .greaterEqual, value := start },
          { field, operator := .lessEqual, value := stop }] search).filter.dateOn field =
            condition) ∧
        ∀ before after search,
          converter.convertClauses
              (before ++ { field, operator, value := start ++ ".." ++ stop } :: after) search =
            converter.convertClauses
              (before ++ { field, operator := .greaterEqual, value := start } ::
                { field, operator := .lessEqual, value := stop } :: after) search) ∧
    ∀ text operator, operator.isExact = true → Date.asksForNone text = true →
      ∃ condition, parseCondition text operator converter.clock = .ok condition ∧
        ∀ date, condition.admits date = date.isNone := by
  refine ⟨⟨askedOn converter.clock.zone time.day, ?_, ?_, ?_, ?_⟩, ?_, ?_⟩
  · intro operator supported
    refine ⟨Date.condition_asked converter.clock value time given operator supported, ?_⟩
    cases operator with
    | notEqual => exact absurd rfl supported
    | _ => rfl
  · exact Date.less_complements converter.clock.zone time.day
  · exact Date.greater_complements converter.clock.zone time.day
  · intro operator exact
    refine ⟨?_, fun instant => Date.exact_meets _ _ instant operator exact⟩
    rw [Date.condition_of_bounds converter.clock value time given value time given operator exact]
    cases operator with
    | colon | equal => rfl
    | _ => exact Bool.noConfusion exact
  · intro operator exact
    have bounds := Date.condition_of_bounds converter.clock start first opens stop last closes
      operator exact
    have pair := converter.range_as_comparisons field dated start stop first last opens closes
      operator exact
    refine ⟨_, bounds, rfl, fun search => ?_, pair⟩
    have asOne := pair [] [] search
    rw [List.nil_append, List.nil_append] at asOne
    rw [← asOne]
    exact converter.date_clause_means { field, operator, value := start ++ ".." ++ stop } _ dated
      rfl bounds search
  · intro text operator exact none
    have read := (Date.no_date_iff text converter.clock).mpr none
    exact ⟨_, Date.condition_of_no_date converter.clock text read operator exact, fun date => rfl⟩

end

theorem range_over_skipped_midnight :
    let converter := { januaryConverter with clock := ⟨⟨1541246400, 0⟩, Date.summerZone⟩ }
    let day : Day := ⟨17839⟩
    Field.due.isDated = true ∧
      parseDate "yesterday" converter.clock =
        .ok (.at (converter.clock.zone.startOfDay ⟨17837⟩)) ∧
      parseDate "17/02/2019" converter.clock =
        .ok (.at (converter.clock.zone.startOfDay ⟨17944⟩)) ∧
      parseDate " Tomorrow" converter.clock = .ok (.at (converter.clock.zone.startOfDay day)) ∧
      (∃ before since, parseCondition " Tomorrow" .less converter.clock = .ok before ∧
        parseCondition " Tomorrow" .greaterEqual converter.clock = .ok since ∧
        ∀ instant, before.admits (some instant) = !since.admits (some instant)) ∧
      ∃ condition,
        parseCondition "yesterday..17/02/2019" .equal converter.clock = .ok condition ∧
          ∀ search, (converter.convertClauses [⟨.due, .greaterEqual, "yesterday", false, false⟩,
            ⟨.due, .lessEqual, "17/02/2019", false, false⟩] search).filter.due = condition := by
  intro converter day
  have opens := Date.parse_named_day converter.clock "yesterday" ⟨17837⟩ (.yesterday (by decide))
    (by decide)
  have closes := Date.parse_named_day converter.clock "17/02/2019" ⟨17944⟩
    (.written (Date.Written.dayFirst '/') { year := 2019, month := 2, day := 17 } (by decide)
      (by decide) (by decide) (by decide)) (by decide)
  have given := Date.parse_named_day converter.clock " Tomorrow" day (.tomorrow (by decide))
    (by decide)
  obtain ⟨⟨asks, asked, complement, -⟩, ranged, -⟩ := converter.date_operators_complement .due rfl
    "yesterday" "17/02/2019" _ _ opens closes " Tomorrow" _ given
  obtain ⟨condition, bounds, -, pair, -⟩ := ranged .equal rfl
  exact ⟨rfl, opens, closes, given, ⟨_, _, (asked .less (by decide)).1,
    (asked .greaterEqual (by decide)).1, complement⟩, condition, bounds, pair⟩

end Converter

end TaskSearch
