import Mathlib.Data.List.Induction
import TaskSearch.Proofs.Conversion.Isolation
import TaskSearch.Proofs.Date.Request
import TaskSearch.Proofs.Result

set_option autoImplicit false

namespace TaskSearch

open Date (DateCondition)

def Clause.tag (clause : Clause) : String :=
  Text.trim clause.value

def Clause.keyword? (α : Type) [Keyword α] (clause : Clause) : Option α :=
  Keyword.find? (Text.lower (Text.trim clause.value))

def Field.isDated : Field → Bool
  | .due | .created | .updated => true
  | .status | .priority | .project | .tag => false

namespace Filter

attribute [ext] Filter

def dateOn (filter : Filter) : Field → DateCondition
  | .due => filter.due
  | .created => filter.created
  | .updated => filter.updated
  | .status | .priority | .project | .tag => .any

theorem add_tags (tags : List String) : tags.foldl addTag [] = tags.eraseDups := by
  induction tags using List.reverseRecOn with
  | nil => rfl
  | append_singleton tags tag ih =>
      rw [List.foldl_concat, ih, addTag, List.eraseDups_append]
      by_cases known : tag ∈ tags <;> simp [known, List.removeAll, List.eraseDups_cons]

end Filter

namespace Converter

def projectOf? (converter : Converter) (clause : Clause) : Option String :=
  (converter.resolveProject clause.value clause.fuzzy).toOption

def dateOf (converter : Converter) (clause : Clause) : DateCondition :=
  (Date.parseCondition clause.value clause.operator converter.clock).toOption.getD .any

def acceptedOn (converter : Converter) (field : Field) (clauses : List Clause) : List Clause :=
  clauses.filter fun clause => converter.accepts clause && clause.field = field

def meaning (converter : Converter) (clauses : List Clause) (search : String) : Filter :=
  let given (field : Field) := converter.acceptedOn field clauses
  let words := Text.trim search
  { status := (given .status).getLast?.bind (Clause.keyword? Status)
    priority := (given .priority).getLast?.bind (Clause.keyword? Priority)
    projectId := (given .project).getLast?.bind converter.projectOf?
    tags := (((given .tag).filter (!·.negated)).map Clause.tag).eraseDups
    excludedTags := (((given .tag).filter (·.negated)).map Clause.tag).eraseDups
    search := if words = "" then none else some words
    searchMode := converter.options.searchMode
    sortKey := converter.options.sortKey
    sortOrder := converter.options.sortOrder
    due := DateCondition.narrowAll ((given .due).map converter.dateOf)
    created := DateCondition.narrowAll ((given .created).map converter.dateOf)
    updated := DateCondition.narrowAll ((given .updated).map converter.dateOf) }

inductive Writes (converter : Converter) (clause : Clause) : FilterEdit → Prop where
  | status (word : Status) (on : clause.field = .status)
      (read : clause.keyword? Status = some word) : Writes converter clause (.status word)
  | priority (word : Priority) (on : clause.field = .priority)
      (read : clause.keyword? Priority = some word) : Writes converter clause (.priority word)
  | project (id : String) (on : clause.field = .project)
      (found : converter.projectOf? clause = some id) : Writes converter clause (.project id)
  | includeTag (on : clause.field = .tag) (inked : clause.tag ≠ "")
      (plain : clause.negated = false) : Writes converter clause (.includeTag clause.tag)
  | excludeTag (on : clause.field = .tag) (inked : clause.tag ≠ "")
      (negated : clause.negated = true) : Writes converter clause (.excludeTag clause.tag)
  | date (dated : clause.field.isDated = true)
      (read : Date.parseCondition clause.value clause.operator converter.clock =
        .ok (converter.dateOf clause)) :
      Writes converter clause (.date clause.field (converter.dateOf clause))

theorem keyword_of_read (α : Type) [Keyword α] (clause : Clause) (word : α)
    (read : readKeyword α clause = .ok word) : clause.keyword? α = some word := by
  unfold readKeyword at read
  unfold Clause.keyword?
  cases found : (Keyword.find? (Text.lower (Text.trim clause.value)) : Option α) with
  | none => simp [found] at read
  | some other => simpa [found] using read

theorem writes_date (converter : Converter) (clause : Clause) (edit : FilterEdit)
    (dated : clause.field.isDated = true) (read : converter.dateEdit clause = .ok edit) :
    Writes converter clause edit := by
  unfold dateEdit at read
  cases parsed : Date.parseCondition clause.value clause.operator converter.clock with
  | error error =>
      rw [parsed] at read
      cases read
  | ok condition =>
      have asked : converter.dateOf clause = condition := by
        rw [dateOf, parsed]
        rfl
      rw [parsed] at read
      cases read
      rw [← asked] at parsed ⊢
      exact .date dated parsed

theorem writes_of_edit (converter : Converter) (clause : Clause) (edit : FilterEdit)
    (read : converter.editOf clause = .ok edit) : Writes converter clause edit := by
  unfold editOf at read
  cases on : clause.field with
  | status =>
      simp only [on, bind_ok_iff, map_ok_iff] at read
      obtain ⟨_, _, word, found, rfl⟩ := read
      exact .status word on (keyword_of_read Status clause word found)
  | priority =>
      simp only [on, bind_ok_iff, map_ok_iff] at read
      obtain ⟨_, _, word, found, rfl⟩ := read
      exact .priority word on (keyword_of_read Priority clause word found)
  | project =>
      simp only [on, bind_ok_iff, map_ok_iff] at read
      obtain ⟨_, _, id, found, rfl⟩ := read
      exact .project id on (by rw [projectOf?, found, Except.toOption])
  | tag =>
      simp only [on, bind_ok_iff] at read
      obtain ⟨_, _, checked⟩ := read
      by_cases inked : Text.trim clause.value = ""
      · rw [if_pos (String.isEmpty_iff.mpr inked)] at checked
        cases checked
      · rw [if_neg (mt String.isEmpty_iff.mp inked)] at checked
        cases negated : clause.negated with
        | true =>
            rw [negated] at checked
            cases checked
            exact .excludeTag on inked negated
        | false =>
            rw [negated] at checked
            cases checked
            exact .includeTag on inked negated
  | due | created | updated =>
      simp only [on, bind_ok_iff] at read
      obtain ⟨_, _, dated⟩ := read
      exact writes_date converter clause edit (by rw [on]; rfl) dated

theorem writes_of_accepted (converter : Converter) (clause : Clause)
    (accepted : converter.accepts clause = true) :
    ∃ edit, Writes converter clause edit ∧
      ∀ filter, converter.after filter clause = filter.edit edit := by
  rw [accepts, verdict_of_edit] at accepted
  cases read : converter.editOf clause with
  | error rejection => simp [read] at accepted
  | ok edit =>
      refine ⟨edit, writes_of_edit converter clause edit read, fun filter => ?_⟩
      rw [after, apply_settles, read]
      rfl

theorem after_accepted (converter : Converter) (clause : Clause) (filter : Filter)
    (accepted : converter.accepts clause = true) :
    converter.after filter clause =
      { filter with
        status := if clause.field = .status then clause.keyword? Status else filter.status
        priority := if clause.field = .priority then clause.keyword? Priority else filter.priority
        projectId :=
          if clause.field = .project then converter.projectOf? clause else filter.projectId
        tags :=
          if clause.field = .tag && !clause.negated then Filter.addTag filter.tags clause.tag
          else filter.tags
        excludedTags :=
          if clause.field = .tag && clause.negated then
            Filter.addTag filter.excludedTags clause.tag
          else filter.excludedTags
        due :=
          if clause.field = .due then filter.due.narrow (converter.dateOf clause) else filter.due
        created :=
          if clause.field = .created then filter.created.narrow (converter.dateOf clause)
          else filter.created
        updated :=
          if clause.field = .updated then filter.updated.narrow (converter.dateOf clause)
          else filter.updated } := by
  obtain ⟨edit, writes, same⟩ := writes_of_accepted converter clause accepted
  rw [same]
  cases writes with
  | status word on read => simp [Filter.edit, on, read]
  | priority word on read => simp [Filter.edit, on, read]
  | project id on found => simp [Filter.edit, on, found]
  | includeTag on _ plain => simp [Filter.edit, on, plain]
  | excludeTag on _ negated => simp [Filter.edit, on, negated]
  | date dated read =>
      cases on : clause.field <;>
        simp [Filter.edit, Filter.narrowDate, on, Field.isDated] at dated ⊢

section

variable {α : Type} (converter : Converter) (view : Filter → α) (concerns : Clause → Bool)
  (next : α → Clause → α)

theorem view_fold (clauses : List Clause) (filter : Filter)
    (step : ∀ clause filter, converter.accepts clause = true →
      view (converter.after filter clause) =
        if concerns clause then next (view filter) clause else view filter) :
    view ((clauses.filter converter.accepts).foldl converter.after filter) =
      (clauses.filter fun clause => converter.accepts clause && concerns clause).foldl next
        (view filter) := by
  induction clauses generalizing filter with
  | nil => rfl
  | cons clause clauses ih =>
      by_cases accepted : converter.accepts clause = true
      · rw [List.filter_cons_of_pos accepted, List.foldl_cons, ih, step clause filter accepted]
        by_cases concerned : concerns clause = true <;> simp [accepted, concerned]
      · simp [accepted, ih]

end

theorem fold_last {α β : Type} (value : α → Option β) (rows : List α) :
    rows.foldl (fun _ row => value row) none = rows.getLast?.bind value := by
  induction rows using List.reverseRecOn with
  | nil => rfl
  | append_singleton rows row _ => simp

section

variable (converter : Converter) (clauses : List Clause) (search : String)

theorem converted_fold :
    (converter.convertClauses clauses search).filter =
      (clauses.filter converter.accepts).foldl converter.after
        (converter.initialFilter search) := by
  rw [convertClauses, apply_all_run]

theorem kept_means {α : Type} (view : Filter → α)
    (kept : ∀ clause filter, converter.accepts clause = true →
      view (converter.after filter clause) = view filter) :
    view (converter.convertClauses clauses search).filter =
      view (converter.initialFilter search) := by
  rw [converted_fold, view_fold converter view (fun _ => false) (fun value _ => value)]
  · simp
  · exact fun clause filter accepted => by simp [kept clause filter accepted]

theorem last_means {α : Type} (view : Filter → Option α) (field : Field)
    (value : Clause → Option α) (unset : view (converter.initialFilter search) = none)
    (step : ∀ clause filter, converter.accepts clause = true →
      view (converter.after filter clause) =
        if clause.field = field then value clause else view filter) :
    view (converter.convertClauses clauses search).filter =
      (converter.acceptedOn field clauses).getLast?.bind value := by
  rw [converted_fold,
    view_fold converter view (fun clause => clause.field = field) (fun _ clause => value clause)]
  · rw [unset, fold_last]
    rfl
  · simpa using step

theorem tags_mean (view : Filter → List String) (picked : Clause → Bool)
    (unset : view (converter.initialFilter search) = [])
    (step : ∀ clause filter, converter.accepts clause = true →
      view (converter.after filter clause) =
        if clause.field = .tag && picked clause then Filter.addTag (view filter) clause.tag
        else view filter) :
    view (converter.convertClauses clauses search).filter =
      (((converter.acceptedOn .tag clauses).filter picked).map Clause.tag).eraseDups := by
  rw [converted_fold,
    view_fold converter view (fun clause => clause.field = .tag && picked clause)
      (fun tags clause => Filter.addTag tags clause.tag)]
  · rw [unset, ← Filter.add_tags, List.foldl_map, acceptedOn, List.filter_filter]
    congr 2
    funext clause
    cases converter.accepts clause <;> simp [Bool.and_comm]
  · exact step

theorem dates_mean (view : Filter → DateCondition) (field : Field)
    (unset : view (converter.initialFilter search) = .any)
    (step : ∀ clause filter, converter.accepts clause = true →
      view (converter.after filter clause) =
        if clause.field = field then (view filter).narrow (converter.dateOf clause)
        else view filter) :
    view (converter.convertClauses clauses search).filter =
      DateCondition.narrowAll ((converter.acceptedOn field clauses).map converter.dateOf) := by
  rw [converted_fold,
    view_fold converter view (fun clause => clause.field = field)
      (fun condition clause => condition.narrow (converter.dateOf clause))]
  · rw [unset, DateCondition.narrowAll, List.foldl_map]
    rfl
  · simpa using step

theorem filter_means :
    (converter.convertClauses clauses search).filter = converter.meaning clauses search := by
  have step {clause : Clause} {filter : Filter} (accepted : converter.accepts clause = true) :=
    converter.after_accepted clause filter accepted
  apply Filter.ext
  case status =>
      exact last_means converter clauses search (·.status) .status _ rfl fun _ _ accepted =>
        congrArg (·.status) (step accepted)
  case priority =>
      exact last_means converter clauses search (·.priority) .priority _ rfl fun _ _ accepted =>
        congrArg (·.priority) (step accepted)
  case projectId =>
      exact last_means converter clauses search (·.projectId) .project _ rfl fun _ _ accepted =>
        congrArg (·.projectId) (step accepted)
  case tags =>
      exact tags_mean converter clauses search (·.tags) (!·.negated) rfl fun _ _ accepted =>
        congrArg (·.tags) (step accepted)
  case excludedTags =>
      exact tags_mean converter clauses search (·.excludedTags) (·.negated) rfl fun _ _ accepted =>
        congrArg (·.excludedTags) (step accepted)
  case search =>
      rw [kept_means converter clauses search (·.search) fun _ _ accepted =>
        congrArg (·.search) (step accepted)]
      simp [initialFilter, meaning, String.isEmpty_iff]
  case searchMode =>
      exact kept_means converter clauses search (·.searchMode) fun _ _ accepted =>
        congrArg (·.searchMode) (step accepted)
  case sortKey =>
      exact kept_means converter clauses search (·.sortKey) fun _ _ accepted =>
        congrArg (·.sortKey) (step accepted)
  case sortOrder =>
      exact kept_means converter clauses search (·.sortOrder) fun _ _ accepted =>
        congrArg (·.sortOrder) (step accepted)
  case due =>
      exact dates_mean converter clauses search (·.due) .due rfl fun _ _ accepted =>
        congrArg (·.due) (step accepted)
  case created =>
      exact dates_mean converter clauses search (·.created) .created rfl fun _ _ accepted =>
        congrArg (·.created) (step accepted)
  case updated =>
      exact dates_mean converter clauses search (·.updated) .updated rfl fun _ _ accepted =>
        congrArg (·.updated) (step accepted)

end

end Converter

end TaskSearch
