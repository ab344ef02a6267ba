import TaskSearch.Proofs.Conversion.Fields
import TaskSearch.Proofs.Conversion.ProjectClauses
import TaskSearch.Proofs.Project.Search
import TaskSearch.Proofs.Text.EditDistance

set_option autoImplicit false

namespace TaskSearch

def IsFirstLeast (measure : String → Nat) (words : List String) (word : String) : Prop :=
  ∃ before after, words = before ++ word :: after ∧
    (∀ other ∈ before, measure word < measure other) ∧
    ∀ other ∈ after, measure word ≤ measure other

theorem least_by_first (measure : String → Nat) (first : String) (rest : List String) :
    IsFirstLeast measure (first :: rest) (leastBy measure first rest) := by
  induction rest using List.reverseRecOn with
  | nil => exact ⟨[], [], rfl, by simp, by simp⟩
  | append_singleton rest last ih =>
      obtain ⟨before, after, split, earlier, later⟩ := ih
      have folded : leastBy measure first (rest ++ [last]) =
          if measure last < measure (leastBy measure first rest) then last
          else leastBy measure first rest := List.foldl_concat ..
      rw [folded, ← List.cons_append, split]
      split
      · rename_i less
        refine ⟨before ++ leastBy measure first rest :: after, [], rfl, ?_, by simp⟩
        intro other member
        rcases List.mem_append.mp member with among | among
        · exact Nat.lt_trans less (earlier other among)
        · rcases List.mem_cons.mp among with rfl | behind
          · exact less
          · exact Nat.lt_of_lt_of_le less (later other behind)
      · rename_i more
        refine ⟨before, after ++ [last], by simp, earlier, ?_⟩
        intro other member
        rcases List.mem_append.mp member with among | among
        · exact later other among
        · obtain rfl := List.mem_singleton.mp among
          exact Nat.le_of_not_lt more

theorem IsFirstLeast.listed {measure : String → Nat} {words : List String} {word : String}
    (least : IsFirstLeast measure words word) : word ∈ words := by
  obtain ⟨before, after, rfl, -, -⟩ := least
  simp

def Field.keywords : Field → List String
  | .status => (Keyword.all : List Status).map Keyword.name
  | .priority => (Keyword.all : List Priority).map Keyword.name
  | .project | .tag | .due | .created | .updated => []

def Clause.distanceTo (clause : Clause) (word : String) : Nat :=
  Text.editDistance (Text.lower (Text.trim clause.value)).toList word.toList

section

variable (α : Type) [Keyword α] (clause : Clause)

theorem read_keyword_error (rejection : Rejection)
    (refused : readKeyword α clause = .error rejection) :
    clause.keyword? α = none ∧ rejection = .invalidValue clause.field clause.value
      (Keyword.expected α) (closestWord? (Text.lower (Text.trim clause.value))
        ((Keyword.all : List α).map Keyword.name)) := by
  unfold readKeyword at refused
  unfold Clause.keyword?
  cases found : (Keyword.find? (Text.lower (Text.trim clause.value)) : Option α) with
  | none => simpa [found, eq_comm] using refused
  | some word => simp [found] at refused

theorem missed_keyword_distant (missed : clause.keyword? α = none) (word : String)
    (listed : word ∈ (Keyword.all : List α).map Keyword.name) : 0 < clause.distanceTo word := by
  obtain ⟨keyword, member, rfl⟩ := List.mem_map.mp listed
  apply Text.distance_pos
  intro same
  have different := List.find?_eq_none.mp missed keyword member
  rw [String.toList_inj.mp same, Text.sameIgnoringCase, beq_self_eq_true] at different
  exact different rfl

theorem listed_keyword_read (word : String)
    (listed : word ∈ (Keyword.all : List α).map Keyword.name)
    (plain : Text.lower (Text.trim word) = word) :
    ∃ keyword, readKeyword α { clause with value := word } = .ok keyword := by
  unfold readKeyword
  dsimp only
  rw [plain]
  cases found : (Keyword.find? word : Option α) with
  | some keyword => exact ⟨keyword, rfl⟩
  | none =>
      obtain ⟨keyword, member, rfl⟩ := List.mem_map.mp listed
      have different := List.find?_eq_none.mp found keyword member
      rw [Text.sameIgnoringCase, beq_self_eq_true] at different
      exact absurd rfl different

theorem closest_keyword (nonempty : (Keyword.all : List α) ≠ []) (rejection : Rejection)
    (refused : readKeyword α clause = .error rejection) :
    ∃ closest, IsFirstLeast clause.distanceTo ((Keyword.all : List α).map Keyword.name) closest ∧
      0 < clause.distanceTo closest ∧
      rejection = .invalidValue clause.field clause.value (Keyword.expected α)
        (if clause.distanceTo closest ≤ 3 then some closest else none) := by
  obtain ⟨missed, rfl⟩ := read_keyword_error α clause rejection refused
  have distant := missed_keyword_distant α clause missed
  cases words : (Keyword.all : List α).map Keyword.name with
  | nil => exact absurd (List.map_eq_nil_iff.mp words) nonempty
  | cons first rest =>
      rw [words] at distant
      have least := least_by_first clause.distanceTo first rest
      have positive := distant _ least.listed
      refine ⟨_, least, positive, ?_⟩
      have chosen : closestWord? (Text.lower (Text.trim clause.value)) (first :: rest) =
          if 0 < clause.distanceTo (leastBy clause.distanceTo first rest) &&
              clause.distanceTo (leastBy clause.distanceTo first rest) ≤ maxSuggestionDistance then
            some (leastBy clause.distanceTo first rest)
          else none := rfl
      simp only [chosen, Bool.and_eq_true, decide_eq_true_eq, positive, true_and]
      rfl

end

theorem field_of_keyword (field : Field) (word : String) (listed : word ∈ field.keywords) :
    field = .status ∨ field = .priority := by
  cases field with
  | status => exact .inl rfl
  | priority => exact .inr rfl
  | project | tag | due | created | updated => cases listed

theorem keywords_plain (field : Field) (word : String) (listed : word ∈ field.keywords) :
    Text.lower (Text.trim word) = word := by
  have plain : ∀ field ∈ [Field.status, .priority], ∀ word ∈ field.keywords,
      Text.lower (Text.trim word) = word := by
    decide
  exact plain field (by simpa using field_of_keyword field word listed) word listed

namespace Converter

section

variable (converter : Converter) (clause : Clause)

theorem verdict_iff (rejection : Rejection) :
    converter.verdict? clause = some rejection ↔ converter.editOf clause = .error rejection := by
  rw [verdict_of_edit]
  cases converter.editOf clause <;> simp

theorem accepts_iff :
    converter.accepts clause = true ↔ ∃ edit, converter.editOf clause = .ok edit := by
  rw [accepts, verdict_of_edit]
  cases converter.editOf clause <;> simp

theorem plain_refused (rejection : Rejection) (refused : requirePlain clause = .error rejection) :
    rejection = .negationUnsupported clause.field ∨
      rejection = .unsupportedOperator clause.field clause.operator := by
  rw [requirePlain, bind_error_iff] at refused
  unfold requireNotNegated requireExact at refused
  rcases refused with negated | ⟨_, _, inexact⟩
  · split at negated
    · cases negated
      exact .inl rfl
    · cases negated
  · split at inexact
    · cases inexact
    · cases inexact
      exact .inr rfl

inductive Refuses : Rejection → Prop where
  | negated : Refuses (.negationUnsupported clause.field)
  | operator : Refuses (.unsupportedOperator clause.field clause.operator)
  | status (rejection : Rejection) (on : clause.field = .status)
      (plain : requirePlain clause = .ok ())
      (read : readKeyword Status clause = .error rejection) : Refuses rejection
  | priority (rejection : Rejection) (on : clause.field = .priority)
      (plain : requirePlain clause = .ok ())
      (read : readKeyword Priority clause = .error rejection) : Refuses rejection
  | project (rejection : Rejection) (on : clause.field = .project)
      (plain : requirePlain clause = .ok ())
      (resolved : converter.resolveProject clause.value clause.fuzzy = .error rejection) :
      Refuses rejection
  | emptyTag : Refuses .emptyTag
  | date (error : Date.DateError) : Refuses (.invalidDate clause.field error)

theorem refuses_of_edit (rejection : Rejection)
    (refused : converter.editOf clause = .error rejection) :
    Refuses converter clause rejection := by
  have unplain (refused : requirePlain clause = .error rejection) :
      Refuses converter clause rejection := by
    rcases plain_refused clause rejection refused with rfl | rfl
    · exact .negated
    · exact .operator
  unfold editOf at refused
  cases on : clause.field with
  | status =>
      simp only [on, bind_error_iff, map_error_iff] at refused
      rcases refused with refused | ⟨_, plain, read⟩
      · exact unplain refused
      · exact .status rejection on plain read
  | priority =>
      simp only [on, bind_error_iff, map_error_iff] at refused
      rcases refused with refused | ⟨_, plain, read⟩
      · exact unplain refused
      · exact .priority rejection on plain read
  | project =>
      simp only [on, bind_error_iff, map_error_iff] at refused
      rcases refused with refused | ⟨_, plain, resolved⟩
      · exact unplain refused
      · exact .project rejection on plain resolved
  | tag =>
      simp only [on, bind_error_iff] at refused
      rcases refused with refused | ⟨_, _, checked⟩
      · unfold requireExact at refused
        split at refused
        · cases refused
        · cases refused
          exact .operator
      · split at checked
        · cases checked
          exact .emptyTag
        · split at checked
          all_goals cases checked
  | due | created | updated =>
      simp only [on, bind_error_iff] at refused
      rcases refused with refused | ⟨_, _, dated⟩
      · unfold requireNotNegated at refused
        split at refused
        · cases refused
          exact .negated
        · cases refused
      · unfold dateEdit at dated
        split at dated
        · cases dated
        · cases dated
          exact .date _

theorem invalid_value_refused (field : Field) (value expected : String)
    (suggestion : Option String)
    (refused : converter.editOf clause =
      .error (.invalidValue field value expected suggestion)) :
    requirePlain clause = .ok () ∧
      (clause.field = .status ∧ readKeyword Status clause =
          .error (.invalidValue field value expected suggestion) ∨
        clause.field = .priority ∧ readKeyword Priority clause =
          .error (.invalidValue field value expected suggestion)) := by
  cases converter.refuses_of_edit clause _ refused with
  | status _ on plain read => exact ⟨plain, .inl ⟨on, read⟩⟩
  | priority _ on plain read => exact ⟨plain, .inr ⟨on, read⟩⟩
  | project _ _ _ resolved => cases converter.resolve_rejected _ _ _ resolved

theorem not_found_refused (name : String) (suggestion : Option String)
    (refused : converter.editOf clause = .error (.projectNotFound name suggestion)) :
    requirePlain clause = .ok () ∧ clause.field = .project ∧
      converter.resolveProject clause.value clause.fuzzy =
        .error (.projectNotFound name suggestion) := by
  cases converter.refuses_of_edit clause _ refused with
  | status _ _ _ read => cases (read_keyword_error Status clause _ read).2
  | priority _ _ _ read => cases (read_keyword_error Priority clause _ read).2
  | project _ on plain resolved => exact ⟨plain, on, resolved⟩

section

variable (plain : requirePlain clause = .ok ())

include plain

theorem edit_of_status (on : clause.field = .status) :
    converter.editOf clause = (readKeyword Status clause).map .status := by
  simp only [editOf, on, plain, bind, Except.bind]

theorem edit_of_priority (on : clause.field = .priority) :
    converter.editOf clause = (readKeyword Priority clause).map .priority := by
  simp only [editOf, on, plain, bind, Except.bind]

theorem edit_of_project (on : clause.field = .project) :
    converter.editOf clause =
      (converter.resolveProject clause.value clause.fuzzy).map .project := by
  simp only [editOf, on, plain, bind, Except.bind]

theorem keyword_accepted (word : String) (listed : word ∈ clause.field.keywords) :
    converter.accepts { clause with value := word } = true := by
  have read := keywords_plain clause.field word listed
  rw [accepts_iff]
  rcases field_of_keyword clause.field word listed with on | on
  · rw [on] at listed
    obtain ⟨status, found⟩ := listed_keyword_read Status clause word listed read
    refine ⟨.status status, ?_⟩
    rw [converter.edit_of_status { clause with value := word } plain on, found, Except.map]
  · rw [on] at listed
    obtain ⟨priority, found⟩ := listed_keyword_read Priority clause word listed read
    refine ⟨.priority priority, ?_⟩
    rw [converter.edit_of_priority { clause with value := word } plain on, found, Except.map]

end

theorem keyword_suggested (field : Field) (value expected : String) (suggestion : Option String)
    (refused : converter.verdict? clause =
      some (.invalidValue field value expected suggestion)) :
    ∃ closest, IsFirstLeast clause.distanceTo clause.field.keywords closest ∧
      0 < clause.distanceTo closest ∧
      suggestion = (if clause.distanceTo closest ≤ 3 then some closest else none) ∧
      converter.accepts { clause with value := closest } = true := by
  obtain ⟨plain, reading⟩ := converter.invalid_value_refused clause field value expected suggestion
    ((converter.verdict_iff clause _).mp refused)
  have suggested : ∃ closest, IsFirstLeast clause.distanceTo clause.field.keywords closest ∧
      0 < clause.distanceTo closest ∧
      suggestion = if clause.distanceTo closest ≤ 3 then some closest else none := by
    rcases reading with ⟨on, read⟩ | ⟨on, read⟩
    · obtain ⟨closest, least, positive, same⟩ :=
        closest_keyword Status clause (by decide) _ read
      rw [on]
      exact ⟨closest, least, positive, (Rejection.invalidValue.inj same).2.2.2⟩
    · obtain ⟨closest, least, positive, same⟩ :=
        closest_keyword Priority clause (by decide) _ read
      rw [on]
      exact ⟨closest, least, positive, (Rejection.invalidValue.inj same).2.2.2⟩
  obtain ⟨closest, least, positive, same⟩ := suggested
  exact ⟨closest, least, positive, same, converter.keyword_accepted clause plain closest least.listed⟩

theorem plain_parts (plain : requirePlain clause = .ok ()) :
    clause.negated = false ∧ clause.operator.isExact = true := by
  rw [requirePlain, bind_ok_iff] at plain
  obtain ⟨_, affirmed, exact⟩ := plain
  unfold requireNotNegated at affirmed
  unfold requireExact at exact
  split at affirmed
  · cases affirmed
  · rename_i positive
    split at exact
    · rename_i known
      exact ⟨Bool.eq_false_iff.mpr positive, known⟩
    · cases exact

theorem missed_project_iff (name other : String) (fuzzy : Bool) (suggestion : Option String) :
    converter.resolveProject name fuzzy = .error (.projectNotFound other suggestion) ↔
      fuzzy = false ∧ other = name ∧ converter.directory.byName name = .ok none ∧
        converter.directory.byAlias name = .ok none ∧
        suggestion = converter.suggestion? name := by
  constructor
  · intro missed
    unfold resolveProject at missed
    split at missed
    · split at missed
      all_goals cases missed
    · rename_i exactly
      split at missed
      · cases missed
      · cases missed
      · rename_i unnamed
        split at missed
        · cases missed
        · cases missed
        · rename_i unaliased
          cases missed
          exact ⟨Bool.eq_false_iff.mpr exactly, rfl, unnamed, unaliased, rfl⟩
  · rintro ⟨rfl, rfl, unnamed, unaliased, rfl⟩
    simp only [resolveProject, unnamed, unaliased, Bool.false_eq_true, if_false]

section

variable (list : ProjectList) (listed : converter.directory = list.directory) (name : String)

include listed

theorem search_listed (limit : Nat) :
    converter.directory.search name limit = .ok (list.search name limit) := by
  rw [listed]
  rfl

theorem suggestion_listed :
    converter.suggestion? name = (list.search name 1).head?.map (·.name) := by
  rw [suggestion?, converter.search_listed list listed]
  cases list.search name 1 <;> rfl

theorem fuzzy_listed (id : String) :
    converter.resolveProject name true = .ok id ↔
      ∃ project, (list.search name converter.options.fuzzyLimit).head? = some project ∧
        project.id = id := by
  rw [(converter.resolve_fuzzy name).1, converter.search_listed list listed]
  cases list.search name converter.options.fuzzyLimit <;> simp

theorem named_resolved (project : Project) (member : project ∈ list.projects) :
    ∃ id, converter.resolveProject project.name false = .ok id := by
  cases found : list.withName? project.name with
  | none => exact absurd rfl ((list.with_name_none_iff project.name).mp found project member)
  | some first =>
      have named : converter.directory.byName project.name = .ok (some first) := by
        rw [listed]
        exact congrArg Except.ok found
      exact ⟨first.id,
        ((converter.resolve_exact project.name).1 first.id).mpr (.inl ⟨first, named, rfl⟩)⟩

end

theorem project_suggested (list : ProjectList) (listed : converter.directory = list.directory)
    (positive : 1 ≤ converter.options.fuzzyLimit) (name : String) (suggestion : Option String)
    (refused : converter.verdict? clause = some (.projectNotFound name suggestion)) :
    (suggestion.isSome = true ↔ converter.accepts { clause with fuzzy := true } = true) ∧
      ∀ word, suggestion = some word → ∃ project,
        (list.search clause.value converter.options.fuzzyLimit).head? = some project ∧
        converter.ResolvesTo { clause with fuzzy := true } (.ok project.id) ∧
        project.name = word ∧ Text.lower word ≠ Text.lower clause.value ∧
        converter.accepts { clause with value := word } = true := by
  obtain ⟨plain, on, missed⟩ := converter.not_found_refused clause name suggestion
    ((converter.verdict_iff clause _).mp refused)
  obtain ⟨exactly, -, unnamed, -, rfl⟩ := (converter.missed_project_iff _ _ _ _).mp missed
  obtain ⟨affirmed, exact⟩ := plain_parts clause plain
  have fuzzyEdit := converter.edit_of_project { clause with fuzzy := true } plain on
  have fuzzyFound := converter.fuzzy_listed list listed clause.value
  rw [converter.suggestion_listed list listed, ← list.search_head clause.value _ positive,
    Option.isSome_map, accepts_iff, fuzzyEdit]
  simp only [map_ok_iff, fuzzyFound]
  constructor
  · cases (list.search clause.value converter.options.fuzzyLimit).head? <;> simp
  · intro word suggested
    obtain ⟨project, found, rfl⟩ := Option.map_eq_some_iff.mp suggested
    have member := list.found_in_list _ _ project (List.mem_of_mem_head? found)
    have different : ¬ project.IsNamed clause.value := by
      rw [listed] at unnamed
      exact (list.with_name_none_iff clause.value).mp (Except.ok.inj unnamed) project member
    obtain ⟨id, resolved⟩ := converter.named_resolved list listed project member
    refine ⟨project, found, ?_, rfl, different, ?_⟩
    · rw [converter.resolves_to_iff { clause with fuzzy := true } on affirmed exact]
      exact (fuzzyFound _).mpr ⟨project, found, rfl⟩
    · refine (converter.accepts_iff _).mpr ⟨.project id, ?_⟩
      rw [converter.edit_of_project { clause with value := project.name } plain on, exactly,
        resolved, Except.map]

theorem suggestions_sound_and_best :
    (∀ source target,
      IsLeast {count | Text.Edits count source target} (Text.editDistance source target)) ∧
    (∀ field value expected suggestion,
      converter.verdict? clause = some (.invalidValue field value expected suggestion) →
        ∃ closest, IsFirstLeast clause.distanceTo clause.field.keywords closest ∧
          0 < clause.distanceTo closest ∧
          suggestion = (if clause.distanceTo closest ≤ 3 then some closest else none) ∧
          converter.accepts { clause with value := closest } = true) ∧
    ∀ list : ProjectList, converter.directory = list.directory →
      1 ≤ converter.options.fuzzyLimit → ∀ name suggestion,
      converter.verdict? clause = some (.projectNotFound name suggestion) →
        (suggestion.isSome = true ↔ converter.accepts { clause with fuzzy := true } = true) ∧
        ∀ word, suggestion = some word → ∃ project,
          (list.search clause.value converter.options.fuzzyLimit).head? = some project ∧
          converter.ResolvesTo { clause with fuzzy := true } (.ok project.id) ∧
          project.name = word ∧ Text.lower word ≠ Text.lower clause.value ∧
          converter.accepts { clause with value := word } = true :=
  ⟨Text.edit_distance_least, converter.keyword_suggested clause,
    converter.project_suggested clause⟩

end

theorem misspelled_values_suggest :
    let list : ProjectList := ⟨[⟨"p1", "Backend", []⟩], 0⟩
    let converter : Converter := ⟨list.directory, {}, ⟨⟨0, 0⟩, ⟨0, []⟩⟩⟩
    let status : Clause := { field := .status, operator := .colon, value := " Pendng" }
    let project : Clause := { field := .project, operator := .colon, value := "bakend" }
    converter.verdict? status = some (.invalidValue .status " Pendng"
        "pending, in_progress, completed, cancelled" (some "pending")) ∧
      converter.accepts { status with value := "pending" } = true ∧
      1 ≤ converter.options.fuzzyLimit ∧
      converter.verdict? project = some (.projectNotFound "bakend" (some "Backend")) ∧
      converter.accepts { project with fuzzy := true } = true ∧
      converter.accepts { project with value := "Backend" } = true := by
  intro list converter status project
  have misspelled : converter.verdict? status = some (.invalidValue .status " Pendng"
      "pending, in_progress, completed, cancelled" (some "pending")) := by
    decide +kernel
  have found : list.search "bakend" 1 = [⟨"p1", "Backend", []⟩] := by
    have best : Fuzzy.rank "bakend" ["Backend"] 0 =
        [⟨"Backend", Fuzzy.score "bakend" "Backend", 0⟩] :=
      List.mergeSort_singleton _
    have candidates : list.candidates = [(0, "Backend")] := rfl
    simp only [ProjectList.search, ProjectList.ranked, candidates, List.map]
    simp only [list, best]
    rfl
  have missed : converter.verdict? project =
      some (.projectNotFound "bakend" (some "Backend")) := by
    have unnamed : list.withName? "bakend" = none := by decide
    have unaliased : list.withAlias? "bakend" = none := by decide
    have suggested : some "Backend" = converter.suggestion? "bakend" := by
      rw [converter.suggestion_listed list rfl, found]
      rfl
    have resolved := (converter.missed_project_iff "bakend" "bakend" false (some "Backend")).mpr
      ⟨rfl, rfl, congrArg Except.ok unnamed, congrArg Except.ok unaliased, suggested⟩
    rw [verdict_iff, converter.edit_of_project project rfl rfl]
    exact congrArg (Except.map FilterEdit.project) resolved
  obtain ⟨-, keywords, -⟩ := converter.suggestions_sound_and_best status
  obtain ⟨closest, -, -, same, corrected⟩ := keywords _ _ _ _ misspelled
  obtain rfl : "pending" = closest := by
    split at same
    · exact Option.some.inj same
    · cases same
  obtain ⟨-, -, projects⟩ := converter.suggestions_sound_and_best project
  have limit : 1 ≤ converter.options.fuzzyLimit := by decide
  obtain ⟨given, named⟩ := projects list rfl limit _ _ missed
  obtain ⟨_, -, -, -, -, accepted⟩ := named "Backend" rfl
  exact ⟨misspelled, corrected, limit, missed, given.mp rfl, accepted⟩

end Converter

end TaskSearch
