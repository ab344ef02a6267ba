import TaskSearch.Proofs.Conversion.Edit

set_option autoImplicit false

namespace TaskSearch

def Project.IsNamed (name : String) (project : Project) : Prop :=
  Text.lower project.name = Text.lower name

def Project.HasAlias (name : String) (project : Project) : Prop :=
  ∃ aliasName ∈ project.aliases, Text.lower aliasName = Text.lower name

namespace ProjectList

def IsFirst (list : ProjectList) (holds : Project → Prop) (project : Project) : Prop :=
  ∃ before after, list.projects = before ++ project :: after ∧ holds project ∧
    ∀ other ∈ before, ¬ holds other

theorem find_first_iff (list : ProjectList) (test : Project → Bool) (holds : Project → Prop)
    (tested : ∀ project, test project = true ↔ holds project) (project : Project) :
    list.projects.find? test = some project ↔ list.IsFirst holds project := by
  simp only [IsFirst, List.find?_eq_some_iff_append, Bool.not_eq_true', ← Bool.not_eq_true, tested]
  constructor
  · intro ⟨here, before, after, split, missed⟩
    exact ⟨before, after, split, here, missed⟩
  · intro ⟨before, after, split, here, missed⟩
    exact ⟨here, before, after, split, missed⟩

theorem with_name_iff (list : ProjectList) (name : String) (project : Project) :
    list.withName? name = some project ↔ list.IsFirst (Project.IsNamed name) project :=
  list.find_first_iff _ _ (fun _ => beq_iff_eq) project

theorem with_name_none_iff (list : ProjectList) (name : String) :
    list.withName? name = none ↔ ∀ project ∈ list.projects, ¬ project.IsNamed name := by
  simp [withName?, Project.IsNamed]

theorem with_alias_iff (list : ProjectList) (name : String) (project : Project) :
    list.withAlias? name = some project ↔ list.IsFirst (Project.HasAlias name) project :=
  list.find_first_iff _ _ (fun _ => by simp [Project.HasAlias]) project

end ProjectList

inductive Rejection.OfLookup (name : String) : Rejection → Prop where
  | notFound (suggestion : Option String) : OfLookup name (.projectNotFound name suggestion)
  | noMatch : OfLookup name (.noFuzzyMatch name)
  | failed (failure : LookupFailure) : OfLookup name (.lookupFailed failure)

namespace Converter

theorem resolve_rejected (converter : Converter) (name : String) (fuzzy : Bool)
    (rejection : Rejection) (failed : converter.resolveProject name fuzzy = .error rejection) :
    Rejection.OfLookup name rejection := by
  unfold resolveProject at failed
  repeat' split at failed
  all_goals cases failed
  all_goals constructor

section

variable (converter : Converter) (name : String)

theorem resolve_fuzzy :
    (∀ id, converter.resolveProject name true = .ok id ↔ ∃ project more,
      converter.directory.search name converter.options.fuzzyLimit = .ok (project :: more) ∧
        project.id = id) ∧
    (converter.resolveProject name true = .error (.noFuzzyMatch name) ↔
      converter.directory.search name converter.options.fuzzyLimit = .ok []) ∧
    ∀ failure, converter.resolveProject name true = .error (.lookupFailed failure) ↔
      converter.directory.search name converter.options.fuzzyLimit = .error failure := by
  unfold resolveProject
  rw [if_pos rfl]
  cases converter.directory.search name converter.options.fuzzyLimit with
  | error failure => simp
  | ok hits =>
      cases hits with
      | nil => simp
      | cons project more => simp

theorem resolve_exact :
    (∀ id, converter.resolveProject name false = .ok id ↔
      (∃ project, converter.directory.byName name = .ok (some project) ∧ project.id = id) ∨
      converter.directory.byName name = .ok none ∧
        ∃ project, converter.directory.byAlias name = .ok (some project) ∧ project.id = id) ∧
    (∀ failure, converter.resolveProject name false = .error (.lookupFailed failure) ↔
      converter.directory.byName name = .error failure ∨
      converter.directory.byName name = .ok none ∧
        converter.directory.byAlias name = .error failure) ∧
    ((∃ suggestion,
        converter.resolveProject name false = .error (.projectNotFound name suggestion)) ↔
      converter.directory.byName name = .ok none ∧ converter.directory.byAlias name = .ok none) := by
  unfold resolveProject
  rw [if_neg Bool.false_ne_true]
  cases converter.directory.byName name with
  | error failure => simp
  | ok named =>
      cases named with
      | some project => simp
      | none =>
          cases converter.directory.byAlias name with
          | error failure => simp
          | ok other =>
              cases other with
              | some project => simp
              | none => simp

theorem resolve_listed (list : ProjectList) (listed : converter.directory = list.directory)
    (id : String) :
    converter.resolveProject name false = .ok id ↔ ∃ project, project.id = id ∧
      (list.IsFirst (Project.IsNamed name) project ∨
        (∀ other ∈ list.projects, ¬ other.IsNamed name) ∧
          list.IsFirst (Project.HasAlias name) project) := by
  rw [(converter.resolve_exact name).1, listed, ← list.with_name_none_iff]
  simp only [ProjectList.directory, Except.ok.injEq, ← list.with_name_iff, ← list.with_alias_iff]
  constructor
  · rintro (⟨project, named, same⟩ | ⟨unnamed, project, aliased, same⟩)
    · exact ⟨project, same, .inl named⟩
    · exact ⟨project, same, .inr ⟨unnamed, aliased⟩⟩
  · rintro ⟨project, same, named | ⟨unnamed, aliased⟩⟩
    · exact .inl ⟨project, named, same⟩
    · exact .inr ⟨unnamed, project, aliased, same⟩

end

-- What a clause on a project comes to over every filter: the project that it sets, or the reason
-- why it is rejected.
def ResolvesTo (converter : Converter) (clause : Clause) : Except Rejection String → Prop
  | .ok id => ∀ filter : Filter,
      converter.applyTo clause filter = (.ok (), { filter with projectId := some id })
  | .error rejection => ∀ filter, converter.applyTo clause filter = (.error rejection, filter)

section

variable (converter : Converter) (clause : Clause) (on : clause.field = .project)
  (plain : clause.negated = false) (exact : clause.operator.isExact = true)

include on plain exact

theorem apply_resolves (filter : Filter) :
    converter.applyTo clause filter =
      settle filter ((converter.resolveProject clause.value clause.fuzzy).map .project) := by
  have passed : requirePlain clause = .ok () := by
    simp [requirePlain, requireNotNegated, requireExact, plain, exact, bind, Except.bind]
  rw [apply_settles, editOf, on, passed]
  rfl

theorem resolves_to_iff (outcome : Except Rejection String) :
    converter.ResolvesTo clause outcome ↔
      converter.resolveProject clause.value clause.fuzzy = outcome := by
  have applied := converter.apply_resolves clause on plain exact
  have inhabited : Nonempty Filter := ⟨{}⟩
  cases resolved : converter.resolveProject clause.value clause.fuzzy with
  | ok found =>
      simp only [resolved, Except.map, settle, Filter.edit] at applied
      cases outcome with
      | ok id => simp [ResolvesTo, applied]
      | error rejection => simp [ResolvesTo, applied]
  | error reason =>
      simp only [resolved, Except.map, settle] at applied
      cases outcome with
      | ok id => simp [ResolvesTo, applied]
      | error rejection => simp [ResolvesTo, applied]

theorem project_clauses_resolve :
    (clause.fuzzy = true →
      (∀ id, converter.ResolvesTo clause (.ok id) ↔ ∃ project more,
        converter.directory.search clause.value converter.options.fuzzyLimit =
          .ok (project :: more) ∧ project.id = id) ∧
      (converter.ResolvesTo clause (.error (.noFuzzyMatch clause.value)) ↔
        converter.directory.search clause.value converter.options.fuzzyLimit = .ok []) ∧
      (∀ failure, converter.ResolvesTo clause (.error (.lookupFailed failure)) ↔
        converter.directory.search clause.value converter.options.fuzzyLimit = .error failure) ∧
      ∀ byName byAlias filter,
        { converter with directory := { converter.directory with byName, byAlias } }.applyTo
          clause filter = converter.applyTo clause filter) ∧
    (clause.fuzzy = false →
      (∀ id, converter.ResolvesTo clause (.ok id) ↔
        (∃ project, converter.directory.byName clause.value = .ok (some project) ∧
          project.id = id) ∨
        converter.directory.byName clause.value = .ok none ∧
          ∃ project, converter.directory.byAlias clause.value = .ok (some project) ∧
            project.id = id) ∧
      (∀ failure, converter.ResolvesTo clause (.error (.lookupFailed failure)) ↔
        converter.directory.byName clause.value = .error failure ∨
        converter.directory.byName clause.value = .ok none ∧
          converter.directory.byAlias clause.value = .error failure) ∧
      ((∃ suggestion,
          converter.ResolvesTo clause (.error (.projectNotFound clause.value suggestion))) ↔
        converter.directory.byName clause.value = .ok none ∧
          converter.directory.byAlias clause.value = .ok none) ∧
      ∀ list : ProjectList, converter.directory = list.directory →
        ∀ id, converter.ResolvesTo clause (.ok id) ↔ ∃ project, project.id = id ∧
          (list.IsFirst (Project.IsNamed clause.value) project ∨
            (∀ other ∈ list.projects, ¬ other.IsNamed clause.value) ∧
              list.IsFirst (Project.HasAlias clause.value) project)) := by
  have resolves := converter.resolves_to_iff clause on plain exact
  refine ⟨fun fuzzy => ?_, fun exactly => ?_⟩
  · simp only [resolves, fuzzy]
    obtain ⟨found, missed, failed⟩ := converter.resolve_fuzzy clause.value
    refine ⟨found, missed, failed, fun byName byAlias filter => ?_⟩
    rw [apply_resolves _ clause on plain exact, apply_resolves _ clause on plain exact, fuzzy]
    rfl
  · simp only [resolves, exactly]
    obtain ⟨found, failed, missed⟩ := converter.resolve_exact clause.value
    exact ⟨found, failed, missed, fun list listed id =>
      converter.resolve_listed clause.value list listed id⟩

end

theorem name_before_failing_alias :
    let web : Project := ⟨"p2", "Web", ["ui"]⟩
    let directory : ProjectDirectory :=
      { byName := fun name => .ok (if name = "web" then some web else none)
        byAlias := fun _ => .error ⟨"aliases are down"⟩
        search := fun _ _ => .error ⟨"search is down"⟩ }
    let converter : Converter := ⟨directory, {}, ⟨⟨0, 0⟩, ⟨0, []⟩⟩⟩
    let clause : Clause := { field := .project, operator := .equal, value := "web" }
    clause.field = .project ∧ clause.negated = false ∧ clause.operator.isExact = true ∧
      clause.fuzzy = false ∧ converter.ResolvesTo clause (.ok "p2") := by
  intro web directory converter clause
  have all := converter.project_clauses_resolve clause rfl rfl rfl
  exact ⟨rfl, rfl, rfl, rfl, ((all.2 rfl).1 "p2").mpr (.inl ⟨web, rfl, rfl⟩)⟩

end Converter

end TaskSearch
