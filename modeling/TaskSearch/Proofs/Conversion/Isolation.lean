import TaskSearch.Proofs.Conversion.Edit

set_option autoImplicit false

namespace TaskSearch.Converter

def verdict? (converter : Converter) (clause : Clause) : Option Rejection :=
  match (converter.applyTo clause {}).1 with
  | .ok () => none
  | .error rejection => some rejection

def accepts (converter : Converter) (clause : Clause) : Bool :=
  (converter.verdict? clause).isNone

def listed? (converter : Converter) (clause : Clause) : Option RejectedClause :=
  (converter.verdict? clause).map (⟨clause, ·⟩)

def after (converter : Converter) (filter : Filter) (clause : Clause) : Filter :=
  (converter.applyTo clause filter).2

theorem verdict_of_edit (converter : Converter) (clause : Clause) :
    converter.verdict? clause =
      match converter.editOf clause with
      | .ok _ => none
      | .error rejection => some rejection := by
  unfold verdict?
  rw [apply_settles]
  cases converter.editOf clause <;> rfl

theorem apply_of_verdict (converter : Converter) (clause : Clause) (filter : Filter) :
    converter.applyTo clause filter =
      match converter.verdict? clause with
      | none => (.ok (), converter.after filter clause)
      | some rejection => (.error rejection, filter) := by
  unfold after
  rw [apply_settles, verdict_of_edit]
  cases converter.editOf clause <;> rfl

theorem apply_all_cons (converter : Converter) (clause : Clause) (clauses : List Clause)
    (filter : Filter) :
    (converter.applyAll (clause :: clauses)).run filter =
      match converter.applyTo clause filter with
      | (.ok (), next) => (converter.applyAll clauses).run next
      | (.error rejection, next) =>
          (⟨clause, rejection⟩ :: ((converter.applyAll clauses).run next).1,
            ((converter.applyAll clauses).run next).2) := by
  rcases outcome : converter.applyTo clause filter with ⟨result, next⟩
  unfold applyTo at outcome
  rw [applyAll, StateT.run_bind, outcome]
  cases result <;> rfl

theorem accepted_or_listed (converter : Converter) (clause : Clause) :
    (converter.verdict? clause = none ∧ converter.accepts clause = true ∧
        converter.listed? clause = none) ∨
      ∃ rejection, converter.verdict? clause = some rejection ∧ converter.accepts clause = false ∧
        converter.listed? clause = some ⟨clause, rejection⟩ := by
  unfold accepts listed?
  cases converter.verdict? clause with
  | none => exact .inl ⟨rfl, rfl, rfl⟩
  | some rejection => exact .inr ⟨rejection, rfl, rfl, rfl⟩

theorem apply_all_run (converter : Converter) (clauses : List Clause) (filter : Filter) :
    (converter.applyAll clauses).run filter =
      (clauses.filterMap converter.listed?,
        (clauses.filter converter.accepts).foldl converter.after filter) := by
  induction clauses generalizing filter with
  | nil => rfl
  | cons clause clauses ih =>
      rw [apply_all_cons, apply_of_verdict]
      rcases converter.accepted_or_listed clause with
        ⟨verdict, accepted, unlisted⟩ | ⟨rejection, verdict, refused, listed⟩
      · simp [verdict, ih, accepted, unlisted]
      · simp [verdict, ih, refused, listed]

theorem listed_of_accepted (converter : Converter) (clauses : List Clause) :
    (clauses.filter converter.accepts).filterMap converter.listed? = [] := by
  rw [List.filterMap_eq_nil_iff]
  intro clause member
  have accepted : converter.verdict? clause = none := by
    simpa [accepts] using (List.mem_filter.mp member).2
  simp [listed?, accepted]

theorem accepted_add_listed (converter : Converter) (clauses : List Clause) :
    (clauses.filter converter.accepts).length + (clauses.filterMap converter.listed?).length =
      clauses.length := by
  induction clauses with
  | nil => rfl
  | cons clause clauses ih =>
      rcases converter.accepted_or_listed clause with
        ⟨_, accepted, unlisted⟩ | ⟨rejection, _, refused, listed⟩
      · rw [List.filter_cons_of_pos accepted, List.filterMap_cons_none unlisted]
        simp only [List.length_cons]
        omega
      · rw [List.filter_cons_of_neg (by simp [refused]), List.filterMap_cons_some listed]
        simp only [List.length_cons]
        omega

theorem convert_clauses_isolated (converter : Converter) (clauses : List Clause)
    (search : String) :
    (∀ clause filter, converter.applyTo clause filter =
      match converter.verdict? clause with
      | none => (.ok (), converter.after filter clause)
      | some rejection => (.error rejection, filter)) ∧
    (converter.convertClauses clauses search).rejected = clauses.filterMap converter.listed? ∧
    (converter.convertClauses clauses search).filter =
      (clauses.filter converter.accepts).foldl converter.after (converter.initialFilter search) ∧
    converter.convertClauses (clauses.filter converter.accepts) search =
      ⟨(converter.convertClauses clauses search).filter, []⟩ ∧
    (clauses.filter converter.accepts).length +
      (converter.convertClauses clauses search).rejected.length = clauses.length := by
  have converted (clauses : List Clause) : converter.convertClauses clauses search =
      ⟨(clauses.filter converter.accepts).foldl converter.after (converter.initialFilter search),
        clauses.filterMap converter.listed?⟩ := by
    unfold convertClauses
    rw [apply_all_run]
  refine ⟨converter.apply_of_verdict, ?_, ?_, ?_, ?_⟩
  · rw [converted]
  · rw [converted]
  · rw [converted, converted, listed_of_accepted, List.filter_filter]
    simp only [Bool.and_self]
  · rw [converted]
    exact accepted_add_listed converter clauses

end TaskSearch.Converter
