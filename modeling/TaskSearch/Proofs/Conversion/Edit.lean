import TaskSearch.Conversion

set_option autoImplicit false

namespace TaskSearch

open Date (DateCondition)

inductive FilterEdit where
  | status (status : Status)
  | priority (priority : Priority)
  | project (id : String)
  | includeTag (tag : String)
  | excludeTag (tag : String)
  | date (field : Field) (condition : DateCondition)
deriving DecidableEq, Repr

namespace Filter

def edit (filter : Filter) : FilterEdit → Filter
  | .status status => { filter with status := some status }
  | .priority priority => { filter with priority := some priority }
  | .project id => { filter with projectId := some id }
  | .includeTag tag => { filter with tags := addTag filter.tags tag }
  | .excludeTag tag => { filter with excludedTags := addTag filter.excludedTags tag }
  | .date field condition => filter.narrowDate field condition

end Filter

namespace Converter

def dateEdit (converter : Converter) (clause : Clause) : Except Rejection FilterEdit :=
  match Date.parseCondition clause.value clause.operator converter.clock with
  | .ok condition => .ok (.date clause.field condition)
  | .error error => .error (.invalidDate clause.field error)

def editOf (converter : Converter) (clause : Clause) : Except Rejection FilterEdit :=
  match clause.field with
  | .status => requirePlain clause >>= fun _ => (readKeyword Status clause).map .status
  | .priority => requirePlain clause >>= fun _ => (readKeyword Priority clause).map .priority
  | .project =>
      requirePlain clause >>= fun _ =>
        (converter.resolveProject clause.value clause.fuzzy).map .project
  | .tag =>
      requireExact clause >>= fun _ =>
        if (Text.trim clause.value).isEmpty then .error .emptyTag
        else if clause.negated then .ok (.excludeTag (Text.trim clause.value))
        else .ok (.includeTag (Text.trim clause.value))
  | .due | .created | .updated =>
      requireNotNegated clause >>= fun _ => converter.dateEdit clause

def applyTo (converter : Converter) (clause : Clause) (filter : Filter) :
    Except Rejection Unit × Filter :=
  (converter.apply clause).run.run filter

def settle (filter : Filter) : Except Rejection FilterEdit → Except Rejection Unit × Filter
  | .ok edit => (.ok (), filter.edit edit)
  | .error rejection => (.error rejection, filter)

theorem apply_settles (converter : Converter) (clause : Clause) (filter : Filter) :
    converter.applyTo clause filter = settle filter (converter.editOf clause) := by
  unfold applyTo apply editOf dateEdit
  cases clause.field with
  | status =>
      cases requirePlain clause with
      | error rejection => rfl
      | ok => cases readKeyword Status clause <;> rfl
  | priority =>
      cases requirePlain clause with
      | error rejection => rfl
      | ok => cases readKeyword Priority clause <;> rfl
  | project =>
      cases requirePlain clause with
      | error rejection => rfl
      | ok => cases converter.resolveProject clause.value clause.fuzzy <;> rfl
  | tag =>
      cases requireExact clause with
      | error rejection => rfl
      | ok =>
          by_cases empty : (Text.trim clause.value).isEmpty
          · simp only [empty, if_true]
            rfl
          · simp only [empty]
            cases clause.negated <;> rfl
  | due | created | updated =>
      cases requireNotNegated clause with
      | error rejection => rfl
      | ok => cases Date.parseCondition clause.value clause.operator converter.clock <;> rfl

end Converter

end TaskSearch
