import Mathlib.Data.List.Chain
import TaskSearch.Proofs.Query.Span
import TaskSearch.Query.Clause

set_option autoImplicit false

namespace TaskSearch.Lexer

def Unclosed (quote : Char) (rest : List Char) : Prop :=
  (quote :: rest).IsChain fun before c => c = quote → before = '\\'

def escapeWith (quote : Char) : List Char → List Char
  | [] => []
  | c :: rest =>
      if c = quote then '\\' :: quote :: escapeWith quote rest else c :: escapeWith quote rest

def quoteWith (quote : Char) (value : List Char) : List Char :=
  quote :: (escapeWith quote value ++ [quote])

theorem escape_quotes_eq (value : List Char) :
    Clause.escapeQuotes value = escapeWith '"' value := by
  induction value with
  | nil => rfl
  | cons c rest ih => rw [Clause.escapeQuotes, escapeWith, ih]

section

variable (quote : Char)

theorem quoted_value_end (text value : List Char) (notSlash : quote ≠ '\\')
    (closed : Quoted quote text value) : value.getLast? ≠ some '\\' := by
  induction closed with
  | close => simp
  | escaped rest ih =>
      rename_i text value
      cases value with
      | nil => simpa using notSlash
      | cons c more => simpa using ih
  | plain different unescaped rest ih =>
      rename_i c text value
      cases value with
      | cons d more => simpa using ih
      | nil =>
          cases rest
          simpa using fun slash => unescaped slash rfl

theorem escape_not_quote (value : List Char) (nonempty : value ≠ []) (notSlash : quote ≠ '\\') :
    (escapeWith quote value ++ [quote]).head? ≠ some quote := by
  cases value with
  | nil => exact absurd rfl nonempty
  | cons c rest =>
      by_cases same : c = quote
      · simp [escapeWith, same, notSlash.symm]
      · simp [escapeWith, same]

theorem quoted_escape (value : List Char) (notSlash : quote ≠ '\\')
    (ended : value.getLast? ≠ some '\\') :
    Quoted quote (escapeWith quote value ++ [quote]) value := by
  induction value with
  | nil => exact .close
  | cons c rest ih =>
      have endedRest : rest.getLast? ≠ some '\\' := by
        cases rest with
        | nil => simp
        | cons d more => simpa using ended
      by_cases same : c = quote
      · subst same
        rw [escapeWith, if_pos rfl]
        exact .escaped (ih endedRest)
      · rw [escapeWith, if_neg same]
        refine .plain same (fun slash => escape_not_quote quote rest ?_ notSlash) (ih endedRest)
        rintro rfl
        simp [slash] at ended

theorem unclosed_cons (c : Char) (rest : List Char) (notSlash : quote ≠ '\\')
    (different : c ≠ quote) (unescaped : c = '\\' → rest.head? ≠ some quote) :
    Unclosed quote (c :: rest) ↔ Unclosed quote rest := by
  cases rest with
  | nil => simp [Unclosed, different]
  | cons d more =>
      have apart : (d = quote → c = '\\') ↔ d ≠ quote :=
        ⟨fun slash same => unescaped (slash same) (congrArg some same),
          fun other same => absurd same other⟩
      simp [Unclosed, different, apart, notSlash]

theorem scan_quoted_none_iff (rest : List Char) (notSlash : quote ≠ '\\') :
    scanQuoted quote rest = none ↔ Unclosed quote rest := by
  induction rest using scanQuoted.induct quote with
  | case1 => simp [scanQuoted, Unclosed]
  | case2 rest ih =>
      rw [scanQuoted, if_pos rfl, Option.map_eq_none_iff, ih]
      simp [Unclosed, notSlash.symm]
  | case3 c rest different ih =>
      rw [scanQuoted, if_neg different, Option.map_eq_none_iff, ih,
        unclosed_cons quote '\\' (c :: rest) notSlash notSlash.symm]
      simpa using different
  | case4 rest alone =>
      rw [scanQuoted, if_pos rfl]
      · simp [Unclosed, notSlash]
      · exact alone
  | case5 c rest alone different ih =>
      have unescaped : c = '\\' → rest.head? ≠ some quote := by
        intro slash head
        obtain ⟨more, rfl⟩ := List.head?_eq_some_iff.mp head
        exact alone quote more slash rfl
      rw [scan_quoted_plain quote c rest different unescaped, Option.map_eq_none_iff, ih,
        unclosed_cons quote c rest notSlash different unescaped]

theorem escape_unclosed (value : List Char) (notSlash : quote ≠ '\\')
    (ended : value.getLast? = some '\\') : Unclosed quote (escapeWith quote value ++ [quote]) := by
  induction value with
  | nil => simp at ended
  | cons c rest ih =>
      cases rest with
      | nil =>
          obtain rfl : c = '\\' := by simpa using ended
          simp [escapeWith, Unclosed, notSlash.symm]
      | cons d more =>
          have later := ih (by simpa using ended)
          by_cases same : c = quote
          · rw [escapeWith, if_pos same]
            simpa [Unclosed, notSlash.symm] using later
          · have apart := escape_not_quote quote (d :: more) (List.cons_ne_nil d more) notSlash
            rw [escapeWith, if_neg same, List.cons_append,
              unclosed_cons quote c _ notSlash same fun _ => apart]
            exact later

end

end TaskSearch.Lexer
