import Mathlib.Data.List.DropRight
import TaskSearch.CommandLine.Path

set_option autoImplicit false

namespace TaskSearch.CommandLine

structure IsPlainName (name : String) : Prop where
  nonempty : name ≠ ""
  notHere : name ≠ "."
  notAbove : name ≠ ".."
  noSlash : '/' ∉ name.toList

def plainPath (names : List String) : String :=
  "/".intercalate names

theorem plain_path_cons (name : String) (names : List String) (nonempty : names ≠ []) :
    (plainPath (name :: names)).toList = name.toList ++ '/' :: (plainPath names).toList := by
  obtain ⟨next, more, rfl⟩ := List.exists_cons_of_ne_nil nonempty
  simp [plainPath, String.intercalate_cons_cons, String.toList_append]

theorem plain_path_snoc (names : List String) (name : String) (nonempty : names ≠ []) :
    (plainPath (names ++ [name])).toList = (plainPath names).toList ++ '/' :: name.toList := by
  induction names with
  | nil => exact absurd rfl nonempty
  | cons first rest ih =>
      rw [List.cons_append, plain_path_cons first _ (by simp)]
      by_cases none : rest = []
      · simp [none, plainPath]
      · rw [ih none, plain_path_cons first rest none, List.append_assoc, List.cons_append]

theorem split_no_slash (name : List Char) (noSlash : '/' ∉ name) : splitPath name = [name] := by
  induction name with
  | nil => rfl
  | cons c rest ih =>
      rw [List.mem_cons, not_or] at noSlash
      rw [splitPath, if_neg (Ne.symm noSlash.1), ih noSlash.2]

theorem split_at_slash (name after : List Char) (noSlash : '/' ∉ name) :
    splitPath (name ++ '/' :: after) = name :: splitPath after := by
  induction name with
  | nil => rfl
  | cons c rest ih =>
      rw [List.mem_cons, not_or] at noSlash
      rw [List.cons_append, splitPath, if_neg (Ne.symm noSlash.1), ih noSlash.2]

theorem plain_path_parts (names : List String) (nonempty : names ≠ [])
    (plain : ∀ name ∈ names, IsPlainName name) : pathParts (plainPath names) = names := by
  induction names with
  | nil => exact absurd rfl nonempty
  | cons name rest ih =>
      obtain ⟨first, others⟩ := List.forall_mem_cons.mp plain
      by_cases none : rest = []
      · simp [none, plainPath, pathParts, split_no_slash _ first.noSlash]
      · have parts := ih none others
        rw [pathParts] at parts ⊢
        rw [plain_path_cons name rest none, split_at_slash _ _ first.noSlash, List.map_cons, parts,
          String.ofList_toList]

theorem trim_plain (name : String) (plain : IsPlainName name) (after : List Char) :
    trimEnding (name.toList.reverse ++ after) = name.toList.reverse ++ after := by
  have nonempty : name.toList.reverse ≠ [] := by simpa using plain.nonempty
  have inside : ∀ c ∈ name.toList.reverse, c ≠ '/' := by
    rintro c member rfl
    exact plain.noSlash (by simpa using member)
  have notHere : name.toList.reverse ≠ ['.'] := by
    intro same
    have chars : name.toList = ['.'] := by simpa using congrArg List.reverse same
    exact plain.notHere (String.toList_inj.mp chars)
  generalize name.toList.reverse = cs at *
  cases cs with
  | nil => exact absurd rfl nonempty
  | cons c rest =>
      obtain ⟨first, others⟩ := List.forall_mem_cons.mp inside
      rw [List.cons_append, trimEnding]
      · exact fun tail same => first (List.cons.inj same).1
      · intro tail same
        obtain ⟨rfl, below⟩ := List.cons.inj same
        cases rest with
        | nil => exact notHere rfl
        | cons d more => exact others d List.mem_cons_self (List.cons.inj below).1

theorem plain_path_reversed (names : List String) (name : String) :
    ∃ after, (plainPath (names ++ [name])).toList.reverse = name.toList.reverse ++ after := by
  by_cases none : names = []
  · exact ⟨[], by simp [none, plainPath]⟩
  · exact ⟨'/' :: (plainPath names).toList.reverse, by rw [plain_path_snoc names name none]; simp⟩

theorem plain_path_parent (names : List String) (name : String)
    (plain : ∀ other ∈ names ++ [name], IsPlainName other) :
    parentPath? (plainPath (names ++ [name])) = some (plainPath names) := by
  have last := plain name (by simp)
  have skipped (after : List Char) (ended : ∀ c ∈ after.head?, c = '/') :
      (name.toList.reverse ++ after).dropWhile (· != '/') = after := by
    rw [List.dropWhile_append_of_pos]
    · cases after with
      | nil => rfl
      | cons c more => simp [ended c rfl]
    · intro c member
      have inside : c ∈ name.toList := by simpa using member
      simpa using fun (same : c = '/') => last.noSlash (same ▸ inside)
  have named (after : List Char) (ended : ∀ c ∈ after.head?, c = '/')
      (reversed : (plainPath (names ++ [name])).toList.reverse = name.toList.reverse ++ after) :
      parentPath? (plainPath (names ++ [name])) =
        some (String.ofList (if (trimEnding after).isEmpty then after.take 1
          else trimEnding after).reverse) := by
    have nonempty : name.toList.reverse ++ after ≠ [] := by simp [last.nonempty]
    rw [parentPath?, reversed, trim_plain name last after]
    split
    · exact absurd ‹_› nonempty
    · rw [skipped after ended]
  obtain rfl | ⟨above, before, rfl⟩ := List.eq_nil_or_concat' names
  · rw [named [] (by simp) (by simp [plainPath])]
    rfl
  · rw [named ('/' :: (plainPath (above ++ [before])).toList.reverse) (by simp)
      (by rw [plain_path_snoc _ name (by simp)]; simp)]
    obtain ⟨after, reversed⟩ := plain_path_reversed above before
    have kept : trimEnding ('/' :: (plainPath (above ++ [before])).toList.reverse) =
        (plainPath (above ++ [before])).toList.reverse := by
      rw [trimEnding, reversed, trim_plain before (plain before (by simp)) after]
    have nonempty : (plainPath (above ++ [before])).toList.reverse ≠ [] := by
      rw [reversed]
      simp [(plain before (by simp)).nonempty]
    rw [kept, if_neg (by simpa using nonempty), List.reverse_reverse, String.ofList_toList]

theorem plain_path_nonempty (names : List String) (name : String) (plain : IsPlainName name) :
    plainPath (names ++ [name]) ≠ "" := by
  intro same
  obtain ⟨after, reversed⟩ := plain_path_reversed names name
  rw [same] at reversed
  have none : name.toList = [] := by simpa using (List.append_eq_nil_iff.mp reversed.symm).1
  exact plain.nonempty (String.toList_eq_nil_iff.mp none)

theorem plain_path_above (names : List String) (plain : ∀ name ∈ names, IsPlainName name)
    (above : String) (member : above ∈ pathAndAbove (plainPath names)) :
    ∃ front, front <+: names ∧ front ≠ [] ∧ above = plainPath front := by
  induction names using List.reverseRecOn with
  | nil =>
      rw [pathAndAbove, if_pos (by rfl)] at member
      exact absurd member List.not_mem_nil
  | append_singleton names name ih =>
      have last := plain name (by simp)
      have nonempty : ¬ (plainPath (names ++ [name])).isEmpty = true := by
        simpa using plain_path_nonempty names name last
      rw [pathAndAbove, if_neg nonempty] at member
      split at member
      · rename_i parent found
        rw [plain_path_parent names name plain] at found
        cases found
        rcases List.mem_cons.mp member with rfl | further
        · exact ⟨_, List.prefix_rfl, by simp, rfl⟩
        · obtain ⟨front, shorter, begun, rfl⟩ :=
            ih (fun other inside => plain other (List.mem_append_left _ inside)) further
          exact ⟨front, shorter.trans (List.prefix_append _ _), begun, rfl⟩
      · rename_i none
        rw [plain_path_parent names name plain] at none
        cases none

end TaskSearch.CommandLine
