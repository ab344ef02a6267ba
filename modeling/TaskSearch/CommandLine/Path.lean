set_option autoImplicit false

namespace TaskSearch.CommandLine

def joinPath (path name : String) : String :=
  if path.isEmpty || path.toList.getLast? = some '/' then path ++ name else path ++ "/" ++ name

def trimEnding : List Char → List Char
  | '/' :: rest => trimEnding rest
  | '.' :: '/' :: rest => trimEnding rest
  | path => path

def parentPath? (path : String) : Option String :=
  match trimEnding path.toList.reverse with
  | [] => none
  | named =>
      let above := named.dropWhile (· != '/')
      let trimmed := trimEnding above
      let kept := if trimmed.isEmpty then above.take 1 else trimmed
      some (String.ofList kept.reverse)

theorem trimEnding_length_le (path : List Char) : (trimEnding path).length ≤ path.length := by
  fun_induction trimEnding path with
  | case1 rest shorter => simp only [List.length_cons]; omega
  | case2 rest shorter => simp only [List.length_cons]; omega
  | case3 path => exact Nat.le_refl _

theorem head?_trimEnding (path : List Char) : (trimEnding path).head? ≠ some '/' := by
  fun_induction trimEnding path with
  | case1 rest noSlash => exact noSlash
  | case2 rest noSlash => exact noSlash
  | case3 path other => cases path <;> simp_all

theorem parentPath?_length_lt (path above : String) (found : parentPath? path = some above) :
    above.length < path.length := by
  have noSlash := head?_trimEnding path.toList.reverse
  have bound := trimEnding_length_le path.toList.reverse
  rw [List.length_reverse, String.length_toList] at bound
  unfold parentPath? at found
  generalize trimEnding path.toList.reverse = named at noSlash bound found
  cases named with
  | nil => simp at found
  | cons c rest =>
    have named : (c != '/') = true := by simpa using noSlash
    have dropped := (List.dropWhile_sublist (l := rest) (· != '/')).length_le
    have trimmed := trimEnding_length_le (rest.dropWhile (· != '/'))
    simp only [List.dropWhile_cons, named, if_true, Option.some.injEq] at found
    subst found
    rw [String.length_ofList, List.length_reverse]
    simp only [List.length_cons] at bound
    split
    · rw [List.length_take]; omega
    · omega

def pathAndAbove (path : String) : List String :=
  if path.isEmpty then []
  else
    match _ : parentPath? path with
    | some above => path :: pathAndAbove above
    | none => [path]
termination_by path.length
decreasing_by exact parentPath?_length_lt _ _ ‹_›

def splitPath : List Char → List (List Char)
  | [] => [[]]
  | c :: rest =>
      if c = '/' then [] :: splitPath rest
      else
        match splitPath rest with
        | [] => [[c]]
        | part :: parts => (c :: part) :: parts

def pathParts (path : String) : List String :=
  (splitPath path.toList).map String.ofList

def splitLast (parts : List String) : List String × String :=
  match parts.reverse.dropWhile String.isEmpty with
  | [] => ([], "")
  | name :: above => (above.reverse, name)

end TaskSearch.CommandLine
