set_option autoImplicit false

namespace TaskSearch.Text

-- A character class is given by the ranges of code points it covers, both ends included.
def inRanges (ranges : List (Nat × Nat)) (c : Char) : Bool :=
  ranges.any fun range => range.1 ≤ c.toNat && c.toNat ≤ range.2

theorem inRanges_iff (ranges : List (Nat × Nat)) (c : Char) :
    inRanges ranges c = true ↔ ∃ range ∈ ranges, range.1 ≤ c.toNat ∧ c.toNat ≤ range.2 := by
  simp [inRanges]

-- The code points with the property White_Space.
def blankRanges : List (Nat × Nat) :=
  [(0x9, 0xD), (0x20, 0x20), (0x85, 0x85), (0xA0, 0xA0), (0x1680, 0x1680), (0x2000, 0x200A),
    (0x2028, 0x2029), (0x202F, 0x202F), (0x205F, 0x205F), (0x3000, 0x3000)]

def isBlank (c : Char) : Bool :=
  inRanges blankRanges c

def trimBlanks (cs : List Char) : List Char :=
  ((cs.dropWhile isBlank).reverse.dropWhile isBlank).reverse

def trim (text : String) : String :=
  String.ofList (trimBlanks text.toList)

def blankSeparated (cs : List Char) : List (List Char) :=
  match _ : cs.dropWhile isBlank with
  | [] => []
  | c :: rest =>
      (c :: rest.takeWhile (!isBlank ·)) :: blankSeparated (rest.dropWhile (!isBlank ·))
termination_by cs.length
decreasing_by
  have skipped := (List.dropWhile_sublist (l := cs) isBlank).length_le
  have word := (List.dropWhile_sublist (l := rest) (!isBlank ·)).length_le
  simp only [‹cs.dropWhile isBlank = c :: rest›, List.length_cons] at skipped
  omega

def words (text : String) : List String :=
  (blankSeparated text.toList).map String.ofList

end TaskSearch.Text
