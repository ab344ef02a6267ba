import TaskSearch.Text.LetterCase

set_option autoImplicit false

namespace TaskSearch.Text

def meetsCased (cs : List Char) : Bool :=
  match cs.dropWhile isCaseIgnorable with
  | [] => false
  | c :: _ => isCased c

-- The small form of `c` between `before`, nearest character first, and `after`.
def lowerAt (before : List Char) (c : Char) (after : List Char) : List Char :=
  if c = 'Σ' then
    if meetsCased before && !meetsCased after then ['ς'] else ['σ']
  else if c = 'İ' then ['i', '\u0307']
  else [smallLetter c]

def lowerAfter (before : List Char) : List Char → List Char
  | [] => []
  | c :: rest => lowerAt before c rest ++ lowerAfter (c :: before) rest

def lowerChars (cs : List Char) : List Char :=
  lowerAfter [] cs

def lower (text : String) : String :=
  String.ofList (lowerChars text.toList)

def sameIgnoringCase (a b : String) : Bool :=
  a.toList.map Char.toLower == b.toList.map Char.toLower

def emptyRow : List Char → List Nat
  | [] => [0]
  | _ :: rest => (rest.length + 1) :: emptyRow rest

-- Given the distances from a text to `target` and to each of its suffixes, the same distances from
-- that text with `c` in front.
def extendRow (c : Char) : List Char → List Nat → List Nat
  | y :: target, across :: row =>
      let below := extendRow c target row
      let replaced := row.headD 0
      let least :=
        if c = y then replaced else 1 + min across (min (below.headD 0) replaced)
      least :: below
  | _, row => [row.headD 0 + 1]

def distanceRow (source target : List Char) : List Nat :=
  source.foldr (fun c row => extendRow c target row) (emptyRow target)

def editDistance (source target : List Char) : Nat :=
  (distanceRow source target).headD 0

end TaskSearch.Text
