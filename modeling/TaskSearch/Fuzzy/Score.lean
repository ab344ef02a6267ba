import TaskSearch.Text.Letter
import TaskSearch.Text.Lower

set_option autoImplicit false

namespace TaskSearch.Fuzzy

def placesFrom (index : Nat) : List Char → List Char → Option (List Nat)
  | [], _ => some []
  | _ :: _, [] => none
  | p :: pattern, c :: text =>
      if p = c then (placesFrom (index + 1) pattern text).map (index :: ·)
      else placesFrom (index + 1) (p :: pattern) text

def places (pattern text : List Char) : Option (List Nat) :=
  placesFrom 0 pattern text

def leadingRun : List Nat → Nat
  | [] => 0
  | [_] => 1
  | a :: b :: rest => if b = a + 1 then leadingRun (b :: rest) + 1 else 1

def longestRun : List Nat → Nat
  | [] => 1
  | a :: rest => max (leadingRun (a :: rest)) (longestRun rest)

class ScoreNumber (α : Type) extends Add α, Sub α, Mul α, Div α, LE α, OfScientific α where
  ofNat : Nat → α
  integerPart : α → Nat

instance : ScoreNumber Float where
  ofNat := Float.ofNat
  integerPart x := x.toUInt8.toNat

instance : ScoreNumber Rat where
  ofNat n := n
  integerPart x := x.floor.toNat

def follows (p : Char → Bool) (text : List Char) (i : Nat) : Bool :=
  i = 0 || (text[i - 1]?).any p

def isWordSeparator (c : Char) : Bool :=
  c == ' ' || c == '-' || c == '_' || c == '/'

section Points

variable {α : Type} [ScoreNumber α] [DecidableLE α]

open ScoreNumber (ofNat)

def coveragePoints (pattern text : Nat) : α :=
  if pattern = text then 30.0 else 25.0 * ofNat pattern / ofNat text

def runPoints (pattern run : Nat) : α :=
  let points : α := 20.0 * ofNat run / ofNat pattern
  if pattern < 3 then points * 0.6 else if pattern < 5 then points * 0.8 else points

def beginningPoints (pattern text : Nat) : α :=
  if pattern = text then 20.0 else if text ≤ pattern * 2 then 10.0 else 5.0

def lengthRate (pattern : Nat) : α :=
  if pattern < 3 then 1.0 else if pattern < 5 then 0.7 else 0.5

def rawScore (places : List Nat) (text : List Char) : α :=
  let pattern := places.length
  let length := text.length
  let run := longestRun places
  let begins := places.head? == some 0
  let mean : α := ofNat (places.foldr (· + ·) 0) / ofNat pattern
  let wordBeginnings := (places.filter (follows (!Text.isAlphanumeric ·) text)).length
  let separated := (places.filter (follows isWordSeparator text)).length
  50.0
    + coveragePoints pattern length
    + (if begins then 12.0 else 0.0)
    + runPoints pattern run
    - 4.0 * ofNat (pattern - run)
    - (if run = 1 then 10.0 else 0.0)
    + 10.0 * (1.0 - mean / ofNat length)
    + (if pattern < wordBeginnings * 2 then 10.0 else 0.0)
    + (if (0.3 : α) * ofNat pattern ≤ ofNat separated then 8.0 else 0.0)
    + (if begins && run == pattern then beginningPoints pattern length else 0.0)
    - ofNat (length - pattern) * lengthRate pattern

def wholePoints (x : α) : Nat :=
  if x ≤ 0.0 then 0 else if (100.0 : α) ≤ x then 100 else ScoreNumber.integerPart x

end Points

def scoreIn (α : Type) [ScoreNumber α] [DecidableLE α] (pattern text : List Char) : Nat :=
  if pattern = text then 100
  else if pattern = [] then 0
  else
    match places pattern text with
    | some places => wholePoints (rawScore places text : α)
    | none => 0

def score (pattern text : String) : Nat :=
  scoreIn Float (Text.lowerChars pattern.toList) (Text.lowerChars text.toList)

structure Match where
  text : String
  score : Nat
  index : Nat
deriving DecidableEq, Repr

def rank (pattern : String) (texts : List String) (threshold : Nat) : List Match :=
  let matched := texts.zipIdx.map fun (text, index) => ⟨text, score pattern text, index⟩
  (matched.filter (threshold ≤ ·.score)).mergeSort fun a b => b.score ≤ a.score

end TaskSearch.Fuzzy
