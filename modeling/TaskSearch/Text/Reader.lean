set_option autoImplicit false

namespace TaskSearch.Text

abbrev Reader (α : Type) :=
  List Char → Option (α × List Char)

namespace Reader

variable {α β : Type}

def map (f : α → β) (result : Option (α × List Char)) : Option (β × List Char) :=
  Option.map (fun (value, rest) => (f value, rest)) result

end Reader

def hexValue? (c : Char) : Option Nat :=
  if c.isDigit then some (c.toNat - 48)
  else if 'a' ≤ c && c ≤ 'f' then some (c.toNat - 87)
  else if 'A' ≤ c && c ≤ 'F' then some (c.toNat - 55)
  else none

def hexNumber? (digits : List Char) : Option Nat :=
  digits.foldlM (fun n c => (hexValue? c).map (n * 16 + ·)) 0

def decimalNumber? (digits : List Char) : Option Nat :=
  if digits.all Char.isDigit then
    some (digits.foldl (fun n c => n * 10 + (c.toNat - '0'.toNat)) 0)
  else none

def charOfCode? (code : Nat) : Option Char :=
  if code.isValidChar then some (Char.ofNat code) else none

end TaskSearch.Text
