import TaskSearch.Date.Written
import TaskSearch.Toml.Value

set_option autoImplicit false

namespace TaskSearch.Toml

open Date (Written.readFields?)

def isScalarChar (c : Char) : Bool :=
  c.isAlphanum || c == '_' || c == '+' || c == '-' || c == '.' || c == ':'

def ungroup? (isDigit : Char → Bool) : List Char → Option (List Char)
  | [] => none
  | [c] => if isDigit c then some [c] else none
  | c :: '_' :: d :: rest =>
      if isDigit c then (ungroup? isDigit (d :: rest)).map (c :: ·) else none
  | c :: rest => if isDigit c then (ungroup? isDigit rest).map (c :: ·) else none

def decimalDigits? (cs : List Char) : Option (List Char) := do
  let digits ← ungroup? Char.isDigit cs
  if digits.head? = some '0' && digits.length ≠ 1 then none else some digits

def splitSign (cs : List Char) : Bool × List Char :=
  match cs with
  | '-' :: rest => (true, rest)
  | '+' :: rest => (false, rest)
  | _ => (false, cs)

def integerOf? (negative : Bool) (n : Nat) : Option Value :=
  if n < Nat.pow 2 63 || negative && n = Nat.pow 2 63 then
    some (.integer (if negative then -(n : Int) else n))
  else none

def isDigitOfBase (base : Nat) (c : Char) : Bool :=
  (Text.hexValue? c).any (· < base)

def basedInteger? (base : Nat) (cs : List Char) : Option Value := do
  let digits ← ungroup? (isDigitOfBase base) cs
  integerOf? false (digits.foldl (fun n c => n * base + (Text.hexValue? c).getD 0) 0)

def integer? (cs : List Char) : Option Value :=
  match cs with
  | '0' :: 'x' :: digits => basedInteger? 16 digits
  | '0' :: 'o' :: digits => basedInteger? 8 digits
  | '0' :: 'b' :: digits => basedInteger? 2 digits
  | _ => do
      let (negative, unsigned) := splitSign cs
      let n ← Text.decimalNumber? (← decimalDigits? unsigned)
      integerOf? negative n

-- Whether the digits `n` with a decimal exponent round to infinity in 64 bits.
def isTooLarge (n : Nat) (exponent : Int) : Bool :=
  let limit := Nat.pow 2 1024 - Nat.pow 2 970
  let size := (toString n).length + exponent
  if n = 0 || size < 300 then false
  else if 320 < size then true
  else limit * Nat.pow 10 (-exponent).toNat ≤ n * Nat.pow 10 exponent.toNat

def isExponentMark (c : Char) : Bool :=
  c == 'e' || c == 'E'

def float? (cs : List Char) : Option Value :=
  let (negative, unsigned) := splitSign cs
  if unsigned = ['i', 'n', 'f'] || unsigned = ['n', 'a', 'n'] then some .float
  else do
    let mantissa := unsigned.takeWhile (!isExponentMark ·)
    let whole ← decimalDigits? (mantissa.takeWhile (· != '.'))
    let fraction ←
      match mantissa.dropWhile (· != '.') with
      | [] => some []
      | _ :: digits => ungroup? Char.isDigit digits
    let exponent ←
      match unsigned.dropWhile (!isExponentMark ·) with
      | [] => if fraction.isEmpty then none else some 0
      | _ :: exponent => do
          let (below, digits) := splitSign exponent
          let n ← Text.decimalNumber? (← ungroup? Char.isDigit digits)
          some (if below then -(n : Int) else n)
    let n ← Text.decimalNumber? (whole ++ fraction)
    if !negative && isTooLarge n (exponent - fraction.length) then none else some .float

def isDate (cs : List Char) : Bool :=
  (Written.readFields? (Date.Written.yearFirst '-') cs).any (·.date.isValid)

def isTime (cs : List Char) : Bool :=
  let clock := (Written.readFields? [.hour, .sign ':', .minute, .sign ':', .second] (cs.take 8)).any
    fun fields => fields.hour ≤ 23 && fields.minute ≤ 59 && fields.second ≤ 60
  clock &&
    match cs.drop 8 with
    | [] => true
    | '.' :: digits => !digits.isEmpty && digits.all Char.isDigit
    | _ => false

def isOffset (cs : List Char) : Bool :=
  match cs with
  | ['Z'] | ['z'] => true
  | c :: rest =>
      (c == '+' || c == '-') &&
        (Written.readFields? [.hour, .sign ':', .minute] rest).any
          fun fields => fields.hour ≤ 23 && fields.minute ≤ 59
  | [] => false

def isZonedTime (cs : List Char) : Bool :=
  let isTimeChar (c : Char) : Bool := c.isDigit || c == ':' || c == '.'
  let offset := cs.dropWhile isTimeChar
  isTime (cs.takeWhile isTimeChar) && (offset.isEmpty || isOffset offset)

def dateTime? (cs : List Char) : Option Value :=
  let isMark (c : Char) : Bool := c == 'T' || c == 't'
  if isDate cs || isTime cs then some .dateTime
  else if isDate (cs.take 10) && (cs.drop 10).head?.any isMark && isZonedTime (cs.drop 11) then
    some .dateTime
  else none

def scalar? (cs : List Char) : Option Value :=
  if cs = ['t', 'r', 'u', 'e'] then some (.boolean true)
  else if cs = ['f', 'a', 'l', 's', 'e'] then some (.boolean false)
  else ((integer? cs).or (float? cs)).or (dateTime? cs)

end TaskSearch.Toml
