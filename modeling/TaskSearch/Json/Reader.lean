import TaskSearch.Json.Value
import TaskSearch.Text.Reader

set_option autoImplicit false

namespace TaskSearch.Json

open Text (Reader hexNumber?)

def isSpace (c : Char) : Bool :=
  c == ' ' || c == '\t' || c == '\n' || c == '\r'

def skipSpace (cs : List Char) : List Char :=
  cs.dropWhile isSpace

def simpleEscape? : Char → Option Char
  | '"' => some '"'
  | '\\' => some '\\'
  | '/' => some '/'
  | 'b' => some '\x08'
  | 'f' => some '\x0c'
  | 'n' => some '\n'
  | 'r' => some '\r'
  | 't' => some '\t'
  | _ => none

-- One piece of a string: a character, or a code unit that is written as an escape.
inductive StringPiece where
  | char (c : Char)
  | unit (value : Nat)

def readPieces : Reader (List StringPiece)
  | [] => none
  | '"' :: rest => some ([], rest)
  | '\\' :: 'u' :: a :: b :: c :: d :: rest => do
      let unit ← hexNumber? [a, b, c, d]
      Reader.map (.unit unit :: ·) (readPieces rest)
  | '\\' :: c :: rest => do
      let c ← simpleEscape? c
      Reader.map (.char c :: ·) (readPieces rest)
  | c :: rest =>
      if c.toNat < 32 || c = '\\' then none else Reader.map (.char c :: ·) (readPieces rest)

def isHighSurrogate (unit : Nat) : Bool :=
  0xD800 ≤ unit && unit < 0xDC00

def isLowSurrogate (unit : Nat) : Bool :=
  0xDC00 ≤ unit && unit < 0xE000

def joinPieces? : List StringPiece → Option (List Char)
  | [] => some []
  | .char c :: rest => (joinPieces? rest).map (c :: ·)
  | .unit high :: .unit low :: rest =>
      if isHighSurrogate high then
        if isLowSurrogate low then
          let code := 0x10000 + (high - 0xD800) * 0x400 + (low - 0xDC00)
          (joinPieces? rest).map (Char.ofNat code :: ·)
        else none
      else if isLowSurrogate high then none
      else (joinPieces? (.unit low :: rest)).map (Char.ofNat high :: ·)
  | .unit value :: rest =>
      if isHighSurrogate value || isLowSurrogate value then none
      else (joinPieces? rest).map (Char.ofNat value :: ·)

def readString : Reader (Option String) := fun cs =>
  Reader.map (fun pieces => (joinPieces? pieces).map String.ofList) (readPieces cs)

def readDigits : Reader (List Char) := fun cs =>
  match cs.takeWhile Char.isDigit with
  | [] => none
  | c :: digits => some (c :: digits, cs.dropWhile Char.isDigit)

def readInteger : Reader (List Char)
  | '0' :: rest => if rest.head?.any Char.isDigit then none else some (['0'], rest)
  | cs => readDigits cs

def readFraction : Reader (List Char)
  | '.' :: rest => Reader.map ('.' :: ·) (readDigits rest)
  | cs => some ([], cs)

def isExponentMark (c : Char) : Bool :=
  c == 'e' || c == 'E'

def isPlusOrMinus (c : Char) : Bool :=
  c == '+' || c == '-'

def readExponent : Reader (List Char)
  | c :: rest =>
      if isExponentMark c then
        let sign := (rest.take 1).filter isPlusOrMinus
        Reader.map (c :: sign ++ ·) (readDigits (rest.drop sign.length))
      else some ([], c :: rest)
  | [] => some ([], [])

def readNumber : Reader Json := fun cs => do
  let sign := (cs.take 1).filter (· == '-')
  let (integer, rest) ← readInteger (cs.drop sign.length)
  let (fraction, rest) ← readFraction rest
  let (exponent, rest) ← readExponent rest
  some (.number (String.ofList (sign ++ integer ++ fraction ++ exponent)), rest)

def readItems (readItem : Reader Json) : Nat → Reader (List Json)
  | 0, _ => none
  | fuel + 1, cs => do
      let (item, rest) ← readItem cs
      match skipSpace rest with
      | ']' :: rest => some ([item], rest)
      | ',' :: rest => do
          let (items, rest) ← readItems readItem fuel rest
          some (item :: items, rest)
      | _ => none

def readMembers (readItem : Reader Json) : Nat → Reader (List (Option String × Json))
  | 0, _ => none
  | fuel + 1, cs =>
    match skipSpace cs with
    | '"' :: rest => do
        let (key, rest) ← readString rest
        match skipSpace rest with
        | ':' :: rest => do
            let (value, rest) ← readItem rest
            match skipSpace rest with
            | '}' :: rest => some ([(key, value)], rest)
            | ',' :: rest => do
                let (members, rest) ← readMembers readItem fuel rest
                some ((key, value) :: members, rest)
            | _ => none
        | _ => none
    | _ => none

def ofMembers (members : List (Option String × Json)) : Json :=
  match members.mapM fun (key, value) => key.map (·, value) with
  | some members => .object members
  | none => .unpaired

def readValue : Nat → Reader Json
  | 0, _ => none
  | depth + 1, cs =>
    match skipSpace cs with
    | '"' :: rest => do
        let (text, rest) ← readString rest
        some (text.elim .unpaired .string, rest)
    | '[' :: rest =>
      match skipSpace rest with
      | ']' :: rest => some (.array [], rest)
      | rest => do
          let (items, rest) ← readItems (readValue depth) rest.length rest
          some (.array items, rest)
    | '{' :: rest =>
      match skipSpace rest with
      | '}' :: rest => some (.object [], rest)
      | rest => do
          let (members, rest) ← readMembers (readValue depth) rest.length rest
          some (ofMembers members, rest)
    | 'n' :: 'u' :: 'l' :: 'l' :: rest => some (.null, rest)
    | 't' :: 'r' :: 'u' :: 'e' :: rest => some (.boolean true, rest)
    | 'f' :: 'a' :: 'l' :: 's' :: 'e' :: rest => some (.boolean false, rest)
    | rest => readNumber rest

def parse? (text : String) : Option Json := do
  let cs := text.toList
  let (value, rest) ← readValue (cs.length + 1) cs
  if (skipSpace rest).isEmpty then some value else none

end TaskSearch.Json
