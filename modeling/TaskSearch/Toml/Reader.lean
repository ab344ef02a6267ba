import TaskSearch.Text.Reader
import TaskSearch.Toml.Scalar

set_option autoImplicit false

namespace TaskSearch.Toml

open Text (Reader charOfCode? hexNumber?)

def isBlank (c : Char) : Bool :=
  c == ' ' || c == '\t'

def isPlain (c : Char) : Bool :=
  c == '\t' || 32 ≤ c.toNat && c.toNat != 127

def skipBlanks (cs : List Char) : List Char :=
  cs.dropWhile isBlank

def skipComment : List Char → List Char
  | '#' :: rest => rest.dropWhile isPlain
  | cs => cs

def afterLineBreak? : List Char → Option (List Char)
  | '\n' :: rest => some rest
  | '\r' :: '\n' :: rest => some rest
  | _ => none

def afterLine? (cs : List Char) : Option (List Char) :=
  match skipComment (skipBlanks cs) with
  | [] => some []
  | rest => afterLineBreak? rest

def skipFiller (inComment : Bool) : List Char → List Char
  | [] => []
  | '\n' :: rest => skipFiller false rest
  | '\r' :: '\n' :: rest => skipFiller false rest
  | c :: rest =>
      if inComment then if isPlain c then skipFiller true rest else c :: rest
      else if c = '#' then skipFiller true rest
      else if isBlank c then skipFiller false rest
      else c :: rest

def simpleEscape? : Char → Option Char
  | '"' => some '"'
  | '\\' => some '\\'
  | 'b' => some '\x08'
  | 'f' => some '\x0c'
  | 'n' => some '\n'
  | 'r' => some '\r'
  | 't' => some '\t'
  | _ => none

def readEscape : Reader Char
  | 'u' :: rest => do
      let c ← charOfCode? (← hexNumber? (rest.take 4))
      if 4 ≤ rest.length then some (c, rest.drop 4) else none
  | 'U' :: rest => do
      let c ← charOfCode? (← hexNumber? (rest.take 8))
      if 8 ≤ rest.length then some (c, rest.drop 8) else none
  | c :: rest => (simpleEscape? c).map (·, rest)
  | [] => none

def readBasic : Nat → Reader (List Char)
  | 0, _ => none
  | fuel + 1, cs =>
    match cs with
    | '"' :: rest => some ([], rest)
    | '\\' :: rest => do
        let (c, rest) ← readEscape rest
        Reader.map (c :: ·) (readBasic fuel rest)
    | c :: rest => if isPlain c then Reader.map (c :: ·) (readBasic fuel rest) else none
    | [] => none

def readLiteral : Reader (List Char) := fun cs =>
  let isInside (c : Char) : Bool := isPlain c && c != '\''
  match cs.dropWhile isInside with
  | '\'' :: rest => some (cs.takeWhile isInside, rest)
  | _ => none

def readClosing (quote : Char) : Reader (List Char)
  | a :: b :: c :: rest =>
      if a = quote && b = quote && c = quote then
        match rest with
        | d :: e :: more =>
            if d = quote && e = quote then some ([quote, quote], more)
            else if d = quote then some ([quote], e :: more)
            else some ([], rest)
        | [d] => if d = quote then some ([quote], []) else some ([], rest)
        | [] => some ([], [])
      else none
  | _ => none

def skipBlankLines : List Char → List Char
  | '\r' :: '\n' :: rest => skipBlankLines rest
  | c :: rest => if c == '\n' || isBlank c then skipBlankLines rest else c :: rest
  | [] => []

def afterContinuation? (cs : List Char) : Option (List Char) :=
  (afterLineBreak? (skipBlanks cs)).map skipBlankLines

def readLines (quote : Char) : Nat → Reader (List Char)
  | 0, _ => none
  | fuel + 1, cs =>
    match readClosing quote cs with
    | some closed => some closed
    | none =>
      match afterLineBreak? cs with
      | some rest => Reader.map ('\n' :: ·) (readLines quote fuel rest)
      | none =>
        match cs with
        | [] => none
        | c :: rest =>
            if c = '\\' && quote = '"' then
              match afterContinuation? rest with
              | some rest => readLines quote fuel rest
              | none => do
                  let (c, rest) ← readEscape rest
                  Reader.map (c :: ·) (readLines quote fuel rest)
            else if isPlain c then Reader.map (c :: ·) (readLines quote fuel rest)
            else none

def readMultiline (quote : Char) : Reader (List Char) := fun cs =>
  let cs := (afterLineBreak? cs).getD cs
  readLines quote (cs.length + 1) cs

def isBareKeyChar (c : Char) : Bool :=
  c.isAlphanum || c == '_' || c == '-'

def readBareKey : Reader (List Char) := fun cs =>
  match cs.takeWhile isBareKeyChar with
  | [] => none
  | key => some (key, cs.dropWhile isBareKeyChar)

def readKeyPart : Reader String := fun cs =>
  Reader.map String.ofList
    (match cs with
    | '"' :: rest => readBasic (rest.length + 1) rest
    | '\'' :: rest => readLiteral rest
    | _ => readBareKey cs)

def readKeys : Nat → Reader (List String)
  | 0, _ => none
  | fuel + 1, cs => do
      let (key, rest) ← readKeyPart (skipBlanks cs)
      match skipBlanks rest with
      | '.' :: rest => Reader.map (key :: ·) (readKeys fuel rest)
      | rest => some ([key], rest)

def depthLimit : Nat :=
  80

def readKeyPath : Reader (List String) := fun cs =>
  (readKeys cs.length cs).filter (·.1.length < depthLimit)

def readScalar : Reader Value := fun cs =>
  let token := cs.takeWhile isScalarChar
  let rest := cs.dropWhile isScalarChar
  let time := (rest.drop 1).takeWhile isScalarChar
  if isDate token && rest.head? = some ' ' && isZonedTime time then
    some (.dateTime, (rest.drop 1).dropWhile isScalarChar)
  else (scalar? token).map (·, rest)

def readItems (readItem : Reader Value) : Nat → Reader (List Value)
  | 0, _ => none
  | fuel + 1, cs =>
    match skipFiller false cs with
    | ']' :: rest => some ([], rest)
    | cs => do
        let (item, rest) ← readItem cs
        match skipFiller false rest with
        | ']' :: rest => some ([item], rest)
        | ',' :: rest => Reader.map (item :: ·) (readItems readItem fuel rest)
        | _ => none

def readAssignment (readItem : Reader Value) : Reader (List String × Value) := fun cs => do
  let (keys, rest) ← readKeyPath cs
  match rest with
  | '=' :: rest => Reader.map (keys, ·) (readItem (skipBlanks rest))
  | _ => none

def readEntries (readItem : Reader Value) : Nat → Entries → Reader Entries
  | 0, _, _ => none
  | fuel + 1, entries, cs => do
      let ((keys, value), rest) ← readAssignment readItem cs
      let entries ← Entries.addValue keys value .header entries
      match skipBlanks rest with
      | '}' :: rest => some (entries, rest)
      | ',' :: rest => readEntries readItem fuel entries rest
      | _ => none

def readValue : Nat → Reader Value
  | _, '"' :: '"' :: '"' :: rest =>
      Reader.map (fun cs => .string (String.ofList cs)) (readMultiline '"' rest)
  | _, '\'' :: '\'' :: '\'' :: rest =>
      Reader.map (fun cs => .string (String.ofList cs)) (readMultiline '\'' rest)
  | _, '"' :: rest =>
      Reader.map (fun cs => .string (String.ofList cs)) (readBasic (rest.length + 1) rest)
  | _, '\'' :: rest =>
      Reader.map (fun cs => .string (String.ofList cs)) (readLiteral rest)
  | depth + 1, '[' :: rest =>
      Reader.map .array (readItems (readValue depth) rest.length rest)
  | depth + 1, '{' :: rest =>
    match skipBlanks rest with
    | '}' :: rest => some (.table [], rest)
    | rest =>
        Reader.map (fun entries => .table (entryValues entries))
          (readEntries (readValue depth) rest.length [] rest)
  | _, cs => readScalar cs

def readHeader (closing : List Char) : Reader (List String) := fun cs => do
  let (keys, rest) ← readKeyPath cs
  if closing.isPrefixOf rest then
    let rest ← afterLine? (rest.drop closing.length)
    some (keys, rest)
  else none

def readDocument : Nat → List String → Entries → List Char → Option Entries
  | 0, _, _, _ => none
  | fuel + 1, current, root, cs =>
    match skipBlanks cs with
    | [] => some root
    | '[' :: '[' :: rest => do
        let (keys, rest) ← readHeader [']', ']'] rest
        readDocument fuel keys (← Entries.appendTable keys root) rest
    | '[' :: rest => do
        let (keys, rest) ← readHeader [']'] rest
        readDocument fuel keys (← Entries.openTable keys root) rest
    | c :: rest =>
        if c = '#' || c = '\n' || c = '\r' then do
          readDocument fuel current root (← afterLine? (c :: rest))
        else do
          let ((keys, value), rest) ← readAssignment (readValue (depthLimit - 1)) (c :: rest)
          let root ← Entries.addValueAt current keys value root
          readDocument fuel current root (← afterLine? rest)

def skipMark : List Char → List Char
  | '\uFEFF' :: rest => rest
  | cs => cs

def parse? (text : String) : Option (List (String × Value)) :=
  let cs := skipMark text.toList
  (readDocument (cs.length + 1) [] [] cs).map entryValues

end TaskSearch.Toml
