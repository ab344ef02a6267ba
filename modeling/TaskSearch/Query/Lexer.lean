import TaskSearch.Query.Token
import TaskSearch.Text.Blank
import TaskSearch.Text.Letter

set_option autoImplicit false

namespace TaskSearch

inductive LexError where
  | unexpectedCharacter (character : Char) (position : Nat)
  | unterminatedQuote (quote : Char) (position : Nat)
deriving DecidableEq, Repr

namespace LexError

def position : LexError → Nat
  | unexpectedCharacter _ p | unterminatedQuote _ p => p

def message : LexError → String
  | unexpectedCharacter c p => s!"unexpected character '{c}' at position {p}"
  | unterminatedQuote q p => s!"unterminated quoted value starting at position {p} (missing {q})"

end LexError

namespace Lexer

def isWordChar (c : Char) : Bool :=
  Text.isAlphanumeric c || c == '_' || c == '-' || c == '.' || c == '+'

def classify (word : String) : Token :=
  let small := Text.lower word
  if small = "and" then .and word
  else if small = "or" then .or word
  else if small = "not" then .not word
  else
    match Field.named? small with
    | some field => .field field
    | none => if word.toList.all Char.isDigit then .number word else .value word

-- A backslash directly before a quote of the same kind escapes it; every other backslash stands for
-- itself. The number is that of the characters up to and with the closing quote.
def scanQuoted (quote : Char) : List Char → Option (List Char × Nat)
  | [] => none
  | '\\' :: c :: rest =>
      if c = quote then
        (scanQuoted quote rest).map fun (value, width) => (quote :: value, width + 2)
      else
        (scanQuoted quote (c :: rest)).map fun (value, width) => ('\\' :: value, width + 1)
  | c :: rest =>
      if c = quote then some ([], 1)
      else (scanQuoted quote rest).map fun (value, width) => (c :: value, width + 1)

inductive Scanned where
  | token (token : Token) (width : Nat)
  | unexpected (character : Char)
  | unterminated (quote : Char)
deriving DecidableEq, Repr

def scan (c : Char) (rest : List Char) : Scanned :=
  match c with
  | ':' => .token .colon 1
  | '@' => .token .atSign 1
  | '~' => .token .tilde 1
  | '<' => .token .less 1
  | '>' => .token .greater 1
  | '=' => .token .equals 1
  | '|' => .token .pipe 1
  | '(' => .token .openParen 1
  | ')' => .token .closeParen 1
  | '!' => if rest.head? = some '=' then .token .notEquals 2 else .unexpected '!'
  | _ =>
    if c = '-' && rest.head?.any Text.isLetter then .token .minus 1
    else if c = '"' || c = '\'' then
      match scanQuoted c rest with
      | some (value, width) => .token (.value (String.ofList value)) (width + 1)
      | none => .unterminated c
    else if isWordChar c then
      let word := c :: rest.takeWhile isWordChar
      .token (classify (String.ofList word)) word.length
    else .unexpected c

structure Cursor where
  rest : List Char
  position : Nat
deriving DecidableEq, Repr

namespace Cursor

def start (text : String) : Cursor :=
  ⟨text.toList, 0⟩

def advance (cursor : Cursor) (width : Nat) : Cursor :=
  ⟨cursor.rest.drop width, cursor.position + width⟩

def skipBlanks (cursor : Cursor) : Cursor :=
  cursor.advance (cursor.rest.takeWhile Text.isBlank).length

-- Reads the next lexeme. A character that begins no token is not passed; a quote that is never
-- closed takes the rest of the text with it.
def next (cursor : Cursor) : Except LexError Lexeme × Cursor :=
  let here := cursor.skipBlanks
  match here.rest with
  | [] => (.ok ⟨.endOfInput, here.position⟩, here)
  | c :: rest =>
    match scan c rest with
    | .token token width => (.ok ⟨token, here.position⟩, here.advance width)
    | .unexpected character => (.error (.unexpectedCharacter character here.position), here)
    | .unterminated quote =>
        (.error (.unterminatedQuote quote here.position), here.advance here.rest.length)

theorem skipBlanks_length_le (cursor : Cursor) :
    cursor.skipBlanks.rest.length ≤ cursor.rest.length := by
  simp [skipBlanks, advance]

def results : Nat → Cursor → List (Except LexError Lexeme)
  | 0, _ => []
  | calls + 1, cursor => cursor.next.1 :: results calls cursor.next.2

end Cursor

theorem scan_width_pos (c : Char) (rest : List Char) (token : Token) (width : Nat)
    (read : scan c rest = .token token width) : 0 < width := by
  unfold scan at read
  split at read <;> grind

inductive Ending where
  | finished (position : Nat)
  | failed (error : LexError)
deriving DecidableEq, Repr

def readAll (cursor : Cursor) : List Lexeme × Ending :=
  let here := cursor.skipBlanks
  match _ : here.rest with
  | [] => ([], .finished here.position)
  | c :: rest =>
    match _ : scan c rest with
    | .token token width =>
        let (lexemes, ending) := readAll (here.advance width)
        (⟨token, here.position⟩ :: lexemes, ending)
    | .unexpected character => ([], .failed (.unexpectedCharacter character here.position))
    | .unterminated quote => ([], .failed (.unterminatedQuote quote here.position))
termination_by cursor.rest.length
decreasing_by
  have wide := scan_width_pos c rest token width ‹_›
  have skipped := cursor.skipBlanks_length_le
  have nonempty := congrArg List.length ‹here.rest = c :: rest›
  simp only [here, List.length_cons] at nonempty
  simp only [Cursor.advance, List.length_drop]
  omega

end Lexer

def tokenize (text : String) : Except LexError (List Lexeme) :=
  match Lexer.readAll (Lexer.Cursor.start text) with
  | (lexemes, .finished position) => .ok (lexemes ++ [⟨.endOfInput, position⟩])
  | (_, .failed error) => .error error

end TaskSearch
