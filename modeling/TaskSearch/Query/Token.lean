import TaskSearch.Query.Field

set_option autoImplicit false

namespace TaskSearch

inductive Token where
  | field (field : Field)
  | value (text : String)
  | number (digits : String)
  | colon
  | atSign
  | tilde
  | minus
  | less
  | greater
  | equals
  | notEquals
  | pipe
  | openParen
  | closeParen
  | and (spelling : String)
  | or (spelling : String)
  | not (spelling : String)
  | endOfInput
deriving DecidableEq, Repr

namespace Token

def text : Token → String
  | field f => f.name
  | value s | number s | and s | or s | not s => s
  | colon => ":"
  | atSign => "@"
  | tilde => "~"
  | minus => "-"
  | less => "<"
  | greater => ">"
  | equals => "="
  | notEquals => "!="
  | pipe => "|"
  | openParen => "("
  | closeParen => ")"
  | endOfInput => ""

def kind : Token → String
  | field _ => "field"
  | value _ => "value"
  | number _ => "number"
  | colon => "colon"
  | atSign => "at"
  | tilde => "tilde"
  | minus => "minus"
  | less => "less_than"
  | greater => "greater_than"
  | equals => "equals"
  | notEquals => "not_equals"
  | pipe => "pipe"
  | openParen => "open_paren"
  | closeParen => "close_paren"
  | and _ => "and"
  | or _ => "or"
  | not _ => "not"
  | endOfInput => "eof"

def describe : Token → String
  | endOfInput => "end of input"
  | field f => "field '" ++ f.name ++ "'"
  | value s => "value '" ++ s ++ "'"
  | number s => "number '" ++ s ++ "'"
  | token => "'" ++ token.text ++ "'"

def isComparator : Token → Bool
  | less | greater | equals | notEquals => true
  | _ => false

end Token

structure Lexeme where
  token : Token
  -- The index of a character of the text. No text is so long that the machine could not count one
  -- position further.
  position : Nat
deriving DecidableEq, Repr

end TaskSearch
