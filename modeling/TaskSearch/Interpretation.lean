import TaskSearch.Conversion

set_option autoImplicit false

namespace TaskSearch

def marksQuery : Token → Token → Bool
  | .field _, next => next == .colon || next.isComparator
  | .minus, .field _ => true
  | _, _ => false

def anyPairMarksQuery : List Token → Bool
  | first :: second :: rest => marksQuery first second || anyPairMarksQuery (second :: rest)
  | _ => false

-- Whether a text is a query. What follows the first place that cannot be read does not count.
def looksLikeQuery (text : String) : Bool :=
  anyPairMarksQuery ((Lexer.readAll (Lexer.Cursor.start text)).1.map (·.token))

inductive InputKind where
  | query
  | text
deriving DecidableEq, Repr

def InputKind.name : InputKind → String
  | query => "query"
  | text => "text"

structure Interpretation where
  kind : InputKind
  filter : Filter
  parseErrors : List ParseError
  rejected : List RejectedClause
deriving DecidableEq, Repr

namespace Interpretation

def hasErrors (interpretation : Interpretation) : Bool :=
  !interpretation.parseErrors.isEmpty || !interpretation.rejected.isEmpty

end Interpretation

def Converter.interpret (converter : Converter) (text : String) :
    Except LexError Interpretation :=
  if looksLikeQuery text then
    match Query.parse text with
    | .error error => .error error
    | .ok query =>
        let conversion := converter.convert query
        .ok ⟨.query, conversion.filter, query.errors, conversion.rejected⟩
  else
    let conversion := converter.convertMentions (MentionedText.ofText text)
    .ok ⟨.text, conversion.filter, [], conversion.rejected⟩

end TaskSearch
