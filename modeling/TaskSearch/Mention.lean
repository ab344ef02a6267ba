import TaskSearch.Text.Blank
import TaskSearch.Text.Letter
import TaskSearch.Text.Mark
import TaskSearch.Text.Numeral

set_option autoImplicit false

namespace TaskSearch

structure Mention where
  name : String
  fuzzy : Bool
deriving DecidableEq, Repr

namespace Mention

def isWordChar (c : Char) : Bool :=
  !Text.isRecent c &&
    (Text.isLetter c || Text.isDecimalDigit c || Text.isMark c || Text.isConnector c ||
      Text.isJoinControl c)

def isNameChar (c : Char) : Bool :=
  c == '-' || isWordChar c

def readName? (cs : List Char) : Option (List Char × List Char) :=
  match cs.takeWhile isNameChar with
  | [] => none
  | c :: name => some (c :: name, cs.dropWhile isNameChar)

def readAfterAt? : List Char → Option (Mention × List Char)
  | '~' :: rest => (readName? rest).map fun (name, rest) => (⟨String.ofList name, true⟩, rest)
  | cs => (readName? cs).map fun (name, rest) => (⟨String.ofList name, false⟩, rest)

theorem readName?_length_le (cs name rest : List Char) (read : readName? cs = some (name, rest)) :
    rest.length ≤ cs.length := by
  unfold readName? at read
  split at read
  · simp at read
  · have dropped := (List.dropWhile_sublist (l := cs) isNameChar).length_le
    grind

theorem readAfterAt?_length_le (cs rest : List Char) (mention : Mention)
    (read : readAfterAt? cs = some (mention, rest)) : rest.length ≤ cs.length := by
  unfold readAfterAt? at read
  split at read <;> simp only [Option.map_eq_some_iff, Prod.mk.injEq, Prod.exists] at read
  · obtain ⟨name, left, found, -, rfl⟩ := read
    have shorter := readName?_length_le _ _ _ found
    simp only [List.length_cons]
    omega
  · obtain ⟨name, left, found, -, rfl⟩ := read
    exact readName?_length_le _ _ _ found

def split : List Char → List Mention × List Char
  | [] => ([], [])
  | c :: rest =>
    match _ : if c = '@' then readAfterAt? rest else none with
    | some (mention, left) =>
        let (mentions, remaining) := split left
        (mention :: mentions, remaining)
    | none =>
        let (mentions, remaining) := split rest
        (mentions, c :: remaining)
termination_by cs => cs.length
decreasing_by
  · rename_i read
    split at read
    · have shorter := readAfterAt?_length_le _ _ _ read
      simp only [List.length_cons]
      omega
    · simp at read
  · simp

end Mention

structure MentionedText where
  baseText : String
  mentions : List Mention
deriving DecidableEq, Repr

namespace MentionedText

def ofText (text : String) : MentionedText :=
  let (mentions, remaining) := Mention.split text.toList
  { baseText := " ".intercalate ((Text.blankSeparated remaining).map String.ofList), mentions }

def hasMentions (text : MentionedText) : Bool :=
  !text.mentions.isEmpty

end MentionedText

end TaskSearch
