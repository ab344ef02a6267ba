import TaskSearch.Configuration

set_option autoImplicit false

namespace TaskSearch

inductive Setting where
  | searchMode
  | fuzzyLimit
  | fuzzyThreshold
  | sortKey
  | sortOrder
  | color
deriving DecidableEq, Repr

namespace Setting

def all : List Setting :=
  [searchMode, fuzzyLimit, fuzzyThreshold, sortKey, sortOrder, color]

def name : Setting → String
  | searchMode => "search.mode"
  | fuzzyLimit => "search.fuzzy_limit"
  | fuzzyThreshold => "search.fuzzy_threshold"
  | sortKey => "sort.key"
  | sortOrder => "sort.order"
  | color => "output.color"

def named? (key : String) : Option Setting :=
  all.find? (·.name = key)

end Setting

inductive SettingError where
  | unknownKey (key : String)
  | noSuchWord (key value expected : String)
  | noNumber (key value : String)
  | noThreshold (value : String)
  | noBoolean (value : String)
deriving DecidableEq, Repr

def SettingError.message : SettingError → String
  | unknownKey key =>
      "Unknown config key '" ++ key ++ "'. Valid keys: " ++
        ", ".intercalate (Setting.all.map Setting.name)
  | noSuchWord key value expected =>
      "Invalid " ++ key ++ " value '" ++ value ++ "'. Valid values: " ++ expected
  | noNumber key value => "Invalid " ++ key ++ " value '" ++ value ++ "'. Expected a number"
  | noThreshold value =>
      "Invalid search.fuzzy_threshold value '" ++ value ++ "'. Use a number from 0 to 100"
  | noBoolean value =>
      "Invalid boolean value '" ++ value ++ "'. Use true/false, yes/no, 1/0, or on/off"

namespace Configuration

-- A number in ASCII digits, maybe with a plus sign, that is no greater than `most`.
def readNumber? (most : Nat) (text : String) : Option Nat :=
  let cs := text.toList
  let digits := if cs.head? = some '+' then cs.tail else cs
  if digits.isEmpty then none else (Text.decimalNumber? digits).filter (· ≤ most)

def readBoolean? (text : String) : Option Bool :=
  let word := Text.lower text
  if ["true", "yes", "1", "on"].contains word then some true
  else if ["false", "no", "0", "off"].contains word then some false
  else none

def requireWord (α : Type) [Keyword α] (key value : String) : Except SettingError α :=
  match (Keyword.find? value : Option α) with
  | some word => .ok word
  | none => .error (.noSuchWord key value (Keyword.expected α))

def requireNumber (most : Nat) (key value : String) : Except SettingError Nat :=
  match readNumber? most value with
  | some n => .ok n
  | none => .error (.noNumber key value)

def requireBoolean (value : String) : Except SettingError Bool :=
  match readBoolean? value with
  | some b => .ok b
  | none => .error (.noBoolean value)

def set (config : Configuration) (key value : String) : Except SettingError Configuration := do
  match Setting.named? key with
  | none => throw (.unknownKey key)
  | some .searchMode => return { config with searchMode := ← requireWord SearchMode key value }
  | some .fuzzyLimit => return { config with fuzzyLimit := ← requireNumber greatest64 key value }
  | some .fuzzyThreshold =>
      let threshold ← requireNumber 255 key value
      if 100 < threshold then throw (.noThreshold value)
      return { config with fuzzyThreshold := threshold }
  | some .sortKey => return { config with sortKey := ← requireWord SortKey key value }
  | some .sortOrder => return { config with sortOrder := ← requireWord SortOrder key value }
  | some .color => return { config with color := ← requireBoolean value }

end Configuration

end TaskSearch
