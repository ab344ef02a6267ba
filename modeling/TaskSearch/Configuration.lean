import TaskSearch.Conversion
import TaskSearch.Json.Value
import TaskSearch.Toml.Reader

set_option autoImplicit false

namespace TaskSearch

structure Configuration where
  searchMode : Option SearchMode := none
  fuzzyLimit : Option Nat := none
  fuzzyThreshold : Option Nat := none
  sortKey : Option SortKey := none
  sortOrder : Option SortOrder := none
  color : Option Bool := none
deriving DecidableEq, Repr

namespace Configuration

def conversionOptions (config : Configuration) : ConversionOptions :=
  let defaults : ConversionOptions := {}
  { fuzzyLimit := config.fuzzyLimit.getD defaults.fuzzyLimit
    searchMode := config.searchMode.getD defaults.searchMode
    sortKey := config.sortKey.getD defaults.sortKey
    sortOrder := config.sortOrder.getD defaults.sortOrder }

def threshold (config : Configuration) : Nat :=
  config.fuzzyThreshold.getD ProjectList.defaultThreshold

def usesColor (config : Configuration) : Bool :=
  config.color.getD true

-- The values of a section under their keys. A section may also be an array of all its values, and
-- a date counts as a section with no values.
def sectionValues? (keys : List String) : Toml.Value → Option (List (Option Toml.Value))
  | .table entries => some (keys.map fun key => List.lookup key entries)
  | .array items =>
      if keys.length ≤ items.length then some ((items.take keys.length).map some) else none
  | .dateTime => some (keys.map fun _ => none)
  | _ => none

def setting? {α : Type} (read : Toml.Value → Option α) : Option Toml.Value → Option (Option α)
  | none => some none
  | some value => (read value).map some

def number? (most : Nat) : Toml.Value → Option Nat
  | .integer n => if 0 ≤ n && n ≤ most then some n.toNat else none
  | _ => none

def boolean? : Toml.Value → Option Bool
  | .boolean value => some value
  | _ => none

def keyword? (α : Type) [Keyword α] : Toml.Value → Option α
  | .string word => Keyword.exactly? word
  | .table [(word, .table [])] | .table [(word, .array [])] => Keyword.exactly? word
  | _ => none

def greatest64 : Nat :=
  Nat.pow 2 64 - 1

def readSearch? (value : Toml.Value) (config : Configuration) : Option Configuration := do
  match ← sectionValues? ["mode", "fuzzy_limit", "fuzzy_threshold"] value with
  | [mode, limit, threshold] =>
      some { config with
        searchMode := ← setting? (keyword? SearchMode) mode
        fuzzyLimit := ← setting? (number? greatest64) limit
        fuzzyThreshold := ← setting? (number? 255) threshold }
  | _ => none

def readSort? (value : Toml.Value) (config : Configuration) : Option Configuration := do
  match ← sectionValues? ["key", "order"] value with
  | [key, order] =>
      some { config with
        sortKey := ← setting? (keyword? SortKey) key
        sortOrder := ← setting? (keyword? SortOrder) order }
  | _ => none

def readOutput? (value : Toml.Value) (config : Configuration) : Option Configuration := do
  match ← sectionValues? ["color"] value with
  | [color] => some { config with color := ← setting? boolean? color }
  | _ => none

def readSection? (read : Toml.Value → Configuration → Option Configuration)
    (value : Option Toml.Value) (config : Configuration) : Option Configuration :=
  match value with
  | some value => read value config
  | none => some config

def parse? (text : String) : Option Configuration := do
  let entries ← Toml.parse? text
  let _ ← setting? (number? (Nat.pow 2 32 - 1)) (entries.lookup "version")
  let config ← readSection? readSearch? (entries.lookup "search") {}
  let config ← readSection? readSort? (entries.lookup "sort") config
  readSection? readOutput? (entries.lookup "output") config

def settingLine (key : String) (value : Option String) : String :=
  match value with
  | some value => key ++ " = " ++ value ++ "\n"
  | none => ""

def keywordText {α : Type} [Keyword α] (word : α) : String :=
  "\"" ++ Keyword.name word ++ "\""

def booleanText (value : Bool) : String :=
  if value then "true" else "false"

-- The text of a configuration file. Settings that are open are left out. A limit beyond the signed
-- integers of 64 bits cannot be written.
def render? (config : Configuration) : Option String :=
  if config.fuzzyLimit.all (· < Nat.pow 2 63) then
    some ("version = 1\n\n[search]\n" ++
      settingLine "mode" (config.searchMode.map keywordText) ++
      settingLine "fuzzy_limit" (config.fuzzyLimit.map toString) ++
      settingLine "fuzzy_threshold" (config.fuzzyThreshold.map toString) ++
      "\n[sort]\n" ++
      settingLine "key" (config.sortKey.map keywordText) ++
      settingLine "order" (config.sortOrder.map keywordText) ++
      "\n[output]\n" ++
      settingLine "color" (config.color.map booleanText))
  else none

def document (config : Configuration) : Json :=
  .object [
    ("output", .objectOf [("color", config.color.map .boolean)]),
    ("search", .objectOf [("fuzzy_limit", config.fuzzyLimit.map .ofNat),
      ("fuzzy_threshold", config.fuzzyThreshold.map .ofNat),
      ("mode", config.searchMode.map fun mode => .string (Keyword.name mode))]),
    ("sort", .objectOf [("key", config.sortKey.map fun key => .string (Keyword.name key)),
      ("order", config.sortOrder.map fun order => .string (Keyword.name order))]),
    ("version", .ofNat 1)]

end Configuration

end TaskSearch
