import TaskSearch.Filter
import TaskSearch.Text.Reader

set_option autoImplicit false

namespace TaskSearch.CommandLine

inductive Usage where
  | help
  | version
  | helpForMissingCommand
  | missingCommand
  | unknownCommand
  | unknownArgument
  | missingArgument
  | conflictingArguments
  | tooManyValues
  | invalidValue
  | outOfRangeValue
deriving DecidableEq, Repr

inductive Parameter where
  | help
  | version
  | verbose
  | quiet
  | json
  | noColor
  | projects
  | search
  | sort
  | order
  | threshold
  | shell
deriving DecidableEq, Repr

namespace Parameter

def long? : Parameter → Option String
  | help => some "help"
  | version => some "version"
  | verbose => some "verbose"
  | quiet => some "quiet"
  | json => some "json"
  | noColor => some "no-color"
  | projects => some "projects"
  | search => some "search"
  | sort => some "sort"
  | order => some "order"
  | threshold => some "threshold"
  | shell => none

def short? : Parameter → Option Char
  | help => some 'h'
  | version => some 'V'
  | verbose => some 'v'
  | quiet => some 'q'
  | threshold => some 't'
  | _ => none

def takesValue : Parameter → Bool
  | projects | search | sort | order | threshold | shell => true
  | _ => false

def percent? (text : String) : Option Nat :=
  match text.toList with
  | '-' :: digits => if digits.isEmpty then none else (Text.decimalNumber? digits).filter (· = 0)
  | '+' :: digits =>
      if digits.isEmpty then none else (Text.decimalNumber? digits).filter (· ≤ 100)
  | digits => if digits.isEmpty then none else (Text.decimalNumber? digits).filter (· ≤ 100)

def shells : List String :=
  ["bash", "zsh", "fish", "powershell"]

def admits (value : String) : Parameter → Bool
  | projects => !value.isEmpty
  | search => (Keyword.exactly? value : Option SearchMode).isSome
  | sort => (Keyword.exactly? value : Option SortKey).isSome
  | order => (Keyword.exactly? value : Option SortOrder).isSome
  | threshold => (percent? value).isSome
  | shell => shells.contains value
  | _ => true

def fault? (parameter : Parameter) (value : String) : Option Usage :=
  if parameter.admits value then none
  else if parameter = threshold then some .outOfRangeValue
  else some .invalidValue

def common : List Parameter :=
  [help, version, verbose, quiet, json, noColor]

end Parameter

inductive Level where
  | top
  | config
  | tokens
  | parse
  | filter
  | matching
  | configShow
  | configSet
  | configPath
  | completions
deriving DecidableEq, Repr

namespace Level

def subcommand? : Level → String → Option Level
  | top, "tokens" | top, "t" => some tokens
  | top, "parse" | top, "p" => some parse
  | top, "filter" | top, "f" => some filter
  | top, "match" | top, "m" => some matching
  | top, "config" => some config
  | top, "completions" => some completions
  | config, "show" => some configShow
  | config, "set" => some configSet
  | config, "path" => some configPath
  | _, _ => none

def hasSubcommands : Level → Bool
  | top | config => true
  | _ => false

def parameters : Level → List Parameter
  | filter => Parameter.common ++ [.projects, .search, .sort, .order]
  | matching => Parameter.common ++ [.threshold]
  | _ => Parameter.common

def places : Level → Nat
  | tokens | parse | filter | completions => 1
  | matching | configSet => 2
  | _ => 0

def repeatsLast : Level → Bool
  | matching => true
  | _ => false

end Level

end TaskSearch.CommandLine
