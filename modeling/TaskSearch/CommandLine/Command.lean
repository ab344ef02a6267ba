import TaskSearch.CommandLine.Arguments

set_option autoImplicit false

namespace TaskSearch.CommandLine

structure FilterRequest where
  text : String
  projectsFile : Option String := none
  searchMode : Option SearchMode := none
  sortKey : Option SortKey := none
  sortOrder : Option SortOrder := none
deriving DecidableEq, Repr

inductive Command where
  | tokens (text : String)
  | parse (text : String)
  | filter (request : FilterRequest)
  | matching (pattern : String) (texts : List String) (threshold : Nat)
  | showConfiguration
  | changeSetting (key value : String)
  | configurationPath
  | completions (shell : String)
deriving DecidableEq, Repr

structure Invocation where
  command : Command
  verbose : Bool := false
  quiet : Bool := false
  json : Bool := false
  noColor : Bool := false
deriving DecidableEq, Repr

namespace Command

def ofGiven (level : Level) (given : Given) : Except Usage Command :=
  match level, given.placed with
  | .tokens, [text] => .ok (.tokens text)
  | .parse, [text] => .ok (.parse text)
  | .filter, [text] =>
      .ok (.filter {
        text
        projectsFile := given.values.lookup .projects
        searchMode := (given.values.lookup .search).bind Keyword.exactly?
        sortKey := (given.values.lookup .sort).bind Keyword.exactly?
        sortOrder := (given.values.lookup .order).bind Keyword.exactly? })
  | .matching, pattern :: text :: texts =>
      let threshold := (given.values.lookup .threshold).bind Parameter.percent?
      .ok (.matching pattern (text :: texts) (threshold.getD 0))
  | .configShow, _ | .config, _ => .ok .showConfiguration
  | .configSet, [key, value] => .ok (.changeSetting key value)
  | .configPath, _ => .ok .configurationPath
  | .completions, [shell] => .ok (.completions shell)
  | .top, _ => .error (if given.isEmpty then .helpForMissingCommand else .missingCommand)
  | _, _ => .error .missingArgument

def withDefaultProjects (projectsFile : Option String) (level : Level) (given : Given) :
    Except Usage Given :=
  match projectsFile with
  | some path =>
      if level = .filter && (given.values.lookup .projects).isNone then
        given.accept .projects path
      else .ok given
  | none => .ok given

end Command

namespace Invocation

-- Reads the arguments behind the name of a command. The levels below are checked first; a flag
-- holds at whatever level it is given. There are two levels below the top at most.
def ofLevel (projectsFile : Option String) :
    Nat → Level → List String → Except Usage (Command × List Parameter)
  | depth, level, arguments => do
    let (given, below?) ← readLevel level false {} arguments
    match depth, below? with
    | depth + 1, some (below, rest) => do
        let (command, flags) ← ofLevel projectsFile depth below rest
        given.checkConflicts
        return (command, given.flags ++ flags)
    | _, _ => do
        let given ← Command.withDefaultProjects projectsFile level given
        if level = .top then
          let command ← Command.ofGiven level given
          return (command, given.flags)
        else
          given.checkConflicts
          let command ← Command.ofGiven level given
          return (command, given.flags)

def ofArguments (projectsFile : Option String) (arguments : List String) :
    Except Usage Invocation := do
  let (command, flags) ← ofLevel projectsFile 2 .top arguments
  return {
    command
    verbose := flags.contains .verbose
    quiet := flags.contains .quiet
    json := flags.contains .json
    noColor := flags.contains .noColor }

end Invocation

end TaskSearch.CommandLine
