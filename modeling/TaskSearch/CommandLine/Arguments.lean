import TaskSearch.CommandLine.Parameter

set_option autoImplicit false

namespace TaskSearch.CommandLine

structure Given where
  flags : List Parameter := []
  values : List (Parameter × String) := []
  placed : List String := []
  -- The last parameter with a value, before it is checked; the value may still be missing.
  pending : Option (Parameter × Option String) := none
deriving DecidableEq, Repr

namespace Given

def accept (given : Given) (parameter : Parameter) (value : String) : Except Usage Given :=
  if (given.values.lookup parameter).isSome then .error .conflictingArguments
  else
    match parameter.fault? value with
    | some fault => .error fault
    | none => .ok { given with values := given.values ++ [(parameter, value)] }

def settle (given : Given) : Except Usage Given :=
  match given.pending with
  | none => .ok given
  | some (_, none) => .error .invalidValue
  | some (parameter, some value) => { given with pending := none }.accept parameter value

def addFlag (given : Given) (parameter : Parameter) : Except Usage Given := do
  let given ← given.settle
  match parameter with
  | .help => throw .help
  | .version => throw .version
  | _ =>
      if given.flags.contains parameter then throw .conflictingArguments
      else return { given with flags := given.flags ++ [parameter] }

def addValued (given : Given) (parameter : Parameter) (attached : Option String) :
    Except Usage Given := do
  let given ← given.settle
  match attached with
  | some value => given.accept parameter value
  | none => return { given with pending := some (parameter, none) }

def addPlaced (given : Given) (level : Level) (argument : String) : Except Usage Given := do
  let given ← given.settle
  return { given with
    placed := given.placed ++ [argument]
    pending := if level = .completions then some (.shell, some argument) else none }

def checkConflicts (given : Given) : Except Usage Unit :=
  if given.flags.contains .verbose && given.flags.contains .quiet then
    .error .conflictingArguments
  else .ok ()

def isEmpty (given : Given) : Bool :=
  given.flags.isEmpty && given.values.isEmpty && given.placed.isEmpty

end Given

def readLong (level : Level) (given : Given) (argument : List Char) : Except Usage Given :=
  let name := String.ofList (argument.takeWhile (· != '='))
  let attached :=
    match argument.dropWhile (· != '=') with
    | _ :: value => some (String.ofList value)
    | [] => none
  match level.parameters.find? (·.long? = some name) with
  | none => .error .unknownArgument
  | some parameter =>
      if parameter.takesValue then given.addValued parameter attached
      else if attached.isSome then .error .tooManyValues
      else given.addFlag parameter

-- Reads letters behind one hyphen. What follows the letter of a parameter with a value is its
-- value.
def readShort (level : Level) (given : Given) : List Char → Except Usage Given
  | [] => .ok given
  | c :: rest =>
    match level.parameters.find? (·.short? = some c) with
    | none => .error .unknownArgument
    | some parameter =>
        if parameter.takesValue then
          match rest with
          | [] => given.addValued parameter none
          | '=' :: value => given.addValued parameter (some (String.ofList value))
          | value => given.addValued parameter (some (String.ofList value))
        else do
          let given ← given.addFlag parameter
          readShort level given rest

def readHelp (level : Level) : List String → Usage
  | [] => .help
  | name :: rest =>
    match level.subcommand? name with
    | some below => readHelp below rest
    | none =>
        if name = "help" && level.hasSubcommands && rest.isEmpty then .help else .unknownCommand

def misplaced (level : Level) (literally : Bool) (argument : String) : Usage :=
  let isCommand := argument = "help" || (level.subcommand? argument).isSome
  if level.hasSubcommands && !(literally && isCommand) then .unknownCommand
  else .unknownArgument

def readPlaced (level : Level) (given : Given) (literally : Bool) (argument : String) :
    Except Usage Given :=
  if given.placed.length < level.places || level.repeatsLast then given.addPlaced level argument
  else .error (misplaced level literally argument)

def readLevel (level : Level) (literally : Bool) (given : Given) :
    List String → Except Usage (Given × Option (Level × List String))
  | [] => do return (← given.settle, none)
  | argument :: rest =>
    if literally then do
      let given ← readPlaced level given true argument
      readLevel level true given rest
    else
      match level.subcommand? argument with
      | some below => .ok (given, some (below, rest))
      | none =>
        if argument = "help" && level.hasSubcommands then .error (readHelp level rest)
        else
          match argument.toList with
          | ['-', '-'] => readLevel level true given rest
          | '-' :: '-' :: name => do
              let given ← readLong level given name
              readLevel level false given rest
          | '-' :: c :: letters => do
              let given ← readShort level given (c :: letters)
              readLevel level false given rest
          | _ =>
            match given.pending with
            | some (parameter, none) =>
                let given := { given with pending := some (parameter, some argument) }
                readLevel level false given rest
            | _ => do
                let given ← readPlaced level given false argument
                readLevel level false given rest

end TaskSearch.CommandLine
