import TaskSearch.CommandLine.Command
import TaskSearch.CommandLine.Console
import TaskSearch.CommandLine.Environment
import TaskSearch.CommandLine.Outcome
import TaskSearch.Output.Document
import TaskSearch.Output.Table
import TaskSearch.ProjectFile

set_option autoImplicit false

namespace TaskSearch.CommandLine

open Date (Clock)

structure Printing where
  json : Bool
  colors : Bool
  quiet : Bool
deriving DecidableEq, Repr

namespace Printing

def ofInvocation (invocation : Invocation) (env : Environment) (configColor : Bool) :
    Printing where
  json := invocation.json
  colors := !invocation.noColor && !env.forbidsColor && configColor
  quiet := invocation.quiet

end Printing

def FilterRequest.options (request : FilterRequest) (config : Configuration) : ConversionOptions :=
  let options := config.conversionOptions
  { options with
    searchMode := request.searchMode.getD options.searchMode
    sortKey := request.sortKey.getD options.sortKey
    sortOrder := request.sortOrder.getD options.sortOrder }

def interpretationText? (printing : Printing) (interpretation : Interpretation) : Option String :=
  if printing.json then some ((Output.interpretationDocument interpretation).pretty ++ "\n")
  else if printing.quiet && !interpretation.hasErrors then none
  else some (Output.interpretationTable printing.colors interpretation)

section

variable {m : Type → Type} [Monad m] [Console m]

def Printing.choose (printing : Printing) (document : Json) (table : String) : m Unit :=
  if printing.json then printLine document.pretty else Console.print table

-- Each command says whether it was understood in full.
def runTokens (printing : Printing) (text : String) : ExceptT CommandError m Bool := do
  let lexemes ← ExceptT.mk (pure ((tokenize text).mapError .unreadableText))
  printing.choose (m := m) (Output.tokenDocument lexemes)
    (Output.tokenTable printing.colors lexemes)
  return true

def runParse (printing : Printing) (text : String) : ExceptT CommandError m Bool := do
  let query ← ExceptT.mk (pure ((Query.parse text).mapError .unreadableText))
  printing.choose (m := m) (Output.queryDocument query) (Output.queryTable printing.colors query)
  return !query.hasErrors

def runMatching (printing : Printing) (pattern : String) (texts : List String) (threshold : Nat) :
    ExceptT CommandError m Bool := do
  let found := Fuzzy.rank pattern texts threshold
  printing.choose (m := m) (Output.matchDocument pattern found)
    (Output.matchTable printing.colors found)
  return true

def runFilter (printing : Printing) (request : FilterRequest) (config : Configuration)
    (projects : List Project) (clock : Clock) : ExceptT CommandError m Bool := do
  let list : ProjectList := ⟨projects, config.threshold⟩
  let converter : Converter := ⟨list.directory, request.options config, clock⟩
  let interpretation ←
    ExceptT.mk (pure ((converter.interpret request.text).mapError .unreadableText))
  if let some text := interpretationText? printing interpretation then
    Console.print (m := m) text
  return !interpretation.hasErrors

def writeCompletions (shell : String) : ExceptT CommandError m Bool := do
  Console.print (m := m) (Console.completions m shell)
  if let .error fault ← Console.flush (m := m) then throw (.inputOutput fault)
  return true

end

section

variable {m : Type → Type} [Monad m] [Files m]

def loadProjects : Option String → ExceptT CommandError m (List Project)
  | none => return []
  | some path => do
      match ← Files.read (m := m) path with
      | .error fault => throw (.unreadableProjects path fault)
      | .ok text =>
        match Project.parseList? text with
        | some projects => return projects
        | none => throw (.invalidProjects path)

def configPath (env : Environment) : ExceptT CommandError m String :=
  match env.configPath? with
  | some path => return path
  | none => throw (.configuration .noDirectory)

def loadConfiguration (env : Environment) : ExceptT CommandError m Configuration := do
  let path ← configPath env
  if ← Files.isPresent (m := m) path then
    match ← Files.read (m := m) path with
    | .error fault => throw (.configuration (.unreadable fault))
    | .ok text =>
      match Configuration.parse? text with
      | some config => return config
      | none => throw (.configuration .unparsable)
  else return {}

def saveConfiguration (env : Environment) (config : Configuration) :
    ExceptT CommandError m Unit := do
  let path ← configPath env
  if let some directory := parentPath? path then
    if let .error fault ← Files.makeDirectories (m := m) directory then
      throw (.configuration (.directoryNotMade fault))
  match config.render? with
  | none => throw (.configuration .unrenderable)
  | some text =>
      if let .error fault ← Files.write (m := m) path text then
        throw (.configuration (.unwritable fault))

variable [Console m]

def changeSetting (printing : Printing) (env : Environment) (key value : String) :
    ExceptT CommandError m Bool := do
  let config ← loadConfiguration env
  match config.set key value with
  | .error error => throw (.configuration (.badSetting error))
  | .ok config => saveConfiguration env config
  let path ← configPath env
  if printing.json then
    printLine (m := m) (Json.object [("key", .string key), ("path", .string path),
      ("status", .string "success"), ("value", .string value)]).pretty
  else if !printing.quiet then
    printLine (m := m) ("Set " ++ key ++ " = " ++ value)
  return true

def configurationHead (colors : Bool) (path : String) : List String :=
  [Output.Style.bold.apply colors (Output.Style.green.apply colors "Configuration"), "",
    "File: " ++ path]

def configurationBody (isPresent : Bool) (config : Configuration) : List String :=
  let options := config.conversionOptions
  ["Exists: " ++ Configuration.booleanText isPresent, "",
    "[search]", "  mode: " ++ Keyword.name options.searchMode,
    "  fuzzy_limit: " ++ toString options.fuzzyLimit,
    "  fuzzy_threshold: " ++ toString config.threshold, "",
    "[sort]", "  key: " ++ Keyword.name options.sortKey,
    "  order: " ++ Keyword.name options.sortOrder, "",
    "[output]", "  color: " ++ Configuration.booleanText config.usesColor]

def showConfiguration (printing : Printing) (env : Environment) :
    ExceptT CommandError m Bool := do
  let config ← loadConfiguration env
  let path ← configPath env
  if printing.json then
    let isPresent ← Files.isPresent (m := m) path
    printLine (m := m) (Json.object [("config", config.document), ("exists", .boolean isPresent),
      ("path", .string path)]).pretty
  else if !printing.quiet then
    Console.print (m := m) (Output.joinLines (configurationHead printing.colors path))
    let isPresent ← Files.isPresent (m := m) path
    Console.print (m := m) (Output.joinLines (configurationBody isPresent config))
  return true

def showConfigurationPath (printing : Printing) (env : Environment) :
    ExceptT CommandError m Bool := do
  let path ← configPath env
  if printing.json then
    let isPresent ← Files.isPresent (m := m) path
    printLine (m := m)
      (Json.object [("exists", .boolean isPresent), ("path", .string path)]).pretty
  else printLine (m := m) path
  return true

def runConfigured (invocation : Invocation) (env : Environment) (clock : Clock)
    (config : Configuration) : ExceptT CommandError m Bool :=
  let printing := Printing.ofInvocation invocation env config.usesColor
  match invocation.command with
  | .tokens text => runTokens printing text
  | .parse text => runParse printing text
  | .filter request => do
      let projects ← loadProjects request.projectsFile
      runFilter printing request config projects clock
  | .matching pattern texts threshold => runMatching printing pattern texts threshold
  | .showConfiguration => showConfiguration printing env
  | .changeSetting key value => changeSetting printing env key value
  | .configurationPath => showConfigurationPath printing env
  | .completions _ => return true

-- Runs a command. Completions and the path of the configuration file can be had even if that file
-- is broken.
def runInvocation (invocation : Invocation) (env : Environment) (clock : Clock) :
    ExceptT CommandError m Bool :=
  match invocation.command with
  | .completions shell => writeCompletions shell
  | .configurationPath =>
      showConfigurationPath (Printing.ofInvocation invocation env true) env
  | _ => do
      let config ← loadConfiguration env
      runConfigured invocation env clock config

def run (env : Environment) (clock : Clock) (arguments : List String) : m Outcome := do
  match Invocation.ofArguments env.projectsFile arguments with
  | .error usage => return .refused usage
  | .ok invocation =>
    let (result, output) ← (runInvocation (m := Transcript m) invocation env clock).run.run
    match result with
    | .ok complete => return .reported { output, complete }
    | .error error => return .failed error { output, json := invocation.json }

end

end TaskSearch.CommandLine
