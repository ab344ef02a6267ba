import TaskSearch.CommandLine.Files
import TaskSearch.CommandLine.Parameter
import TaskSearch.Json.Value
import TaskSearch.Query.Lexer
import TaskSearch.Setting

set_option autoImplicit false

namespace TaskSearch.CommandLine

inductive ConfigurationError where
  | noDirectory
  | unreadable (fault : FileFault)
  | unparsable
  | badSetting (error : SettingError)
  | directoryNotMade (fault : FileFault)
  | unrenderable
  | unwritable (fault : FileFault)
deriving DecidableEq, Repr

def ConfigurationError.message : ConfigurationError → String
  | noDirectory => "Could not determine config directory"
  | unreadable fault => "Failed to read config: " ++ fault.message
  | unparsable => "Failed to parse config"
  | badSetting error => error.message
  | directoryNotMade fault => "Failed to create config directory: " ++ fault.message
  | unrenderable => "Failed to serialize config"
  | unwritable fault => "Failed to write config: " ++ fault.message

inductive CommandError where
  | unreadableText (error : LexError)
  | unreadableProjects (path : String) (fault : FileFault)
  | invalidProjects (path : String)
  | configuration (error : ConfigurationError)
  | inputOutput (fault : FileFault)
deriving DecidableEq, Repr

namespace CommandError

def code : CommandError → String
  | unreadableText _ => "LEX_ERROR"
  | unreadableProjects _ _ | invalidProjects _ => "PROJECTS_ERROR"
  | configuration _ => "CONFIG_ERROR"
  | inputOutput _ => "IO_ERROR"

def message : CommandError → String
  | unreadableText error => "query error: " ++ error.message
  | unreadableProjects path fault =>
      "projects file " ++ path ++ if fault.isOfSystem then ": " ++ fault.message else ""
  | invalidProjects path => "projects file " ++ path
  | configuration error => "configuration error: " ++ error.message
  | inputOutput fault => "I/O error: " ++ fault.message

def document (error : CommandError) : Json :=
  .object [("error", .object [("code", .string error.code), ("message", .string error.message)])]

end CommandError

structure Report where
  output : String := ""
  complete : Bool := true
deriving DecidableEq, Repr

structure Failure where
  output : String := ""
  json : Bool := false
deriving DecidableEq, Repr

inductive Outcome where
  | refused (usage : Usage)
  | reported (report : Report)
  | failed (error : CommandError) (failure : Failure)
deriving DecidableEq, Repr

namespace Outcome

def exitCode : Outcome → Nat
  | refused .help | refused .version => 0
  | refused _ => 2
  | reported report => if report.complete then 0 else 2
  | failed _ _ => 1

def output : Outcome → String
  | refused _ => ""
  | reported report => report.output
  | failed _ failure => failure.output

def complaint : Outcome → String
  | failed error failure =>
      if failure.json then error.document.pretty ++ "\n" else "Error: " ++ error.message ++ "\n"
  | refused .help | refused .version | reported _ => ""
  | refused _ => "error: the arguments do not make a command\n"

end Outcome

end TaskSearch.CommandLine
