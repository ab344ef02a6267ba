import TaskSearch.CommandLine.Path

set_option autoImplicit false

namespace TaskSearch.CommandLine

structure Environment where
  configFile : Option String := none
  configHome : Option String := none
  home : Option String := none
  -- The home directory of the user's account, for an environment that does not name it.
  accountHome : Option String := none
  projectsFile : Option String := none
  noColor : Option String := none
deriving DecidableEq, Repr

namespace Environment

def names : List String :=
  ["TQ_CONFIG", "XDG_CONFIG_HOME", "HOME", "TQ_PROJECTS", "NO_COLOR"]

def ofLookup (lookup : String → Option String) (accountHome : Option String) : Environment where
  configFile := lookup "TQ_CONFIG"
  configHome := lookup "XDG_CONFIG_HOME"
  home := lookup "HOME"
  accountHome := accountHome
  projectsFile := lookup "TQ_PROJECTS"
  noColor := lookup "NO_COLOR"

def homeDirectory? (env : Environment) : Option String :=
  (env.home.filter (!·.isEmpty)).or env.accountHome

def configDirectory? (env : Environment) : Option String :=
  match env.configHome with
  | some path => some (joinPath path "tq")
  | none => env.homeDirectory?.map fun home => joinPath (joinPath home ".config") "tq"

def configPath? (env : Environment) : Option String :=
  env.configFile.or (env.configDirectory?.map fun path => joinPath path "config.toml")

def forbidsColor (env : Environment) : Bool :=
  env.noColor.any (!·.isEmpty)

end Environment

end TaskSearch.CommandLine
