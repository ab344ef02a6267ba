import TaskSearch.CommandLine.Files

set_option autoImplicit false

namespace TaskSearch.CommandLine

class Console (m : Type → Type) where
  print : String → m Unit
  flush : m (Except FileFault Unit)
  -- The script for a shell that completes arguments there, which another program makes.
  completions : String → String

def printLine {m : Type → Type} [Console m] (line : String) : m Unit :=
  Console.print (line ++ "\n")

-- Actions that keep a copy of what they print.
def Transcript (m : Type → Type) (α : Type) : Type :=
  StateT String m α

namespace Transcript

variable {m : Type → Type} [Monad m]

instance : Monad (Transcript m) :=
  inferInstanceAs (Monad (StateT String m))

def lift {α : Type} (action : m α) : Transcript m α :=
  StateT.lift action

def run {α : Type} (action : Transcript m α) : m (α × String) :=
  StateT.run action ""

instance [Files m] : Files (Transcript m) where
  isPresent path := lift (Files.isPresent path)
  isDirectory path := lift (Files.isDirectory path)
  read path := lift (Files.read path)
  makeDirectory path := lift (Files.makeDirectory path)
  write path text := lift (Files.write path text)

instance [Console m] : Console (Transcript m) where
  print text := fun printed => do
    Console.print text
    return ((), printed ++ text)
  flush := lift Console.flush
  completions := Console.completions m

end Transcript

end TaskSearch.CommandLine
