import Std.Time.Format
import TaskSearch.CommandLine.Run

set_option autoImplicit false

namespace TaskSearch.CommandLine

def faultOfError : IO.Error → FileFault
  | .noFileOrDirectory .. => .notFound
  | .permissionDenied .. => .permissionDenied
  | .alreadyExists .. => .alreadyExists
  | .inappropriateType _ code reason =>
      if code = 20 then .notADirectory else if code = 21 then .isADirectory else .other reason
  | .invalidArgument _ code reason => if code = 36 then .nameTooLong else .other reason
  | error => .other (toString error)

def attempt {α : Type} (action : IO α) : IO (Except FileFault α) := do
  match ← action.toBaseIO with
  | .ok value => return .ok value
  | .error error => return .error (faultOfError error)

def readText (path : String) : IO (Except FileFault String) := do
  match ← attempt do (← IO.FS.Handle.mk path .read).readBinToEnd with
  | .error fault => return .error fault
  | .ok bytes =>
    match String.fromUTF8? bytes with
    | some text => return .ok text
    | none => return .error .noText

-- A path leads somewhere if what is there can be opened, or if it is kept from us.
def leadsSomewhere (path : String) : IO Bool := do
  match ← attempt (IO.FS.Handle.mk path .read) with
  | .ok _ | .error .permissionDenied => return true
  | .error _ => return false

def leadsToDirectory (path : String) : IO Bool :=
  return (← readText path) matches .error .isADirectory

instance : Files IO where
  isPresent := leadsSomewhere
  isDirectory := leadsToDirectory
  read := readText
  makeDirectory path := attempt (IO.FS.createDir path)
  write path text := attempt (IO.FS.writeFile path text)

instance : Console IO where
  print := IO.print
  flush := attempt do (← IO.getStdout).flush
  completions _ := ""

def currentEnvironment : IO Environment := do
  let values ← Environment.names.mapM fun name => return (name, ← IO.getEnv name)
  return Environment.ofLookup (fun name => (values.lookup name).join) none

def currentClock : IO Date.Clock := do
  let now ← Std.Time.Timestamp.now
  let nanos := now.toNanosecondsSinceUnixEpoch.val
  let perSecond : Int := Calendar.nanosPerSecond
  return { now := ⟨nanos / perSecond, (nanos % perSecond).toNat⟩, zone := ⟨0, []⟩ }

end TaskSearch.CommandLine

open TaskSearch.CommandLine in
def main (arguments : List String) : IO UInt32 := do
  let env ← currentEnvironment
  let outcome ← run env (← currentClock) arguments
  IO.eprint outcome.complaint
  return outcome.exitCode.toUInt32
