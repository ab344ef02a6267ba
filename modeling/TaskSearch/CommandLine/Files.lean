import TaskSearch.CommandLine.Path

set_option autoImplicit false

namespace TaskSearch.CommandLine

inductive FileFault where
  | notFound
  | permissionDenied
  | alreadyExists
  | notADirectory
  | isADirectory
  | nameTooLong
  | impossiblePath
  | noText
  | other (reason : String)
deriving DecidableEq, Repr

def FileFault.message : FileFault → String
  | notFound => "No such file or directory (os error 2)"
  | permissionDenied => "Permission denied (os error 13)"
  | alreadyExists => "File exists (os error 17)"
  | notADirectory => "Not a directory (os error 20)"
  | isADirectory => "Is a directory (os error 21)"
  | nameTooLong => "File name too long (os error 36)"
  | impossiblePath => "file name contained an unexpected NUL byte"
  | noText => "stream did not contain valid UTF-8"
  | other reason => reason

-- Whether the system has refused something. Otherwise it was not asked, or it gave what cannot be
-- used.
def FileFault.isOfSystem : FileFault → Bool
  | impossiblePath | noText => false
  | _ => true

class Files (m : Type → Type) where
  isPresent : String → m Bool
  isDirectory : String → m Bool
  read : String → m (Except FileFault String)
  makeDirectory : String → m (Except FileFault Unit)
  write : String → String → m (Except FileFault Unit)

namespace Files

variable {m : Type → Type} [Monad m] [Files m]

def orPresent (path : String) (fault : FileFault) : m (Except FileFault Unit) := do
  if ← isDirectory path then return .ok () else return .error fault

-- Makes the first of some paths a directory, where each path lies right below the next one. What
-- lies above is made only if the first attempt misses it.
def makeFirst : List String → m (Except FileFault Unit)
  | [] => return .ok ()
  | path :: above => do
      match ← makeDirectory path with
      | .ok () => return .ok ()
      | .error .notFound =>
        match ← makeFirst above with
        | .error fault => return .error fault
        | .ok () =>
          match ← makeDirectory path with
          | .ok () => return .ok ()
          | .error fault => orPresent path fault
      | .error fault => orPresent path fault

def makeDirectories (path : String) : m (Except FileFault Unit) :=
  makeFirst (pathAndAbove path)

end Files

end TaskSearch.CommandLine
