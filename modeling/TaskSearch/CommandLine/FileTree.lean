import TaskSearch.CommandLine.Console

set_option autoImplicit false

namespace TaskSearch.CommandLine

-- A place in the tree: the names on the way to it. The first name of an absolute place is a
-- slash; two dots can only be the first names of a relative place.
abbrev Location := List String

structure FileTree where
  files : List (Location × String) := []
  directories : List Location := []
deriving DecidableEq, Repr

namespace FileTree

def isFile (tree : FileTree) (location : Location) : Bool :=
  (tree.files.lookup location).isSome

def isAbove (location below : Location) : Bool :=
  location.isPrefixOf below && location.length < below.length

def isOutside (location : Location) : Bool :=
  location.all (· == "..")

def isDirectory (tree : FileTree) (location : Location) : Bool :=
  isOutside location || location == ["/"] || tree.directories.contains location ||
    tree.files.any (isAbove location ·.1) || tree.directories.any (isAbove location ·)

def enter (location : Location) (part : String) : Location :=
  if part = "" || part = "." then location
  else if part = ".." then
    if location = ["/"] then location
    else if isOutside location then location ++ [".."]
    else location.dropLast
  else location ++ [part]

def nameLimit : Nat :=
  255

def pathLimit : Nat :=
  4096

def walk (tree : FileTree) (location : Location) : List String → Except FileFault Location
  | [] => .ok location
  | part :: parts =>
      if tree.isFile location then .error .notADirectory
      else if !tree.isDirectory location then .error .notFound
      else if nameLimit < part.utf8ByteSize then .error .nameTooLong
      else tree.walk (enter location part) parts

def beginning (path : String) : Location :=
  if path.toList.head? = some '/' then ["/"] else []

def checkPath (path : String) : Except FileFault Unit :=
  if path.toList.contains '\x00' then .error .impossiblePath
  else if path.isEmpty then .error .notFound
  else if pathLimit ≤ path.utf8ByteSize then .error .nameTooLong
  else .ok ()

def locate (tree : FileTree) (path : String) : Except FileFault Location := do
  checkPath path
  tree.walk (beginning path) (pathParts path)

def locateLast (tree : FileTree) (path : String) : Except FileFault (Location × String) := do
  checkPath path
  let (above, name) := splitLast (pathParts path)
  return (← tree.walk (beginning path) (above ++ ["."]), name)

def isPresent (tree : FileTree) (path : String) : Bool :=
  match tree.locate path with
  | .ok location => tree.isFile location || tree.isDirectory location
  | .error _ => false

def isDirectoryAt (tree : FileTree) (path : String) : Bool :=
  match tree.locate path with
  | .ok location => tree.isDirectory location
  | .error _ => false

def read (tree : FileTree) (path : String) : Except FileFault String := do
  let location ← tree.locate path
  match tree.files.lookup location with
  | some text => return text
  | none => throw (if tree.isDirectory location then .isADirectory else .notFound)

def makeDirectory (tree : FileTree) (path : String) : Except FileFault FileTree := do
  let (directory, name) ← tree.locateLast path
  let location ← tree.walk directory [name]
  if tree.isFile location || tree.isDirectory location then throw .alreadyExists
  return { tree with directories := location :: tree.directories }

def nullDevice : Location :=
  ["/", "dev", "null"]

def putFile (tree : FileTree) (location : Location) (text : String) : FileTree :=
  if location = nullDevice then tree
  else { tree with files := (location, text) :: tree.files.filter (·.1 != location) }

-- Writes a file. A path with a slash at its end is taken for that of a directory.
def write (tree : FileTree) (path text : String) : Except FileFault FileTree := do
  let (directory, name) ← tree.locateLast path
  if path.toList.getLast? = some '/' then throw .isADirectory
  let location ← tree.walk directory [name]
  if tree.isDirectory location then throw .isADirectory
  return tree.putFile location text

def systemDirectories : List Location :=
  ["bin", "boot", "dev", "etc", "home", "lib", "media", "mnt", "opt", "proc", "root", "run", "sbin",
    "srv", "sys", "tmp", "usr", "var"].map (["/", ·])

def ofFiles (files : List (String × String)) : FileTree where
  files := (nullDevice, "") :: files.map fun (path, text) => ((pathParts path).foldl enter [], text)
  directories := systemDirectories

def change (step : FileTree → Except FileFault FileTree) :
    StateM FileTree (Except FileFault Unit) :=
  fun tree =>
    match step tree with
    | .ok tree => (.ok (), tree)
    | .error fault => (.error fault, tree)

instance : Files (StateM FileTree) where
  isPresent path := return (← get).isPresent path
  isDirectory path := return (← get).isDirectoryAt path
  read path := return (← get).read path
  makeDirectory path := change (·.makeDirectory path)
  write path text := change (·.write path text)

instance : Console (StateM FileTree) where
  print _ := return
  flush := return .ok ()
  completions _ := ""

end FileTree

end TaskSearch.CommandLine
