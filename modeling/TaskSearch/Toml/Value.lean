set_option autoImplicit false

namespace TaskSearch.Toml

inductive Value where
  | string (text : String)
  | integer (n : Int)
  | boolean (value : Bool)
  | float
  | dateTime
  | array (items : List Value)
  | table (entries : List (String × Value))

-- How a table came to be: by a header of its own, as a part of the header of another table, or as
-- a part of a dotted key.
inductive Origin where
  | header
  | implied
  | dotted
deriving DecidableEq, Repr

inductive Node where
  | value (value : Value)
  | table (origin : Origin) (entries : List (String × Node))
  | tables (items : List (List (String × Node)))

abbrev Entries :=
  List (String × Node)

mutual
def Node.toValue : Node → Value
  | .value value => value
  | .table _ entries => .table (entryValues entries)
  | .tables items => .array (tableValues items)

def entryValues : List (String × Node) → List (String × Value)
  | [] => []
  | (key, node) :: rest => (key, node.toValue) :: entryValues rest

def tableValues : List (List (String × Node)) → List Value
  | [] => []
  | entries :: rest => .table (entryValues entries) :: tableValues rest
end

namespace Entries

def put (key : String) (node : Node) : Entries → Entries
  | [] => [(key, node)]
  | (other, old) :: rest =>
      if other = key then (key, node) :: rest else (other, old) :: put key node rest

-- Edits the table at the end of a path. Tables that are missing on the way are made; of several
-- tables in a row the last one is meant. A dotted key does not lead into a table that has a header.
def editAt (dotted : Bool) (edit : Origin → Entries → Option Entries) (origin : Origin)
    (entries : Entries) : List String → Option Entries
  | [] => edit origin entries
  | key :: path =>
    match entries.lookup key with
    | none => do
        let fresh : Origin := if dotted then .dotted else .implied
        let inner ← editAt dotted edit fresh [] path
        some (put key (.table fresh inner) entries)
    | some (.table origin inner) =>
        if dotted && origin = .header then none
        else do
          let inner ← editAt dotted edit origin inner path
          some (put key (.table origin inner) entries)
    | some (.tables items) => do
        let last ← items.getLast?
        let last ← editAt dotted edit .header last path
        some (put key (.tables (items.dropLast ++ [last])) entries)
    | some (.value _) => none

-- Adds the value of a dotted key to a table. No key is set twice, and only tables made by dotted
-- keys are open to them.
def addValue (keys : List String) (value : Value) (origin : Origin) (entries : Entries) :
    Option Entries := do
  let key ← keys.getLast?
  let path := keys.dropLast
  let add (origin : Origin) (entries : Entries) : Option Entries :=
    if !path.isEmpty && origin != .dotted || (entries.lookup key).isSome then none
    else some (entries ++ [(key, .value value)])
  editAt true add origin entries path

def openTable (keys : List String) (root : Entries) : Option Entries := do
  let key ← keys.getLast?
  let add (_ : Origin) (entries : Entries) : Option Entries :=
    match entries.lookup key with
    | none => some (entries ++ [(key, .table .header [])])
    | some (.table .implied inner) => some (put key (.table .header inner) entries)
    | _ => none
  editAt false add .header root keys.dropLast

def appendTable (keys : List String) (root : Entries) : Option Entries := do
  let key ← keys.getLast?
  let add (_ : Origin) (entries : Entries) : Option Entries :=
    match entries.lookup key with
    | none => some (entries ++ [(key, .tables [[]])])
    | some (.tables items) => some (put key (.tables (items ++ [[]])) entries)
    | _ => none
  editAt false add .header root keys.dropLast

def addValueAt (current keys : List String) (value : Value) (root : Entries) : Option Entries :=
  editAt false (addValue keys value) .header root current

end Entries

end TaskSearch.Toml
