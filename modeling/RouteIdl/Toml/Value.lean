/-!
# TOML values

The values of a TOML document, with how each table came about: which keys may still be added to it
depends on that.
-/

namespace RouteIdl.Toml

/-- How a table came about. -/
inductive Origin where
  /-- By a header of its own, or as the whole document. -/
  | header
  /-- On the way to a table with a header. -/
  | implied
  /-- By a dotted key. -/
  | dotted
  /-- Between braces; it is complete. -/
  | inline
  deriving DecidableEq

/-- A value of a TOML document. -/
inductive Value where
  /-- A text. -/
  | string (text : String)
  /-- A whole number of any size, or nothing if what is written is only shaped like one. -/
  | integer (n : Option Int)
  /-- A floating point number, or nothing if it is too large for one. -/
  | float (x : Option Float)
  /-- A truth value. -/
  | boolean (b : Bool)
  /-- A date, a time, or both. -/
  | datetime
  /-- Values between brackets. -/
  | array (elements : List Value)
  /-- Tables with one repeated header, the last one first. -/
  | tables (last : List (String × Value)) (earlier : List (List (String × Value)))
  /-- A table. -/
  | table (origin : Origin) (entries : List (String × Value))

/-- A table under construction. -/
structure Table where
  /-- How it came about. -/
  origin : Origin
  /-- Its entries, in order. -/
  entries : List (String × Value)

namespace Table

/-- The table as a value. -/
def toValue (table : Table) : Value :=
  .table table.origin table.entries

/-- The document before its first line. -/
def root : Table := ⟨.header, []⟩

/-- Give a key a value, in its place if it has one. -/
def put (table : Table) (key : String) (value : Value) : Table :=
  if (table.entries.lookup key).isSome then
    { table with entries := table.entries.map fun entry =>
        if entry.1 = key then (key, value) else entry }
  else { table with entries := table.entries ++ [(key, value)] }

/-- Change the table at the end of a path of keys. Tables on the way are added where they are
missing. A path of dotted keys does not lead through tables with headers, and no path leads through
complete tables. -/
def edit (dotted : Bool) (change : Table → Option Table) : List String → Table → Option Table
  | [], table => change table
  | key :: path, table =>
      match table.entries.lookup key with
      | none => do
          let child ← edit dotted change path ⟨if dotted then .dotted else .implied, []⟩
          return table.put key child.toValue
      | some (.table origin entries) =>
          if origin = .inline ∨ (dotted ∧ origin = .header) then none
          else do
            let child ← edit dotted change path ⟨origin, entries⟩
            return table.put key child.toValue
      | some (.tables last earlier) => do
          let child ← edit dotted change path ⟨.header, last⟩
          return table.put key (.tables child.entries earlier)
      | some _ => none

/-- Add an entry under a key that is still free. Tables made by dotted keys take entries with dotted
keys only, and other tables entries with plain keys only. -/
def add (dotted : Bool) (key : String) (value : Value) (table : Table) : Option Table :=
  if (table.origin = .dotted) ≠ (dotted = true) then none
  else if (table.entries.lookup key).isSome then none
  else some (table.put key value)

/-- Add an entry under a dotted key. -/
def addAt (path : List String) (key : String) (value : Value) (table : Table) : Option Table :=
  table.edit true (add (!path.isEmpty) key value) path

/-- Begin a table with a header. It may have been implied before, but not defined. -/
def openTable (path : List String) (key : String) (table : Table) : Option Table :=
  let begun (parent : Table) : Option Table :=
    match parent.entries.lookup key with
    | none => some (parent.put key (.table .header []))
    | some (.table .implied entries) => some (parent.put key (.table .header entries))
    | some _ => none
  table.edit false begun path

/-- Begin one more table with a repeated header. -/
def openElement (path : List String) (key : String) (table : Table) : Option Table :=
  let begun (parent : Table) : Option Table :=
    match parent.entries.lookup key with
    | none => some (parent.put key (.tables [] []))
    | some (.tables last earlier) => some (parent.put key (.tables [] (last :: earlier)))
    | some _ => none
  table.edit false begun path

end Table

end RouteIdl.Toml
