import RouteIdl.Toml.Scalar

/-!
# Reading TOML

The table that a TOML document stands for. A document is read line by line: a header begins a table,
and an entry goes into the table begun last.
-/

namespace RouteIdl.Toml

/-- How many arrays and inline tables may be open at once. -/
def nestingLimit : Nat := 80

/-- The elements of an array up to its closing bracket. A comma may follow the last one. -/
def elements (value : Reader Value) : Nat → Reader (List Value)
  | 0, _ => none
  | fuel + 1, input => do
      match ← skipLines input.length input with
      | ']' :: rest => some ([], rest)
      | input =>
          let (first, rest) ← value input
          match ← skipLines rest.length rest with
          | ']' :: rest => some ([first], rest)
          | ',' :: rest =>
              let (others, rest) ← elements value fuel rest
              some (first :: others, rest)
          | _ => none

/-- An entry of an inline table, added to the table: a key, an equals sign and a value. Line ends
may come before and after the equals sign. -/
def inlineEntry (value : Reader Value) (table : Table) : Reader Table := fun input => do
  let ((path, key), rest) ← key input
  let rest ← expect '=' (← skipLines rest.length rest)
  let (found, rest) ← value (← skipLines rest.length rest)
  let table ← table.addAt path key found
  some (table, rest)

/-- The entries of an inline table up to its closing brace, added to a table. A comma may follow the
last one. -/
def inlineEntries (value : Reader Value) : Nat → Table → Reader Table
  | 0, _, _ => none
  | fuel + 1, table, input => do
      match ← skipLines input.length input with
      | '\x7d' :: rest => some (table, rest)
      | input =>
          let (table, rest) ← inlineEntry value table input
          match ← skipLines rest.length rest with
          | '\x7d' :: rest => some (table, rest)
          | ',' :: rest => inlineEntries value fuel table rest
          | _ => none

/-- A value whose arrays and inline tables hold values read by the given reader, if it is given. -/
def valueOver (inner : Option (Reader Value)) : Reader Value
  | '"' :: rest => (quotedString '"' true rest).map fun (text, rest) => (.string text, rest)
  | '\'' :: rest => (quotedString '\'' false rest).map fun (text, rest) => (.string text, rest)
  | '[' :: rest => do
      let inner ← inner
      let (found, rest) ← elements inner (rest.length + 1) rest
      some (.array found, rest)
  | '\x7b' :: rest => do
      let inner ← inner
      let (table, rest) ← inlineEntries inner (rest.length + 1) .root rest
      some (.table .inline table.entries, rest)
  | input => scalar input

/-- A value, with the number of arrays and inline tables that may still be opened. -/
def value : Nat → Reader Value
  | 0 => valueOver none
  | room + 1 => valueOver (some (value room))

/-- The end of a line: blanks, a comment, and a line end or the end of the text. -/
def lineEnd (input : List Char) : Option (List Char) := do
  match ← skipComment (skipBlanks input) with
  | [] => some []
  | rest => newline? rest

/-- A document under construction. -/
structure Draft where
  /-- What has been read. -/
  root : Table
  /-- The keys that lead to the table begun last. -/
  path : List String

/-- Read a header, after its first bracket, and begin its table. -/
def header (draft : Draft) : Reader Draft
  | '[' :: rest => do
      let ((path, key), rest) ← key rest
      let rest ← expect ']' rest
      let rest ← expect ']' rest
      let root ← draft.root.openElement path key
      some (⟨root, path ++ [key]⟩, rest)
  | input => do
      let ((path, key), rest) ← key input
      let rest ← expect ']' rest
      let root ← draft.root.openTable path key
      some (⟨root, path ++ [key]⟩, rest)

/-- Read an entry into the table begun last. -/
def entryLine (draft : Draft) : Reader Draft := fun input => do
  let ((path, key), rest) ← key input
  let rest ← expect '=' rest
  let (found, rest) ← value nestingLimit (skipBlanks rest)
  let root ← draft.root.edit false (Table.addAt path key found) draft.path
  some (⟨root, draft.path⟩, rest)

/-- Read the remaining lines of a document. -/
def lines : Nat → Draft → List Char → Option Table
  | 0, _, _ => none
  | fuel + 1, draft, input => do
      match ← skipLines input.length input with
      | [] => some draft.root
      | '[' :: rest =>
          let (draft, rest) ← header draft rest
          lines fuel draft (← lineEnd rest)
      | rest =>
          let (draft, rest) ← entryLine draft rest
          lines fuel draft (← lineEnd rest)

/-- The table that a document stands for. A byte order mark in front of it does not count. -/
def ofText? (text : String) : Option Table :=
  let input :=
    match text.toList with
    | '\ufeff' :: rest => rest
    | all => all
  lines (input.length + 1) ⟨.root, []⟩ input

end RouteIdl.Toml
