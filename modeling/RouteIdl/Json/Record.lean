import RouteIdl.Json.Reader
import RouteIdl.Json.Skip

/-!
# Reading records

Readers for values of a known form: strings, optional values, names from a closed list, and records.
A record is written as an object, in which unknown keys are skipped, or as an array of its entries
in order. Like the reader of values, each takes the number of containers that may still be opened.
-/

namespace RouteIdl.Json

/-- Refuse what comes next because something else was expected. A malformed lexeme is reported as
such. -/
def refuse {α : Type} (expected : String) (input : List Symbol) : Except Fault α :=
  let found (what : Found) : Except Fault α := .error (.mismatch (.kind what expected))
  match skipBlanks input with
  | [] => .error .truncated
  | .char 'n' :: rest => do
      let _ ← word ['u', 'l', 'l'] rest
      found .null
  | .char 't' :: rest => do
      let _ ← word ['r', 'u', 'e'] rest
      found (.bool true)
  | .char 'f' :: rest => do
      let _ ← word ['a', 'l', 's', 'e'] rest
      found (.bool false)
  | .char '"' :: rest => do
      let (text, _) ← stringRest rest
      found (.string text)
  | .char '[' :: _ => found .array
  | .char '{' :: _ => found .object
  | symbol :: rest =>
      if symbol = .char '-' ∨ symbol.digit?.isSome then do
        match ← number (symbol :: rest) with
        | (.integer n, _) => found (.integer n)
        | (.float x, _) => found (.float x)
        | _ => .error .malformed
      else .error .malformed

/-- A string. -/
def stringValue : Reader String := fun input =>
  match skipBlanks input with
  | .char '"' :: rest => stringRest rest
  | input => refuse "a string" input

/-- A value that may be null instead. -/
def optional {α : Type} (inner : Reader α) : Reader (Option α) := fun input =>
  match skipBlanks input with
  | .char 'n' :: rest => do
      let rest ← word ['u', 'l', 'l'] rest
      .ok (none, rest)
  | input => do
      let (found, rest) ← inner input
      .ok (some found, rest)

/-- The value that goes with a name of a closed list. -/
def named {α : Type} (names : List (String × α)) (name : String) : Except Fault α :=
  match names.lookup name with
  | some meant => .ok meant
  | none => .error (.mismatch (.unknownName name (names.map Prod.fst)))

/-- A name from a closed list: a string, or an object with that one key and the value null. -/
def nameValue {α : Type} (names : List (String × α)) (room : Nat) : Reader α := fun input =>
  match skipBlanks input with
  | [] => .error .truncated
  | .char '"' :: rest => do
      let (name, rest) ← stringRest rest
      let meant ← named names name
      .ok (meant, rest)
  | .char '{' :: rest =>
      if room = 0 then .error .malformed
      else
        match skipBlanks rest with
        | [] => .error .truncated
        | .char '"' :: rest => do
            let (name, rest) ← stringRest rest
            let meant ← named names name
            let rest ← colon rest
            match skipBlanks rest with
            | .char 'n' :: rest => do
                let rest ← word ['u', 'l', 'l'] rest
                match skipBlanks rest with
                | [] => .error .truncated
                | .char '}' :: rest => .ok (meant, rest)
                | _ => .error .malformed
            | rest => refuse "unit" rest
        | _ => .error .malformed
  | _ => .error .malformed

/-- One entry of a record that is being read: its key, whether it has to be there, and how its value
is read and put into the record. -/
structure Entry (σ : Type) where
  /-- The key of the entry. -/
  key : String
  /-- Whether the record is refused without it. -/
  mandatory : Bool
  /-- Read the value and put it into the record. -/
  read : σ → Reader σ

/-- An entry for a component of a record. -/
def Entry.of {σ α : Type} (key : String) (mandatory : Bool) (value : Reader α)
    (set : σ → α → σ) : Entry σ where
  key := key
  mandatory := mandatory
  read record input := do
    let (found, rest) ← value input
    .ok (set record found, rest)

/-- How a refusal names a record that is too short. -/
def describeRecord {σ : Type} (title : String) (entries : List (Entry σ)) : String :=
  "struct " ++ title ++ " with " ++ toString entries.length ++
    (if entries.length = 1 then " element" else " elements")

/-- The first mandatory entry of a list, with the number of entries before it. -/
def firstMandatory? {σ : Type} (entries : List (Entry σ)) : Option (Nat × Entry σ) :=
  entries.zipIdx.findSome? fun (entry, index) =>
    if entry.mandatory then some (index, entry) else none

/-- The entries of a record in order, after the opening bracket of its array and the given number of
entries. The array may end before entries that are not mandatory. -/
def entriesInOrder {σ : Type} (tooShort : Nat → Fault) :
    List (Entry σ) → Nat → σ → Reader σ
  | [], _, record, input =>
      match skipBlanks input with
      | [] => .error .truncated
      | .char ']' :: rest => .ok (record, rest)
      | _ => .error .malformed
  | entry :: others, index, record, input =>
      match skipBlanks input with
      | [] => .error .truncated
      | .char ']' :: rest =>
          match firstMandatory? (entry :: others) with
          | some (ahead, _) => .error (tooShort (index + ahead))
          | none => .ok (record, rest)
      | symbol :: rest => do
          let start ←
            if index = 0 then .ok (symbol :: rest)
            else if symbol = .char ',' then .ok rest
            else .error .malformed
          let (record, rest) ← entry.read record start
          entriesInOrder tooShort others (index + 1) record rest

/-- A record with the known keys met so far. -/
structure Draft (σ : Type) where
  /-- The record, with defaults for what has not been met. -/
  record : σ
  /-- The known keys met so far. -/
  keys : List String

/-- Read one more member of a record: a known key once, or an unknown one, which is skipped. -/
def putEntry {σ : Type} (entries : List (Entry σ)) (draft : Draft σ) (key : String) :
    Reader (Draft σ) := fun input =>
  match entries.find? (·.key == key) with
  | some entry =>
      if draft.keys.contains key then .error (.mismatch (.duplicate key))
      else do
        let rest ← colon input
        let (record, rest) ← entry.read draft.record rest
        .ok (⟨record, key :: draft.keys⟩, rest)
  | none => do
      let rest ← colon input
      let rest ← skipValue rest
      .ok (draft, rest)

/-- A record. The entries are given for the number of containers that may be opened inside it, and
what is absent keeps the value it has in the first record. -/
def record {σ : Type} (title : String) (entries : Nat → List (Entry σ)) (first : σ) (room : Nat) :
    Reader σ := fun input =>
  match skipBlanks input with
  | .char '[' :: rest =>
      match room with
      | 0 => .error .malformed
      | room + 1 =>
          let entries := entries room
          let tooShort length := .mismatch (.tooShort length (describeRecord title entries))
          entriesInOrder tooShort entries 0 first rest
  | .char '{' :: rest =>
      match room with
      | 0 => .error .malformed
      | room + 1 => do
          let entries := entries room
          let (draft, rest) ← members (putEntry entries) ⟨first, []⟩ rest
          match entries.find? fun entry => entry.mandatory && !draft.keys.contains entry.key with
          | some entry => .error (.mismatch (.missing entry.key))
          | none => .ok (draft.record, rest)
  | input => refuse ("struct " ++ title) input

/-- A list of values, as an array. -/
def list {α : Type} (item : Nat → Reader α) (room : Nat) : Reader (List α) := fun input =>
  match skipBlanks input with
  | .char '[' :: rest =>
      match room with
      | 0 => .error .malformed
      | room + 1 => elements (item room) rest
  | input => refuse "a sequence" input

end RouteIdl.Json
