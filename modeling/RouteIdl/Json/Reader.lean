import RouteIdl.Json.Lexeme

/-!
# Reading JSON values

Readers for arrays, objects and whole values, each made from readers of its parts. Containers nest
to a limit: a reader of values is given the number of containers that may still be opened.
-/

namespace RouteIdl.Json

/-- How many containers may be open at once. -/
def nestingLimit : Nat := 127

/-- The elements of an array up to its closing bracket, at least one. -/
def elementsRest {α : Type} (item : Reader α) : Nat → Reader (List α)
  | 0, _ => .error .truncated
  | fuel + 1, input => do
      let (first, rest) ← item input
      match skipBlanks rest with
      | [] => .error .truncated
      | .char ']' :: rest => .ok ([first], rest)
      | .char ',' :: rest =>
          let (others, rest) ← elementsRest item fuel rest
          .ok (first :: others, rest)
      | _ => .error .malformed

/-- The elements of an array, after the opening bracket. -/
def elements {α : Type} (item : Reader α) : Reader (List α) := fun input =>
  match skipBlanks input with
  | .char ']' :: rest => .ok ([], rest)
  | input => elementsRest item input.length input

/-- The key of a member. -/
def memberKey : Reader String := fun input =>
  match skipBlanks input with
  | [] => .error .truncated
  | .char '"' :: rest => stringRest rest
  | _ => .error .malformed

/-- What is left after the colon between a key and its value. -/
def colon (input : List Symbol) : Except Fault (List Symbol) :=
  word [':'] (skipBlanks input)

/-- The members of an object up to its closing brace, at least one. After each key, the step reads
the colon and the value and takes the collected state on. -/
def membersRest {σ : Type} (step : σ → String → Reader σ) : Nat → σ → Reader σ
  | 0, _, _ => .error .truncated
  | fuel + 1, state, input => do
      let (key, rest) ← memberKey input
      let (state, rest) ← step state key rest
      match skipBlanks rest with
      | [] => .error .truncated
      | .char '}' :: rest => .ok (state, rest)
      | .char ',' :: rest => membersRest step fuel state rest
      | _ => .error .malformed

/-- The members of an object, after the opening brace, collected from a first state on. -/
def members {σ : Type} (step : σ → String → Reader σ) (state : σ) : Reader σ := fun input =>
  match skipBlanks input with
  | .char '}' :: rest => .ok (state, rest)
  | input => membersRest step input.length state input

/-- Read one more member of a plain object; a key that occurs again takes the later value. -/
def putMember (value : Reader Json) (collected : List (String × Json)) (key : String) :
    Reader (List (String × Json)) := fun input => do
  let rest ← colon input
  let (found, rest) ← value rest
  .ok (put collected key found, rest)

/-- A value whose containers hold values read by the given reader. Without one, no container may be
opened. -/
def valueOver (inner : Option (Reader Json)) : Reader Json := fun input =>
  match skipBlanks input with
  | [] => .error .truncated
  | .char '"' :: rest => do
      let (text, rest) ← stringRest rest
      .ok (.string text, rest)
  | .char '[' :: rest =>
      match inner with
      | none => .error .malformed
      | some inner => do
          let (found, rest) ← elements inner rest
          .ok (.array found, rest)
  | .char '{' :: rest =>
      match inner with
      | none => .error .malformed
      | some inner => do
          let (found, rest) ← members (putMember inner) [] rest
          .ok (.object found, rest)
  | .char 'n' :: rest => do
      let rest ← word ['u', 'l', 'l'] rest
      .ok (.null, rest)
  | .char 't' :: rest => do
      let rest ← word ['r', 'u', 'e'] rest
      .ok (.bool true, rest)
  | .char 'f' :: rest => do
      let rest ← word ['a', 'l', 's', 'e'] rest
      .ok (.bool false, rest)
  | symbol :: rest =>
      if symbol = .char '-' ∨ symbol.digit?.isSome then number (symbol :: rest)
      else .error .malformed

/-- A value, with the number of containers that may still be opened. -/
def value : Nat → Reader Json
  | 0 => valueOver none
  | room + 1 => valueOver (some (value room))

/-- A whole text: what the reader reads, with only blanks after it. -/
def whole {α : Type} (reader : Reader α) (input : List Symbol) : Except Fault α := do
  let (found, rest) ← reader input
  if (skipBlanks rest).isEmpty then .ok found else .error .malformed

/-- The value that a whole text stands for. -/
def ofSymbols (input : List Symbol) : Except Fault Json :=
  whole (value nestingLimit) input

/-- The value that a text stands for. -/
def ofText (text : String) : Except Fault Json :=
  ofSymbols (Symbol.ofText text)

end RouteIdl.Json
