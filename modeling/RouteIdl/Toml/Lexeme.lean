import RouteIdl.Text.Digit

/-!
# Lexemes of TOML

Blanks, comments, strings and keys. A reader gives what it read and what is left, or nothing where
the text is malformed.
-/

namespace RouteIdl.Toml

/-- A reader takes a value off the front of a text. -/
abbrev Reader (α : Type) := List Char → Option (α × List Char)

/-- What is left after a given character. -/
def expect (c : Char) : List Char → Option (List Char)
  | d :: rest => if c = d then some rest else none
  | [] => none

/-- A blank within a line. -/
def isBlank (c : Char) : Bool :=
  c == ' ' || c == '\t'

/-- What is left after the leading blanks of a line. -/
def skipBlanks (input : List Char) : List Char :=
  input.dropWhile isBlank

/-- A control character other than the tab. No string and no comment holds one. -/
def isControl (c : Char) : Bool :=
  (c.toNat < 32 && c != '\t') || c.toNat == 127

/-- What is left after a line end. -/
def newline? : List Char → Option (List Char)
  | '\n' :: rest => some rest
  | '\r' :: '\n' :: rest => some rest
  | _ => none

/-- What is left after a comment, if one comes next. It ends before the line end. -/
def skipComment : List Char → Option (List Char)
  | '#' :: rest =>
      let after := rest.dropWhile fun c => !isControl c
      match after with
      | [] => some []
      | _ => if (newline? after).isSome then some after else none
  | input => some input

/-- What is left after blanks, comments and line ends. -/
def skipLines : Nat → List Char → Option (List Char)
  | 0, input => some input
  | fuel + 1, input => do
      let rest ← skipComment (skipBlanks input)
      match newline? rest with
      | some rest => skipLines fuel rest
      | none => some rest

/-! ## Strings -/

/-- The character of an escape, after the backslash. -/
def escape : Reader Char
  | 'b' :: rest => some ('\x08', rest)
  | 't' :: rest => some ('\t', rest)
  | 'n' :: rest => some ('\n', rest)
  | 'f' :: rest => some ('\x0c', rest)
  | 'r' :: rest => some ('\r', rest)
  | 'e' :: rest => some ('\x1b', rest)
  | '"' :: rest => some ('"', rest)
  | '\\' :: rest => some ('\\', rest)
  | 'x' :: rest => Text.numberedChar? 2 rest
  | 'u' :: rest => Text.numberedChar? 4 rest
  | 'U' :: rest => Text.numberedChar? 8 rest
  | _ => none

/-- The rest of a string on one line, with escapes or without. -/
def lineString (quote : Char) (escapes : Bool) : Nat → Reader (List Char)
  | 0, _ => none
  | _ + 1, [] => none
  | fuel + 1, c :: rest =>
      if c = quote then some ([], rest)
      else if escapes ∧ c = '\\' then do
        let (meant, rest) ← escape rest
        let (body, rest) ← lineString quote escapes fuel rest
        some (meant :: body, rest)
      else if isControl c then none
      else do
        let (body, rest) ← lineString quote escapes fuel rest
        some (c :: body, rest)

/-- What is left after blanks and line ends. -/
def skipBlankLines : Nat → List Char → List Char
  | 0, input => input
  | fuel + 1, input =>
      match newline? (skipBlanks input) with
      | some rest => skipBlankLines fuel rest
      | none => skipBlanks input

/-- What is left after a backslash that ends a line, and the blanks and line ends that follow. -/
def lineContinuation? (input : List Char) : Option (List Char) := do
  let rest ← newline? (skipBlanks input)
  some (skipBlankLines input.length rest)

/-- The rest of a string on several lines. Three quotes end it, and one or two more before them
belong to it. -/
def blockString (quote : Char) (escapes : Bool) : Nat → Reader (List Char)
  | 0, _ => none
  | fuel + 1, input =>
      let quotes := (input.takeWhile (· == quote)).length
      if 3 ≤ quotes then
        if quotes ≤ 5 then some (List.replicate (quotes - 3) quote, input.drop quotes) else none
      else
        match input with
        | [] => none
        | c :: rest =>
            if escapes ∧ c = '\\' then
              match lineContinuation? rest with
              | some rest => blockString quote escapes fuel rest
              | none => do
                  let (meant, rest) ← escape rest
                  let (body, rest) ← blockString quote escapes fuel rest
                  some (meant :: body, rest)
            else
              match newline? input with
              | some after => do
                  let (body, rest) ← blockString quote escapes fuel after
                  some (input.take (input.length - after.length) ++ body, rest)
              | none =>
                  if isControl c then none
                  else do
                    let (body, rest) ← blockString quote escapes fuel rest
                    some (c :: body, rest)

/-- A string after its first quote, on one line or on several. A line end right after three quotes
is dropped. -/
def quotedString (quote : Char) (escapes : Bool) : Reader String := fun input => do
  let (body, rest) ←
    match input with
    | a :: b :: rest =>
        if a = quote ∧ b = quote then
          blockString quote escapes (rest.length + 1) ((newline? rest).getD rest)
        else lineString quote escapes (input.length + 1) input
    | _ => lineString quote escapes (input.length + 1) input
  some (String.ofList body, rest)

/-! ## Keys -/

/-- The characters of keys without quotes. -/
def isBare (c : Char) : Bool :=
  c.isAlphanum || c == '_' || c == '-'

/-- One part of a key. -/
def keyPart : Reader String
  | '"' :: rest => (lineString '"' true (rest.length + 1) rest).map fun (body, rest) =>
      (String.ofList body, rest)
  | '\'' :: rest => (lineString '\'' false (rest.length + 1) rest).map fun (body, rest) =>
      (String.ofList body, rest)
  | input =>
      let bare := input.takeWhile isBare
      if bare.isEmpty then none else some (String.ofList bare, input.drop bare.length)

/-- The parts of a key, between dots, if there are not more than there is room for. -/
def keyParts : Nat → Reader (List String)
  | 0, _ => none
  | room + 1, input => do
      let (part, rest) ← keyPart (skipBlanks input)
      match skipBlanks rest with
      | '.' :: rest =>
          let (parts, rest) ← keyParts room rest
          some (part :: parts, rest)
      | rest => some ([part], rest)

/-- How many parts a key may have. -/
def keyLimit : Nat := 80

/-- A key, as the tables it leads through and the last part. -/
def key : Reader (List String × String) := fun input => do
  let (parts, rest) ← keyParts keyLimit input
  let last ← parts.getLast?
  some ((parts.dropLast, last), rest)

end RouteIdl.Toml
