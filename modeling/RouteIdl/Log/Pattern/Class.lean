import RouteIdl.Log.Pattern.Level
import RouteIdl.Log.Pattern.Mode
import RouteIdl.Text.Digit

/-!
# Classes of patterns

The parts of a pattern that match one character: escapes, and classes between brackets.
-/

namespace RouteIdl.Log.Pattern

/-! ## Escapes -/

/-- What an escape stands for. -/
inductive Escape where
  /-- A character. -/
  | literal (literal : Literal)
  /-- The digits, the blanks or the characters of words, or all other characters. -/
  | kind (isNegated : Bool)
  /-- The beginning or the end of the text. -/
  | textEdge
  /-- The beginning or the end of a word, or any other place. -/
  | wordEdge

/-- The escape whose backslash has been read, and what is left. Properties of characters are not
known, and groups are not referred to. -/
def escape? (mode : Mode) : List Char → Option (Escape × List Char)
  | [] => none
  | c :: rest =>
      let literal (c : Char) := some (Escape.literal ⟨c, false⟩, rest)
      let numbered (count : Nat) (isByte : Bool) := do
        let (digits, rest) ← mode.take? count rest
        let (c, _) ← Text.numberedChar? count digits
        some (Escape.literal ⟨c, isByte⟩, rest)
      match c with
      | 'x' => numbered 2 true
      | 'u' => numbered 4 false
      | 'U' => numbered 8 false
      | 'a' => literal '\x07'
      | 'f' => literal '\x0c'
      | 'n' => literal '\n'
      | 'r' => literal '\r'
      | 't' => literal '\t'
      | 'v' => literal '\x0b'
      | 'd' | 's' | 'w' => some (.kind false, rest)
      | 'D' | 'S' | 'W' => some (.kind true, rest)
      | 'A' | 'z' => some (.textEdge, rest)
      | 'b' | 'B' | '<' | '>' => some (.wordEdge, rest)
      | _ => if c.isAlphanum || 128 ≤ c.toNat then none else literal c

/-! ## Members of classes -/

/-- The classes with a name. -/
def classNames : List String :=
  ["alnum", "alpha", "ascii", "blank", "cntrl", "digit", "graph", "lower", "print", "punct",
    "space", "upper", "word", "xdigit"]

/-- Whether a class with a name, whose bracket has been read, stands for all other characters, and
what is left after it. -/
def namedClass? : List Char → Option (Bool × List Char)
  | ':' :: text =>
      let isNegated := text.head? = some '^'
      let text := if isNegated then text.drop 1 else text
      let name := text.takeWhile (· != ':')
      match text.drop name.length with
      | ':' :: ']' :: rest =>
          if classNames.contains (String.ofList name) then some (isNegated, rest) else none
      | _ => none
  | _ => none

/-- What is left after one member of a class, with the literal that it is, if it is one. -/
def classMember? (mode : Mode) (text : List Char) : Option (Option Literal × List Char) := do
  let (escape, rest) ←
    match text with
    | [] => none
    | '\\' :: rest => escape? mode rest
    | c :: rest => some (.literal ⟨c, false⟩, rest)
  match escape with
  | .literal literal => if mode.admitsMember literal then some (some literal, rest) else none
  | .kind isNegated => if mode.admitsKind isNegated then some (none, rest) else none
  | .textEdge | .wordEdge => none

/-- What is left after a member of a class or a range of characters, whose ends are literals in
order. -/
def classItem? (mode : Mode) (text : List Char) : Option (List Char) := do
  let (first, rest) ← classMember? mode text
  match mode.skip rest with
  | '-' :: others =>
      if mode.peek? others = some ']' ∨ mode.peek? others = some '-' then some ('-' :: others)
      else
        let (last, rest) ← classMember? mode (mode.skip others)
        if (← first).char ≤ (← last).char then some rest else none
  | rest => some rest

/-! ## Classes -/

/-- What is left after a caret at the beginning of a class. All bytes but some are not text. -/
def afterCaret? (mode : Mode) (text : List Char) : Option (List Char) :=
  match mode.skip text with
  | '^' :: rest => if mode.matchesChars then some rest else none
  | rest => some rest

/-- The depth of a class and what is left after it, given the levels of the classes around and its
own. At its beginning, dashes or one closing bracket belong to it. -/
def classEnd? (mode : Mode) : Nat → List Level → Level → Bool → List Char →
    Option (Nat × List Char)
  | 0, _, _, _, _ => none
  | fuel + 1, outer, level, atStart, text =>
      let text := mode.skip text
      let starts (c : Char) : Bool := c == '-' || (c == ']' && level.parts.isEmpty)
      if atStart && text.head?.any starts then do
        let (_, rest) ← classMember? mode text
        classEnd? mode fuel outer (level.add 0) (text.head? == some '-') rest
      else
        match text with
        | '[' :: rest =>
            match namedClass? rest with
            | some (isNegated, rest) =>
                if mode.admitsNamed isNegated then
                  classEnd? mode fuel outer (level.add 0) false rest
                else none
            | none => do
                let rest ← afterCaret? mode rest
                classEnd? mode fuel (level :: outer) .empty true rest
        | ']' :: rest =>
            let depth := level.depth + 1
            match outer with
            | [] => some (depth, rest)
            | level :: outer => classEnd? mode fuel outer (level.add depth) false rest
        | '&' :: '&' :: rest | '-' :: '-' :: rest | '~' :: '~' :: rest =>
            classEnd? mode fuel outer level.join false rest
        | text => do
            let rest ← classItem? mode text
            classEnd? mode fuel outer (level.add 0) false rest

/-- The depth of a class, whose bracket has been read, and what is left after it. -/
def classDepth? (mode : Mode) (text : List Char) : Option (Nat × List Char) := do
  let rest ← afterCaret? mode text
  classEnd? mode (rest.length + 1) [] .empty true rest

end RouteIdl.Log.Pattern
