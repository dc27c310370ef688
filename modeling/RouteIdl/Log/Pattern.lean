import RouteIdl.Log.Pattern.Class

/-!
# Search patterns

Which texts are well-formed search patterns. A pattern here is the value of a field in a directive,
where commas and closing braces have a meaning of their own; so an opening brace, which would need a
closing one, is plain only inside a class.
-/

namespace RouteIdl.Log.Pattern

/-! ## Groups -/

/-- Whether a text is the name of a group. -/
def isGroupName : List Char → Bool
  | [] => false
  | c :: rest =>
      let letter (c : Char) := c == '_' || Text.CharSet.alphanumeric.contains c
      letter c && !Text.CharSet.numeric.contains c &&
        rest.all fun c => letter c || ".[]".contains c

/-- What an opening bracket begins. -/
inductive Opening where
  /-- A group, which may have a name, and the mode inside. -/
  | group (name : Option (List Char)) (mode : Mode)
  /-- Flags alone, and the mode after them. -/
  | flags (mode : Mode)

/-- What an opening bracket begins that has been read, and what is left. -/
def opening? (mode : Mode) (text : List Char) : Option (Opening × List Char) :=
  match mode.skip text with
  | '?' :: 'P' :: '<' :: rest | '?' :: '<' :: rest =>
      let name := rest.takeWhile (· != '>')
      if isGroupName name && name.length < rest.length then
        some (.group (some name) mode, rest.drop (name.length + 1))
      else none
  | '?' :: rest =>
      let flags := rest.takeWhile fun c => c != ':' && c != ')'
      match Mode.areFlags flags, rest.drop flags.length with
      | true, ':' :: rest => some (.group none (mode.switch flags), rest)
      | true, ')' :: rest =>
          if flags.isEmpty then none else some (.flags (mode.switch flags), rest)
      | _, _ => none
  | rest => some (.group none mode, rest)

/-! ## Reading -/

/-- What is known of a pattern up to a position. -/
structure Progress where
  /-- The names of its groups. -/
  names : List (List Char)
  /-- The mode at the position. -/
  mode : Mode
  /-- What has been read inside the innermost group. -/
  level : Level
  /-- Whether its last part can be repeated. -/
  isRepeatable : Bool
  /-- The modes and levels around the open groups, the innermost first. -/
  outer : List (Mode × Level)

namespace Progress

/-- What is known at the beginning. -/
def start : Progress := ⟨[], .plain, .empty, false, []⟩

/-- The progress after a part that can be repeated. -/
def add (progress : Progress) (depth : Nat) : Progress :=
  { progress with level := progress.level.add depth, isRepeatable := true }

/-- The progress after an opening bracket. The names of groups differ. -/
def enter? (progress : Progress) : Opening → Option Progress
  | .flags mode =>
      some { progress with mode := mode, level := progress.level.add 0, isRepeatable := false }
  | .group name mode =>
      if name.any fun name => progress.names.contains name then none
      else some
        ⟨name.toList ++ progress.names, mode, .empty, false,
          (progress.mode, progress.level) :: progress.outer⟩

/-- The progress after a closing bracket. The mode is again the one before the group. -/
def leave? (progress : Progress) : Option Progress :=
  match progress.outer with
  | [] => none
  | (mode, level) :: outer =>
      some (add ⟨progress.names, mode, level, false, outer⟩ (progress.level.depth + 1))

/-- The progress after a backslash, and what is left. -/
def escape? (progress : Progress) (text : List Char) : Option (Progress × List Char) := do
  let (escape, rest) ← Pattern.escape? progress.mode text
  let admitted : Bool :=
    match escape with
    | .literal literal => progress.mode.admitsLiteral literal
    | .kind isNegated => progress.mode.admitsKind isNegated
    | .textEdge => true
    | .wordEdge => !progress.mode.matchesChars
  if admitted then some (progress.add 0, rest) else none

/-- The progress after a character, and what is left. -/
def step? (progress : Progress) (c : Char) (rest : List Char) : Option (Progress × List Char) :=
  let part (admitted : Bool) := if admitted then some (progress.add 0, rest) else none
  match c with
  | '(' => do
      let (opening, rest) ← opening? progress.mode rest
      some (← progress.enter? opening, rest)
  | ')' => progress.leave?.map fun progress => (progress, rest)
  | '|' =>
      some ({ progress with level := progress.level.alternate, isRepeatable := false }, rest)
  | '[' => (classDepth? progress.mode rest).map fun (depth, rest) => (progress.add depth, rest)
  | '?' | '*' | '+' =>
      let rest := if rest.head? = some '?' then rest.drop 1 else rest
      if progress.isRepeatable then
        some ({ progress with level := progress.level.repeatLast }, rest)
      else none
  | '\x7b' => none
  | '\\' => progress.escape? rest
  | '.' => part progress.mode.matchesChars
  | '^' | '$' => part true
  | c => part (progress.mode.admitsLiteral ⟨c, false⟩)

end Progress

/-- The depth of a pattern, given what is known of it up to a position and the text from there
on. -/
def depthFrom? : Nat → Progress → List Char → Option Nat
  | 0, _, _ => none
  | fuel + 1, progress, text =>
      match progress.mode.skip text with
      | [] => if progress.outer.isEmpty then some progress.level.depth else none
      | c :: rest => do
          let (progress, rest) ← progress.step? c rest
          depthFrom? fuel progress rest

/-- The depth of a text as a pattern, if it is one. -/
def depth? (text : List Char) : Option Nat :=
  depthFrom? (text.length + 1) .start text

/-- The greatest depth of a well-formed pattern. -/
def maxDepth : Nat := 250

/-- Whether a text is a well-formed pattern. -/
def isWellFormed (text : List Char) : Bool :=
  (depth? text).any (· ≤ maxDepth)

end RouteIdl.Log.Pattern
