import RouteIdl.Text.CharClass

/-!
# Modes of patterns

Flags inside a pattern switch how the parts after them are read and matched. Of characters beyond
ASCII neither the case nor the kind is known here, and only well-formed text is matched; so a mode
admits some parts and refuses others.
-/

namespace RouteIdl.Log.Pattern

/-- A character as a pattern names it. -/
structure Literal where
  /-- The character. -/
  char : Char
  /-- Whether it is given as the number of a byte. -/
  isByte : Bool

/-- How the parts of a pattern are read and matched. -/
structure Mode where
  /-- Whether letters match whatever their case. -/
  ignoresCase : Bool
  /-- Whether characters are matched, and not bytes. -/
  matchesChars : Bool
  /-- Whether blanks and comments between the parts are passed over. -/
  passesBlanks : Bool

namespace Mode

/-- The mode at the beginning of a pattern. -/
def plain : Mode := ⟨false, true, false⟩

/-! ## Flags -/

/-- Whether a text consists of flags, each at most once, perhaps with a dash before some of them. -/
def areFlags (text : List Char) : Bool :=
  text.eraseDups.length == text.length && text.getLast? != some '-' &&
    text.all fun c => "imsUuRx-".contains c

/-- A mode after flags. Those before a dash are switched on and those after it off. -/
def switch (mode : Mode) (flags : List Char) : Mode :=
  let on := flags.takeWhile (· != '-')
  let off := flags.drop on.length
  let state (flag : Char) (before : Bool) : Bool :=
    on.contains flag || (before && !off.contains flag)
  ⟨state 'i' mode.ignoresCase, state 'u' mode.matchesChars, state 'x' mode.passesBlanks⟩

/-! ## What a mode admits -/

/-- Whether a literal is admitted. Without regard to case it is so only as a byte, because the other
case of a character is not known, and a byte beyond ASCII is not a character. -/
def admitsLiteral (mode : Mode) (literal : Literal) : Bool :=
  if mode.matchesChars then !mode.ignoresCase
  else !literal.isByte || literal.char.toNat < 128

/-- Whether a literal is admitted in a class. A class of bytes has only those of ASCII. -/
def admitsMember (mode : Mode) (literal : Literal) : Bool :=
  if mode.matchesChars then !mode.ignoresCase else literal.char.toNat < 128

/-- Whether a class with a name is admitted, or the one of all other characters. -/
def admitsNamed (mode : Mode) (isNegated : Bool) : Bool :=
  if mode.matchesChars then !mode.ignoresCase else !isNegated

/-- Whether the digits, the blanks or the characters of words are admitted, or all other characters.
Beyond ASCII they are not known. -/
def admitsKind (mode : Mode) (isNegated : Bool) : Bool :=
  !mode.matchesChars && !isNegated

/-! ## Blanks -/

/-- Whether a character is a blank. -/
def isBlank (c : Char) : Bool := Text.CharSet.whiteSpace.contains c

/-- What is left after blanks, and after comments from a number sign to the end of the line; a
comment may have begun already. -/
def afterBlanks (inComment : Bool) : List Char → List Char
  | [] => []
  | c :: rest =>
      if inComment then afterBlanks (c != '\n') rest
      else if c == '#' then afterBlanks true rest
      else if isBlank c then afterBlanks false rest
      else c :: rest

/-- The text from the next part on. -/
def skip (mode : Mode) (text : List Char) : List Char :=
  if mode.passesBlanks then afterBlanks false text else text

/-- The character that decides whether a dash stands between the ends of a range. Where blanks are
passed over, a number sign among them is so too, but not the comment after it. -/
def peek? (mode : Mode) (text : List Char) : Option Char :=
  if mode.passesBlanks then
    match text.dropWhile isBlank with
    | '#' :: rest => (rest.dropWhile isBlank).head?
    | rest => rest.head?
  else text.head?

/-- So many characters, apart from what is passed over before each of them, and what is left. -/
def take? (mode : Mode) : Nat → List Char → Option (List Char × List Char)
  | 0, text => some ([], text)
  | count + 1, text =>
      match mode.skip text with
      | [] => none
      | c :: rest => (mode.take? count rest).map fun (chars, rest) => (c :: chars, rest)

end Mode

end RouteIdl.Log.Pattern
