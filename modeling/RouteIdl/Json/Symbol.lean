import RouteIdl.Text.Digit

/-!
# Input symbols

What a reader sees of an encoded text: the characters that are properly encoded in UTF-8, and the
single bytes that are not part of one.
-/

namespace RouteIdl.Json

/-- A character, or a byte that belongs to no character. -/
inductive Symbol where
  /-- A properly encoded character. -/
  | char (c : Char)
  /-- A byte outside every properly encoded character. -/
  | stray (byte : UInt8)
  deriving DecidableEq

namespace Symbol

/-- The symbols of a text. -/
def ofText (text : String) : List Symbol :=
  text.toList.map char

/-- The symbols of at most so many from a position of encoded text. -/
def ofBytesFrom (bytes : ByteArray) : Nat → Nat → List Symbol
  | 0, _ => []
  | fuel + 1, position =>
      if h : position < bytes.size then
        match bytes.utf8DecodeChar? position with
        | some c => char c :: ofBytesFrom bytes fuel (position + c.utf8Size)
        | none => stray bytes[position] :: ofBytesFrom bytes fuel (position + 1)
      else []

/-- The symbols of an encoded text. -/
def ofBytes (bytes : ByteArray) : List Symbol :=
  ofBytesFrom bytes bytes.size 0

/-- The character of a symbol that is one. -/
def char? : Symbol → Option Char
  | char c => some c
  | stray _ => none

/-- How many bytes encode the symbol. -/
def byteCount : Symbol → Nat
  | char c => c.utf8Size
  | stray _ => 1

/-- The value of a decimal digit. -/
def digit? : Symbol → Option Nat
  | char c => if c.isDigit then some (c.toNat - 48) else none
  | stray _ => none

/-- The value of a hexadecimal digit, in either case. -/
def hexDigit? : Symbol → Option Nat
  | char c => Text.hexValue? c
  | stray _ => none

/-- Whether the symbol may stand between the tokens of a JSON text. -/
def isBlank : Symbol → Bool
  | char c => c == ' ' || c == '\n' || c == '\t' || c == '\r'
  | stray _ => false

end Symbol

/-- What is left of a text after its leading blanks. -/
def skipBlanks (input : List Symbol) : List Symbol :=
  input.dropWhile Symbol.isBlank

end RouteIdl.Json
