import RouteIdl.Decimal.Shortest
import RouteIdl.Json.Value

/-!
# JSON text

The compact text of a JSON value: no blanks, members in order, and only those characters of a
string escaped that have to be.
-/

namespace RouteIdl.Json

/-- The hexadecimal digit of a number below sixteen, in lower case. -/
def hexDigit (n : Nat) : Char :=
  "0123456789abcdef".toList.getD n '0'

/-- How a character of a string is written between the quotes. -/
def escapeChar (c : Char) : List Char :=
  match c with
  | '"' => ['\\', '"']
  | '\\' => ['\\', '\\']
  | '\x08' => ['\\', 'b']
  | '\x0c' => ['\\', 'f']
  | '\n' => ['\\', 'n']
  | '\r' => ['\\', 'r']
  | '\t' => ['\\', 't']
  | _ =>
      if c.toNat < 32 then
        ['\\', 'u', '0', '0', hexDigit (c.toNat / 16), hexDigit (c.toNat % 16)]
      else [c]

/-- A string in quotes. -/
def stringChars (text : String) : List Char :=
  '"' :: text.toList.flatMap escapeChar ++ ['"']

/-- The decimal digits of an integer, after a minus sign if it is negative. -/
def integerChars (n : Int) : List Char :=
  (if n < 0 then ['-'] else []) ++ Nat.toDigits 10 n.natAbs

/-- A positive decimal. It is written out in full, with at least one digit after the point, when its
first digit counts a power of ten from -5 to 15, and in exponent form otherwise. -/
def decimalChars (d : Decimal.Scientific) : List Char :=
  let digits := Nat.toDigits 10 d.significand
  let leading : Int := d.exponent + digits.length - 1
  if -5 ≤ leading ∧ leading < 0 then
    '0' :: '.' :: List.replicate (-leading - 1).toNat '0' ++ digits
  else if 0 ≤ leading ∧ leading ≤ 15 then
    if 0 ≤ d.exponent then digits ++ List.replicate d.exponent.toNat '0' ++ ['.', '0']
    else digits.take (leading.toNat + 1) ++ '.' :: digits.drop (leading.toNat + 1)
  else
    digits.take 1 ++ (if digits.length = 1 then [] else '.' :: digits.drop 1) ++
      ['e', if leading < 0 then '-' else '+'] ++ Nat.toDigits 10 leading.natAbs

/-- A floating point number: the shortest decimal that reads back as it. What is not finite has no
JSON text and is written as null. -/
def floatChars (x : Float) : List Char :=
  if x.isFinite then
    let magnitude := Decimal.Scientific.ofFloat x
    (if x.toBits.toNat < Nat.pow 2 63 then [] else ['-']) ++
      if magnitude.significand = 0 then ['0', '.', '0'] else decimalChars magnitude
  else ['n', 'u', 'l', 'l']

mutual

/-- The characters of a value. -/
def chars : Json → List Char
  | null => ['n', 'u', 'l', 'l']
  | bool true => ['t', 'r', 'u', 'e']
  | bool false => ['f', 'a', 'l', 's', 'e']
  | integer n => integerChars n
  | float x => floatChars x
  | string text => stringChars text
  | array elements => '[' :: elementChars [] elements ++ [']']
  | object members => '{' :: memberChars [] members ++ ['}']

/-- The characters of elements, the given ones before the first and a comma before the others. -/
def elementChars : List Char → List Json → List Char
  | _, [] => []
  | lead, element :: rest => lead ++ element.chars ++ elementChars [','] rest

/-- The characters of members, the given ones before the first and a comma before the others. -/
def memberChars : List Char → List (String × Json) → List Char
  | _, [] => []
  | lead, (key, value) :: rest =>
      lead ++ stringChars key ++ ':' :: value.chars ++ memberChars [','] rest

end

/-- The compact text of a value. -/
def text (json : Json) : String :=
  String.ofList json.chars

end RouteIdl.Json
