import RouteIdl.Json.Fault
import RouteIdl.Json.Symbol

/-!
# Lexemes of JSON

Words, strings and numbers, each read off the front of a text. A reader gives what it read and what
is left.
-/

namespace RouteIdl.Json

/-- A reader takes a value off the front of a text or says why it cannot. -/
abbrev Reader (α : Type) := List Symbol → Except Fault (α × List Symbol)

/-- What is left after given characters. -/
def word : List Char → List Symbol → Except Fault (List Symbol)
  | [], input => .ok input
  | _ :: _, [] => .error .truncated
  | c :: others, symbol :: rest =>
      if symbol = .char c then word others rest else .error .malformed

/-! ## Strings -/

/-- The character that a one-letter escape stands for. -/
def shortEscape? : Char → Option Char
  | '"' => some '"'
  | '\\' => some '\\'
  | '/' => some '/'
  | 'b' => some '\x08'
  | 'f' => some '\x0c'
  | 'n' => some '\n'
  | 'r' => some '\r'
  | 't' => some '\t'
  | _ => none

/-- Four hexadecimal digits. A text with fewer than four bytes left is too short for them. -/
def hexUnit : Reader Nat := fun input =>
  match (input.take 4).mapM Symbol.hexDigit? with
  | some [a, b, c, d] => .ok (((a * 16 + b) * 16 + c) * 16 + d, input.drop 4)
  | _ =>
      if (input.take 4).foldl (fun n symbol => n + symbol.byteCount) 0 < 4 then .error .truncated
      else .error .malformed

/-- The character of a numeric escape. One outside the first plane takes a leading and a trailing
unit, and neither of them stands alone. -/
def numericEscape : Reader Char := fun input => do
  let (unit, rest) ← hexUnit input
  if 0xDC00 ≤ unit ∧ unit ≤ 0xDFFF then .error .malformed
  else if 0xD800 ≤ unit ∧ unit ≤ 0xDBFF then
    let rest ← word ['\\', 'u'] rest
    let (second, rest) ← hexUnit rest
    if 0xDC00 ≤ second ∧ second ≤ 0xDFFF then
      .ok (Char.ofNat (0x10000 + (unit - 0xD800) * 0x400 + (second - 0xDC00)), rest)
    else .error .malformed
  else .ok (Char.ofNat unit, rest)

/-- The character of an escape, after the backslash. -/
def escape : Reader Char
  | [] => .error .truncated
  | .char 'u' :: rest => numericEscape rest
  | .char c :: rest =>
      match shortEscape? c with
      | some meant => .ok (meant, rest)
      | none => .error .malformed
  | .stray _ :: _ => .error .malformed

/-- An escape whose numeric form may be any four digits. -/
def looseEscape : Reader Char
  | .char 'u' :: rest => do
      let (_, rest) ← hexUnit rest
      .ok ('u', rest)
  | input => escape input

/-- The symbols of a string up to its closing quote, escapes read by the given reader. -/
def stringBody (escape : Reader Char) : Nat → Reader (List Symbol)
  | _, [] => .error .truncated
  | 0, _ => .error .truncated
  | _ + 1, .char '"' :: rest => .ok ([], rest)
  | fuel + 1, .char '\\' :: rest => do
      let (c, rest) ← escape rest
      let (body, rest) ← stringBody escape fuel rest
      .ok (.char c :: body, rest)
  | fuel + 1, symbol :: rest =>
      match symbol with
      | .char c =>
          if c.toNat < 32 then .error .malformed
          else do
            let (body, rest) ← stringBody escape fuel rest
            .ok (symbol :: body, rest)
      | .stray _ => do
          let (body, rest) ← stringBody escape fuel rest
          .ok (symbol :: body, rest)

/-- A string, after the opening quote. It holds properly encoded characters only. -/
def stringRest : Reader String := fun input => do
  let (body, rest) ← stringBody escape input.length input
  match body.mapM Symbol.char? with
  | some text => .ok (String.ofList text, rest)
  | none => .error .malformed

/-- A string that nothing is made of, after the opening quote: any encoding and any numeric escape
will do. -/
def stringSkipped (input : List Symbol) : Except Fault (List Symbol) := do
  let (_, rest) ← stringBody looseEscape input.length input
  .ok rest

/-! ## Numbers -/

/-- The leading decimal digits and what is left. -/
def digits : List Symbol → List Nat × List Symbol
  | [] => ([], [])
  | symbol :: rest =>
      match symbol.digit? with
      | some d => (d :: (digits rest).1, (digits rest).2)
      | none => ([], symbol :: rest)

/-- Append digits to a significand while it fits 64 bits, and count the digits left out. -/
def gather (significand : Nat) : List Nat → Nat × Nat
  | [] => (significand, 0)
  | d :: rest =>
      if significand * 10 + d < Nat.pow 2 64 then gather (significand * 10 + d) rest
      else (significand, rest.length + 1)

/-- A significand times a power of ten, computed in floating point. Infinity is refused. -/
def scaled (significand : Nat) (exponent : Int) : Except Fault Float :=
  let x := Float.ofNat significand
  if significand = 0 then .ok x
  else if 0 ≤ exponent then
    let y := x * Float.ofScientific 1 false exponent.toNat
    if exponent ≤ 308 ∧ y.isFinite then .ok y else .error .malformed
  else if -308 ≤ exponent then .ok (x / Float.ofScientific 1 false exponent.natAbs)
  else if -616 ≤ exponent then
    .ok (x / Float.ofScientific 1 false 308 / Float.ofScientific 1 false (exponent.natAbs - 308))
  else .ok (Float.ofNat 0)

/-- The exponent of a number, after its mark. -/
def exponentPart (input : List Symbol) : Except Fault (Int × List Symbol) :=
  let (negative, input) :=
    match input with
    | .char '-' :: rest => (true, rest)
    | .char '+' :: rest => (false, rest)
    | _ => (false, input)
  match digits input with
  | ([], []) => .error .truncated
  | ([], _) => .error .malformed
  | (ds, rest) =>
      let magnitude : Int := (ds.foldl (fun n d => n * 10 + d) 0 : Nat)
      .ok (if negative then -magnitude else magnitude, rest)

/-- What may follow the digits of a significand with some power of ten: an exponent. -/
def afterDigits (significand : Nat) (power : Int) : Reader Float := fun input => do
  match input with
  | .char 'e' :: rest | .char 'E' :: rest =>
      let (exponent, rest) ← exponentPart rest
      let x ← scaled significand (power + exponent)
      .ok (x, rest)
  | _ =>
      let x ← scaled significand power
      .ok (x, input)

/-- What follows the integer part of a number that is not an integer: a fraction, which has at least
one digit, an exponent, or neither. -/
def fractional (significand dropped : Nat) : Reader Float
  | .char '.' :: rest =>
      match digits rest with
      | ([], []) => .error .truncated
      | ([], _) => .error .malformed
      | (ds, rest) =>
          let (significand, extra) := gather significand ds
          afterDigits significand (dropped - (ds.length - extra : Nat) : Int) rest
  | input => afterDigits significand dropped input

/-- A number without its sign. A zero stands alone before the point. The number stays an integer if
it has neither fraction nor exponent and is within 64 bits. -/
def unsignedNumber (negative : Bool) : Reader Json := fun input =>
  match digits input with
  | ([], []) => .error .truncated
  | ([], _) => .error .malformed
  | (0 :: _ :: _, _) => .error .malformed
  | (ds, rest) =>
      let (significand, dropped) := gather 0 ds
      let isInteger :=
        match rest with
        | .char '.' :: _ | .char 'e' :: _ | .char 'E' :: _ => false
        | _ => dropped = 0 && (!negative || (0 < significand && significand ≤ Nat.pow 2 63))
      if isInteger then
        .ok (.integer (if negative then -(significand : Int) else significand), rest)
      else do
        let (x, rest) ← fractional significand dropped rest
        .ok (.float (if negative then -x else x), rest)

/-- A number. -/
def number : Reader Json
  | .char '-' :: rest => unsignedNumber true rest
  | input => unsignedNumber false input

/-- What is left after a number that nothing is made of. Wherever a digit is missing, the number is
malformed, also at the end of the text. -/
def numberSkipped (input : List Symbol) : Except Fault (List Symbol) :=
  let input :=
    match input with
    | .char '-' :: rest => rest
    | _ => input
  let afterMark (input : List Symbol) : Except Fault (List Symbol) :=
    match input with
    | .char 'e' :: rest | .char 'E' :: rest =>
        match exponentPart rest with
        | .ok (_, rest) => .ok rest
        | .error _ => .error .malformed
    | _ => .ok input
  match digits input with
  | ([], _) => .error .malformed
  | (0 :: _ :: _, _) => .error .malformed
  | (_, .char '.' :: rest) =>
      match digits rest with
      | ([], _) => .error .malformed
      | (_, rest) => afterMark rest
  | (_, rest) => afterMark rest

end RouteIdl.Json
