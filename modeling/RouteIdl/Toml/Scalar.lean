import RouteIdl.Toml.Lexeme
import RouteIdl.Toml.Value

/-!
# TOML scalars

Values without quotes and brackets: truth values, numbers, dates and times. A number is judged
twice. Reading it settles its shape, and a text of no shape is malformed; whether it has a value
matters only where the value is looked at.
-/

namespace RouteIdl.Toml

/-! ## Digits -/

/-- A sign and what follows it. -/
def splitSign : List Char → Bool × List Char
  | '-' :: rest => (true, rest)
  | '+' :: rest => (false, rest)
  | text => (false, text)

/-- Whether every underscore of a text stands between two digits. The character before the first one
may also be a sign that begins the text. -/
def separatesDigits (isDigit : Char → Bool) (text : List Char) : Bool :=
  match text.splitOn '_' with
  | first :: second :: others =>
      (first.length == 1 || first.getLast?.any isDigit) &&
        ((second :: others).all fun group => group.head?.any isDigit) &&
        ((second :: others).dropLast.all fun group => group.getLast?.any isDigit)
  | _ => true

/-! ## Numbers -/

/-- The number that a sign and digits of a base stand for, without underscores. There has to be a
digit. -/
def integer? (base : Nat) (text : List Char) : Option Int :=
  let (negative, digits) := splitSign (text.filter (· != '_'))
  if digits.isEmpty || !digits.all (Text.isDigitOf base) then none
  else
    let n : Int := (Text.ofDigits base digits : Nat)
    some (if negative then -n else n)

/-- A whole number in a base. The underscores in it may have hexadecimal digits beside them in any
base. -/
def wholeNumber (base : Nat) (text : List Char) : Option Value :=
  if separatesDigits (Text.isDigitOf 16) text then some (.integer (integer? base text)) else none

/-- A whole number after the letter of its base. There need not be a digit. -/
def radixNumber (base : Nat) (text : List Char) : Option Value :=
  if text.all fun c => c == '_' || Text.isDigitOf base c then wholeNumber base text else none

/-- The floating point number with given digits times a power of ten, unless it is too large. -/
def scaled (digits : List Char) (exponent : Int) : Option Float :=
  let significand := Text.ofDigits 10 digits
  let leading := exponent + digits.length
  if significand = 0 ∨ leading < -400 then some (Float.ofNat 0)
  else if 400 + digits.length < leading then none
  else
    let x := Float.ofScientific significand (exponent < 0) exponent.natAbs
    if x.isFinite then some x else none

/-- One or more decimal digits, with underscores in any place. -/
def decimalDigits : Reader (List Char) := fun input =>
  let run := input.takeWhile fun c => c.isDigit || c == '_'
  let digits := run.filter (· != '_')
  if digits.isEmpty then none else some (digits, input.drop run.length)

/-- The digits after a point, if there is one. -/
def fraction : Reader (List Char)
  | '.' :: rest => decimalDigits rest
  | rest => some ([], rest)

/-- The number after the letter of an exponent, if there is one. -/
def exponent : Reader Int
  | [] => some (0, [])
  | letter :: rest =>
      if letter = 'e' ∨ letter = 'E' then do
        let (negative, rest) := splitSign rest
        let (digits, rest) ← decimalDigits rest
        let n : Int := (Text.ofDigits 10 digits : Nat)
        some (if negative then -n else n, rest)
      else none

/-- The value of a floating point number without a sign, which is nothing if it is too large.
Several digits before the point do not begin with a zero. -/
def decimal? (text : List Char) : Option (Option Float) := do
  let (whole, rest) ← decimalDigits text
  let (fraction, rest) ← fraction rest
  let (exponent, rest) ← exponent rest
  if rest.isEmpty ∧ (whole.length = 1 ∨ text.head? ≠ some '0') then
    some (scaled (whole ++ fraction) (exponent - fraction.length))
  else none

/-- A floating point number. -/
def floatNumber (text : List Char) : Option Value := do
  let (negative, body) := splitSign text
  let x ← decimal? body
  if separatesDigits Char.isDigit text then
    some (.float (x.map fun x => if negative then -x else x))
  else none

/-! ## Dates and times -/

/-- The number that exactly so many decimal digits stand for. -/
def fixedNumber (count : Nat) : Reader Nat := fun input =>
  let digits := input.take count
  if digits.length = count ∧ digits.all Char.isDigit then
    some (Text.ofDigits 10 digits, input.drop count)
  else none

/-- The days of a month. -/
def daysIn (year month : Nat) : Nat :=
  if month = 2 then
    if year % 4 = 0 ∧ (year % 100 ≠ 0 ∨ year % 400 = 0) then 29 else 28
  else if month = 4 ∨ month = 6 ∨ month = 9 ∨ month = 11 then 30
  else 31

/-- What is left after a date of the calendar. -/
def date (input : List Char) : Option (List Char) := do
  let (year, rest) ← fixedNumber 4 input
  let rest ← expect '-' rest
  let (month, rest) ← fixedNumber 2 rest
  let rest ← expect '-' rest
  let (day, rest) ← fixedNumber 2 rest
  if 1 ≤ month ∧ month ≤ 12 ∧ 1 ≤ day ∧ day ≤ daysIn year month then some rest else none

/-- What is left after hours and minutes, of a day or of a distance from universal time. -/
def hourAndMinute (input : List Char) : Option (List Char) := do
  let (hour, rest) ← fixedNumber 2 input
  let rest ← expect ':' rest
  let (minute, rest) ← fixedNumber 2 rest
  if hour ≤ 23 ∧ minute ≤ 59 then some rest else none

/-- What is left after the seconds of a time, which may be left out. A leap second is allowed, and a
fraction too. -/
def seconds : List Char → Option (List Char)
  | ':' :: rest => do
      let (second, rest) ← fixedNumber 2 rest
      if 60 < second then none
      else
        match rest with
        | '.' :: rest =>
            let fraction := rest.takeWhile Char.isDigit
            if fraction.isEmpty then none else some (rest.drop fraction.length)
        | rest => some rest
  | rest => some rest

/-- What is left after a time of day. -/
def time (input : List Char) : Option (List Char) :=
  (hourAndMinute input).bind seconds

/-- What is left after the distance from universal time, if it is given. -/
def offset : List Char → Option (List Char)
  | 'Z' :: rest | 'z' :: rest => some rest
  | '+' :: rest | '-' :: rest => hourAndMinute rest
  | rest => some rest

/-- Whether a text is a date, a time, or both. -/
def isDatetime (text : List Char) : Bool :=
  match date text with
  | some [] => true
  | some (mark :: rest) =>
      (mark == 'T' || mark == 't' || mark == ' ') && ((time rest).bind offset) == some []
  | none => time text == some []

/-! ## Scalars -/

/-- A number in base ten, a date or a time, whose text without the sign is given too. What follows
the leading digits tells which of them it is. -/
def numeral (text body : List Char) : Option Value :=
  let rest := body.dropWhile Char.isDigit
  if body.isEmpty then none
  else if rest.head? = some '-' ∨ rest.head? = some ':' then
    if isDatetime text then some .datetime else none
  else if rest.any fun c => c == '.' || c == 'e' || c == 'E' then floatNumber text
  else if rest.isEmpty ∨ rest.head? = some '_' then
    if body.head? = some '0' ∧ body ≠ ['0'] then none else wholeNumber 10 text
  else none

/-- The value of a text without quotes and brackets. Bases other than ten take no sign. -/
def scalar? (text : List Char) : Option Value :=
  let (negative, body) := splitSign text
  if text = ['t', 'r', 'u', 'e'] then some (.boolean true)
  else if text = ['f', 'a', 'l', 's', 'e'] then some (.boolean false)
  else if body = ['i', 'n', 'f'] then
    some (.float (some (if negative then -1.0 / 0.0 else 1.0 / 0.0)))
  else if body = ['n', 'a', 'n'] then some (.float (some (0.0 / 0.0)))
  else
    match text with
    | '0' :: 'x' :: digits => radixNumber 16 digits
    | '0' :: 'o' :: digits => radixNumber 8 digits
    | '0' :: 'b' :: digits => radixNumber 2 digits
    | text => numeral text body

/-- Whether a character may occur in a value without quotes and brackets. -/
def isScalar (c : Char) : Bool :=
  !isBlank c && ['=', ',', '[', ']', '\x7b', '\x7d', '#', '\r', '\n'].all (· != c)

/-- A value without quotes and brackets. A single blank may stand between a date and a time. -/
def scalar : Reader Value := fun input => do
  let first := input.takeWhile isScalar
  let rest := input.drop first.length
  match date first, rest with
  | some [], ' ' :: c :: _ =>
      if c.isDigit then
        let second := (rest.drop 1).takeWhile isScalar
        let value ← scalar? (first ++ ' ' :: second)
        some (value, rest.drop (second.length + 1))
      else
        let value ← scalar? first
        some (value, rest)
  | _, _ =>
      let value ← scalar? first
      some (value, rest)

end RouteIdl.Toml
