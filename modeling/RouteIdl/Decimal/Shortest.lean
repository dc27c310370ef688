/-!
# Shortest decimals

The shortest decimal that reads back as a given binary floating point number, and of the shortest
ones the nearest. All arithmetic is exact: a positive number is a natural number over a scale, and
so are the ends of the interval of reals that round to it.
-/

namespace RouteIdl.Decimal

/-- The number significand · 10 ^ exponent. -/
structure Scientific where
  /-- All digits, as a natural number. -/
  significand : Nat
  /-- The power of ten that the last digit counts. -/
  exponent : Int
  deriving DecidableEq

/-- A positive number with the interval of reals that round to it, each over one scale. -/
structure Rounding where
  /-- The lower end of the interval. -/
  low : Nat
  /-- The number itself. -/
  value : Nat
  /-- The upper end of the interval. -/
  high : Nat
  /-- What the three are divided by. -/
  scale : Nat
  /-- Whether the ends round to the number too. -/
  closed : Bool

/-- The rounding interval of a positive finite number, from its 64 bits. An interval ends half way
to each neighbour, and the neighbour below a power of two is only half as far. -/
def Rounding.ofBits (bits : Nat) : Rounding :=
  let fraction := bits % Nat.pow 2 52
  let field := bits / Nat.pow 2 52 % Nat.pow 2 11
  let mantissa := if field = 0 then fraction else Nat.pow 2 52 + fraction
  let power : Int := (max field 1 : Nat) - 1077
  let unit := Nat.pow 2 power.toNat
  let gapBelow := if fraction = 0 ∧ 1 < field then 1 else 2
  { low := (4 * mantissa - gapBelow) * unit
    value := 4 * mantissa * unit
    high := (4 * mantissa + 2) * unit
    scale := Nat.pow 2 (-power).toNat
    closed := mantissa % 2 == 0 }

/-- The power of ten that the first digit of a number counts. -/
def Rounding.leading (r : Rounding) : Int :=
  let guess : Int := (Nat.toDigits 10 r.value).length - (Nat.toDigits 10 r.scale).length
  if r.scale * Nat.pow 10 guess.toNat ≤ r.value * Nat.pow 10 (-guess).toNat then guess else guess - 1

/-- Whether a decimal rounds to the number. -/
def Rounding.holds (r : Rounding) (d : Scientific) : Bool :=
  let point := d.significand * Nat.pow 10 d.exponent.toNat * r.scale
  let shift := Nat.pow 10 (-d.exponent).toNat
  if r.closed then r.low * shift ≤ point && point ≤ r.high * shift
  else r.low * shift < point && point < r.high * shift

/-- The decimal that counts a given power of ten, rounds to the number and is nearest to it, if
there is one. Half way between two of them, the even one is taken. -/
def Rounding.nearest? (r : Rounding) (exponent : Int) : Option Scientific :=
  let step := Nat.pow 10 exponent.toNat * r.scale
  let point := r.value * Nat.pow 10 (-exponent).toNat
  let floor : Scientific := ⟨point / step, exponent⟩
  let ceiling : Scientific := ⟨point / step + 1, exponent⟩
  match r.holds floor, r.holds ceiling with
  | true, true =>
      let rest := 2 * (point % step)
      if rest < step ∨ (rest = step ∧ floor.significand % 2 = 0) then some floor else some ceiling
  | true, false => some floor
  | false, true => some ceiling
  | false, false => none

/-- Drop up to a number of zeros from the end of the digits. -/
def Scientific.dropZeros : Nat → Scientific → Scientific
  | 0, d => d
  | fuel + 1, d =>
      if d.significand ≠ 0 ∧ d.significand % 10 = 0 then
        dropZeros fuel ⟨d.significand / 10, d.exponent + 1⟩
      else d

/-- The shortest decimal that rounds to a number. Seventeen digits always suffice. -/
def Rounding.shortest (r : Rounding) : Scientific :=
  let found := (List.range 17).findSome? fun (n : Nat) => r.nearest? (r.leading - n)
  (found.getD ⟨0, 0⟩).dropZeros 17

/-- The shortest decimal that reads back as the absolute value of a finite number. -/
def Scientific.ofFloat (x : Float) : Scientific :=
  let bits := x.toBits.toNat % Nat.pow 2 63
  if bits = 0 then ⟨0, 0⟩ else (Rounding.ofBits bits).shortest

end RouteIdl.Decimal
