/-!
# Shortest decimals of binary floating-point numbers

A finite double is a significand times a power of two. The reals that round to it form an
interval, and among the decimals in that interval the one with the fewest digits is
chosen, the nearer of two; where both are equally near, a rule for ties decides. The search
tries one digit, then two, and so on to seventeen, which always suffice; everything is exact
arithmetic on natural numbers.
-/

namespace MediaGrid.Decimal

/-- A number that is not negative, as a decimal significand and a power of ten. -/
structure Scaled where
  /-- The digits, read as a natural number. -/
  digits : Nat
  /-- The power of ten they are multiplied by. -/
  exponent : Int
  deriving Repr, DecidableEq

/-- The three kinds of double, apart from the sign. -/
inductive Magnitude where
  /-- Not a number. -/
  | nan
  /-- Beyond every finite number. -/
  | infinite
  /-- The number `significand * 2 ^ exponent`. -/
  | finite (significand : Nat) (exponent : Int)
  deriving Repr, DecidableEq

/-- Whether the sign bit of a double is set. -/
def isNegative (bits : UInt64) : Bool := 1 <<< 63 ≤ bits.toNat

/-- What the bits below the sign stand for. -/
def magnitude (bits : UInt64) : Magnitude :=
  let fraction : Nat := bits.toNat % (1 <<< 52)
  let field : Nat := (bits.toNat >>> 52) % 2048
  if field = 2047 then
    if fraction = 0 then .infinite else .nan
  else if field = 0 then .finite fraction (-1074)
  else .finite ((1 <<< 52) + fraction) (field - 1075)

/-- The number of decimal digits of a natural number; zero has one. -/
def digitCount (n : Nat) : Nat := (Nat.toDigits 10 n).length

/-- The power of ten just below or at `num / den`, both positive. -/
def leadingPower (num den : Nat) : Int :=
  if den ≤ num then digitCount (num / den) - 1
  else -(digitCount ((den + num - 1) / num - 1) : Int)

/-- The interval of reals that round to one double, over a common denominator. -/
structure Rounding where
  /-- Numerator of the lower end. -/
  low : Nat
  /-- Numerator of the double itself. -/
  value : Nat
  /-- Numerator of the upper end. -/
  high : Nat
  /-- The common denominator. -/
  den : Nat
  /-- Whether the ends themselves round to the double. -/
  closed : Bool

/-- The rounding interval of `significand * 2 ^ exponent`. The gap below a power of two is
half the gap above it. -/
def roundingOf (significand : Nat) (exponent : Int) : Rounding :=
  let narrow := significand = 1 <<< 52 ∧ exponent ≠ -1074
  let up := 1 <<< (exponent - 2).toNat
  { low := (4 * significand - if narrow then 1 else 2) * up
    value := 4 * significand * up
    high := (4 * significand + 2) * up
    den := 1 <<< (2 - exponent).toNat
    closed := significand % 2 = 0 }

/-- Whether a numerator over the common denominator lies in the interval. -/
def Rounding.admits (r : Rounding) (n : Nat) : Bool :=
  if r.closed then r.low ≤ n && n ≤ r.high else r.low < n && n < r.high

/-- The interval stretched by a factor. -/
def Rounding.scale (r : Rounding) (factor : Nat) : Rounding :=
  { r with low := r.low * factor, value := r.value * factor, high := r.high * factor }

/-- Where a double goes that stands halfway between two neighbouring decimals. -/
inductive Tie where
  /-- To the larger of the two, whatever the sign in front of them. -/
  | up
  /-- To the one whose last digit is even. -/
  | toEven
  deriving Repr, DecidableEq

/-- Whether the decimal `below + 1` is taken for a double halfway between it and `below`. -/
def Tie.takesUpper (tie : Tie) (below : Nat) : Bool :=
  match tie with
  | .up => true
  | .toEven => below % 2 = 1

/-- The decimal on the grid of `10 ^ exponent` that rounds to the double, if one of the two
grid points around the double does; of two, the nearer, and the one that `tie` says when
both are equally near. -/
def Rounding.onGrid? (r : Rounding) (tie : Tie) (exponent : Int) : Option Scaled :=
  let r := r.scale (Nat.pow 10 (-exponent).toNat)
  let unit := r.den * Nat.pow 10 exponent.toNat
  let below := r.value / unit
  let lower := r.admits (below * unit)
  let upper := r.admits ((below + 1) * unit)
  let twice := 2 * (r.value - below * unit)
  let nearUpper := unit < twice || (unit == twice && tie.takesUpper below)
  if lower && !(upper && nearUpper) then some ⟨below, exponent⟩
  else if upper then some ⟨below + 1, exponent⟩
  else none

/-- Drops the trailing zeros of a decimal, at most `fuel` of them. -/
def Scaled.strip : Nat → Scaled → Scaled
  | 0, s => s
  | fuel + 1, s =>
    if s.digits ≠ 0 ∧ s.digits % 10 = 0 then
      Scaled.strip fuel ⟨s.digits / 10, s.exponent + 1⟩
    else s

/-- The shortest decimal that rounds to `significand * 2 ^ exponent`, with `tie` between two
that are equally short and equally near. -/
def shortest (tie : Tie) (significand : Nat) (exponent : Int) : Scaled :=
  if significand = 0 then ⟨0, 0⟩
  else
    let r := roundingOf significand exponent
    let top := leadingPower r.value r.den
    let found := (List.range 17).findSome? fun (n : Nat) => r.onGrid? tie (top - n)
    ((found.getD ⟨0, 0⟩).strip 20)

end MediaGrid.Decimal
