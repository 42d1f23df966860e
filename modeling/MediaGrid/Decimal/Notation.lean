import MediaGrid.Decimal.Shortest

/-!
# Written forms of floating-point numbers

Two ways to write the shortest decimal of a double: positionally in full, as messages show
it, and in the form of data texts, which always shows a fraction or an exponent. They also
differ in a tie between two shortest decimals, so the two texts of one double may end in
different digits.
-/

namespace MediaGrid.Decimal

/-- `count` zeros. -/
def zeros (count : Nat) : String := String.ofList (List.replicate count '0')

/-- A decimal without exponent; a whole number has no point. -/
def Scaled.positional (s : Scaled) : String :=
  let digits := toString s.digits
  if 0 ≤ s.exponent then digits ++ zeros s.exponent.toNat
  else
    let places := (-s.exponent).toNat
    let padded := zeros (places + 1 - digits.length) ++ digits
    let whole := padded.length - places
    String.ofList (padded.toList.take whole) ++ "." ++ String.ofList (padded.toList.drop whole)

/-- A decimal with a point or an exponent: positional when the first digit stands at most
sixteen places before the point or five after it. -/
def Scaled.marked (s : Scaled) : String :=
  let digits := toString s.digits
  let point : Int := digits.length + s.exponent
  if s.digits = 0 then "0.0"
  else if 0 ≤ s.exponent ∧ point ≤ 16 then s.positional ++ ".0"
  else if -5 < point ∧ point ≤ 16 then s.positional
  else
    let tail := String.ofList (digits.toList.drop 1)
    String.ofList (digits.toList.take 1) ++ (if tail.isEmpty then "" else "." ++ tail) ++
      "e" ++ toString (point - 1)

/-- The sign of a double in front of a text. -/
def signed (bits : UInt64) (text : String) : String :=
  if isNegative bits then "-" ++ text else text

/-- A double as messages show it; a tie goes to the larger magnitude. -/
def display (bits : UInt64) : String :=
  match magnitude bits with
  | .nan => "NaN"
  | .infinite => signed bits "inf"
  | .finite significand exponent => signed bits (shortest .up significand exponent).positional

/-- A finite double as data texts show it, where a tie goes to the even digit; anything else
has no data form and is `null`. -/
def dataForm (bits : UInt64) : String :=
  match magnitude bits with
  | .nan | .infinite => "null"
  | .finite significand exponent => signed bits (shortest .toEven significand exponent).marked

end MediaGrid.Decimal
