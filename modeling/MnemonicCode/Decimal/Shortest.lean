/-!
# The shortest decimal of a double

A double is a binary fraction `m · 2 ^ q`. The real numbers that round to it
form an interval, which holds its ends when `m` is even. Among the decimals
`d · 10 ^ k` in the interval the one with the largest `k` is taken, of two on
that grid the nearer one, and at equal distance the even one. It has the fewest
digits of all decimals that are read back as the same double.

If a point of the grid of `10 ^ k` lies in the interval, so does one of the two
neighbours of the double on that grid; only these are tried.
-/

set_option autoImplicit false

namespace MnemonicCode.Decimal

/-- A positive binary fraction with the ends of the interval that rounds to it. The interval is
closed when its ends round to the fraction as well. All three numbers are multiples of
`2 ^ exponent`. -/
structure Rounding where
  low : Nat
  middle : Nat
  high : Nat
  exponent : Int
  closed : Bool

/-- A decimal: `digits · 10 ^ exponent`. -/
structure Scaled where
  digits : Nat
  exponent : Int
  deriving DecidableEq, Repr

/-- The first number that the 52 bits of a fraction field do not hold. -/
def fractionLimit : Nat := 0x10000000000000

/-- The first number that the 11 bits of an exponent field do not hold. -/
def exponentFieldLimit : Nat := 0x800

/-- The rounding interval of a positive finite double with these fields. Below a
power of two the neighbours stand half as far apart as above it. -/
def Rounding.ofFields (exponentField fractionField : Nat) : Rounding :=
  let significand := if exponentField = 0 then fractionField else fractionField + fractionLimit
  let exponent : Int := if exponentField = 0 then -1076 else (exponentField : Int) - 1077
  let below := if fractionField = 0 ∧ 1 < exponentField then 1 else 2
  ⟨4 * significand - below, 4 * significand, 4 * significand + 2, exponent, significand % 2 == 0⟩

/-- The neighbour of the fraction on the grid of `10 ^ exponent` that lies in the
interval; of two the nearer, and at equal distance the even one. -/
def Rounding.onGrid? (rounding : Rounding) (exponent : Int) : Option Nat :=
  let scale := Nat.pow 2 rounding.exponent.toNat * Nat.pow 10 (-exponent).toNat
  let unit := Nat.pow 2 (-rounding.exponent).toNat * Nat.pow 10 exponent.toNat
  let middle := rounding.middle * scale
  let below := middle / unit
  let above := below + 1
  let inside (candidate : Nat) : Bool :=
    let point := candidate * unit
    if rounding.closed then rounding.low * scale ≤ point && point ≤ rounding.high * scale
    else rounding.low * scale < point && point < rounding.high * scale
  match inside below, inside above with
  | true, true =>
    let fromBelow := middle - below * unit
    let fromAbove := above * unit - middle
    if fromBelow < fromAbove then some below
    else if fromAbove < fromBelow then some above
    else some (if below % 2 = 0 then below else above)
  | true, false => some below
  | false, true => some above
  | false, false => none

/-- The shortest decimal in the interval. No double needs an exponent outside
the range that is searched. -/
def Rounding.shortest (rounding : Rounding) : Scaled :=
  let found := (List.range 640).findSome? fun (step : Nat) =>
    let exponent : Int := 310 - (step : Int)
    (rounding.onGrid? exponent).map fun digits => (⟨digits, exponent⟩ : Scaled)
  found.getD ⟨0, 0⟩

/-- The digits of a number. -/
def digitsOf (number : Nat) : List Char := Nat.toDigits 10 number

/-- A decimal in writing. It is written out in full when its first digit stands
for a power of ten from `10 ^ -5` to `10 ^ 15`, with at least one digit after
the point, and with an exponent otherwise. -/
def Scaled.text (decimal : Scaled) : List Char :=
  let digits := digitsOf decimal.digits
  let leading : Int := (digits.length : Int) + decimal.exponent - 1
  if -5 ≤ leading ∧ leading ≤ 15 then
    if 0 ≤ decimal.exponent then
      digits ++ List.replicate decimal.exponent.toNat '0' ++ ['.', '0']
    else if 0 ≤ leading then
      digits.take (leading.toNat + 1) ++ '.' :: digits.drop (leading.toNat + 1)
    else
      '0' :: '.' :: List.replicate ((-leading).toNat - 1) '0' ++ digits
  else
    let fraction := digits.drop 1
    let mantissa := digits.take 1 ++ (if fraction.isEmpty then [] else '.' :: fraction)
    let sign := if leading < 0 then '-' else '+'
    mantissa ++ 'e' :: sign :: digitsOf leading.natAbs

/-- A finite double in writing. -/
def text (double : Float) : String :=
  let bits := double.toBits.toNat
  let sign := if bits / fractionLimit / exponentFieldLimit = 1 then ['-'] else []
  let exponentField := bits / fractionLimit % exponentFieldLimit
  let fractionField := bits % fractionLimit
  let magnitude :=
    if exponentField = 0 ∧ fractionField = 0 then ['0', '.', '0']
    else (Rounding.ofFields exponentField fractionField).shortest.text
  String.ofList (sign ++ magnitude)

end MnemonicCode.Decimal
