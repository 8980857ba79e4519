import MonkeyLang.Number.Binary64

/-!
The decimal text of a binary number: the fewest digits that round back to it, the
nearest to it among those, laid out with a point or with an exponent.
-/

namespace MonkeyLang.Binary64

/-- `digits * 10 ^ scale` -/
structure Decimal where
  digits : Nat
  scale : Int
  deriving DecidableEq, Repr

/-- Compare `count * 10 ^ scale` with `mantissa * 2 ^ exponent`, exactly. -/
def compareScaled (count : Nat) (scale : Int) (mantissa : Nat) (exponent : Int) : Ordering :=
  compare (count * Nat.pow 10 scale.toNat * Nat.pow 2 (-exponent).toNat)
    (mantissa * Nat.pow 2 exponent.toNat * Nat.pow 10 (-scale).toNat)

/-- Whether a decimal rounds to `mantissa * 2 ^ exponent`. The reals that do so reach
halfway to both neighbours, and the ends belong to them when the mantissa is even. The
neighbour below a power of two is only half as far away. -/
def readsBack (mantissa : Nat) (exponent : Int) (decimal : Decimal) : Bool :=
  let narrow := mantissa = Nat.pow 2 52 ∧ exponent > leastExponent
  let low := if narrow then 4 * mantissa - 1 else 4 * mantissa - 2
  let above := compareScaled decimal.digits decimal.scale low (exponent - 2)
  let below := compareScaled decimal.digits decimal.scale (4 * mantissa + 2) (exponent - 2)
  let closed := mantissa % 2 == 0
  (above == .gt || (closed && above == .eq)) && (below == .lt || (closed && below == .eq))

/-- The least `scale` with `mantissa * 2 ^ exponent < 10 ^ scale`, found next to an
estimate from the number of bits. -/
def decimalScale (mantissa : Nat) (exponent : Int) : Int :=
  let estimate := ((mantissa.log2 : Int) + exponent) * 30103 / 100000
  let candidates := (List.range 5).map fun (step : Nat) => estimate - 1 + step
  (candidates.find? fun scale => compareScaled 1 scale mantissa exponent == .gt).getD estimate

/-- The better of the two decimals with a scale that enclose the number, if either
rounds back to it; a tie goes to the even one. -/
def nearestOnGrid (mantissa : Nat) (exponent scale : Int) : Option Decimal :=
  let dividend := mantissa * Nat.pow 2 exponent.toNat * Nat.pow 10 (-scale).toNat
  let divisor := Nat.pow 2 (-exponent).toNat * Nat.pow 10 scale.toNat
  let floor := dividend / divisor
  let nearest := roundQuotient dividend divisor
  let farther := if nearest = floor then floor + 1 else floor
  [(⟨nearest, scale⟩ : Decimal), ⟨farther, scale⟩].find? (readsBack mantissa exponent)

/-- Move zeros at the end of the digits into the scale. -/
def stripZeros : Nat → Decimal → Decimal
  | 0, decimal => decimal
  | bound + 1, decimal =>
      if decimal.digits ≠ 0 ∧ decimal.digits % 10 = 0 then
        stripZeros bound ⟨decimal.digits / 10, decimal.scale + 1⟩
      else decimal

/-- The shortest decimal of a positive number. Seventeen digits always suffice; the exact
value stands behind them. -/
def shortest (mantissa : Nat) (exponent : Int) : Decimal :=
  let scale := decimalScale mantissa exponent
  let grids := (List.range 17).map fun (count : Nat) => scale - 1 - count
  let chosen := grids.findSome? (nearestOnGrid mantissa exponent)
  stripZeros 17 (chosen.getD
    ⟨mantissa * Nat.pow 2 exponent.toNat * Nat.pow 5 (-exponent).toNat, min exponent 0⟩)

/-- The decisions of a layout. -/
structure Layout where
  /-- The least exponent of a leading digit that is written with a point only. -/
  plainFrom : Int
  /-- The least exponent beyond those. -/
  plainBelow : Int
  /-- The least number of digits in an exponent. -/
  exponentWidth : Nat

/-- From a ten-thousandth to below ten to the sixteenth a number has a point and at
least one digit behind it. -/
def layout : Layout where
  plainFrom := -4
  plainBelow := 16
  exponentWidth := 2

def zeros (count : Nat) : List Char :=
  List.replicate count '0'

def Layout.scientific (format : Layout) (digits : List Char) (exponent : Int) : List Char :=
  let power := Nat.toDigits 10 exponent.natAbs
  let sign := if exponent < 0 then '-' else '+'
  let fraction := if digits.length ≤ 1 then [] else '.' :: digits.drop 1
  digits.take 1 ++ fraction ++ 'e' :: sign :: zeros (format.exponentWidth - power.length) ++ power

def Layout.plain (digits : List Char) (exponent : Int) : List Char :=
  if exponent < 0 then
    '0' :: '.' :: zeros (exponent.natAbs - 1) ++ digits
  else
    let whole := exponent.toNat + 1
    if digits.length ≤ whole then digits ++ zeros (whole - digits.length) ++ ['.', '0']
    else digits.take whole ++ '.' :: digits.drop whole

def Layout.render (format : Layout) (decimal : Decimal) : List Char :=
  let digits := Nat.toDigits 10 decimal.digits
  let exponent : Int := (digits.length : Int) - 1 + decimal.scale
  if format.plainFrom ≤ exponent ∧ exponent < format.plainBelow then Layout.plain digits exponent
  else format.scientific digits exponent

/-- The text of a number. Zero keeps its sign. -/
def render : Binary64 → String
  | finite negative mantissa exponent =>
      let body := if mantissa = 0 then ['0', '.', '0']
        else layout.render (shortest mantissa exponent)
      String.ofList (if negative then '-' :: body else body)
  | infinite negative => if negative then "-inf" else "inf"
  | notANumber => "nan"

end MonkeyLang.Binary64
