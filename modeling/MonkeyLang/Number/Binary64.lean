/-!
Numbers of the 64-bit binary format, kept as exact integers: a finite one is a
mantissa below `2^53` times a power of two. A decimal is rounded to the nearest
such number, and a tie goes to the even mantissa.
-/

namespace MonkeyLang

inductive Binary64 where
  | finite (negative : Bool) (mantissa : Nat) (exponent : Int)
  | infinite (negative : Bool)
  | notANumber
  deriving DecidableEq, Repr

namespace Binary64

/-- The exponent of the smallest numbers. -/
def leastExponent : Int := -1074

/-- The exponent of the largest numbers. -/
def greatestExponent : Int := 971

/-- A quotient rounded to the nearest integer, a tie to the even one. -/
def roundQuotient (dividend divisor : Nat) : Nat :=
  let quotient := dividend / divisor
  let doubled := 2 * (dividend % divisor)
  if doubled < divisor ∨ (doubled = divisor ∧ quotient % 2 = 0) then quotient else quotient + 1

/-- The nearest number to the positive fraction `dividend / divisor`. -/
def ofFraction (negative : Bool) (dividend divisor : Nat) : Binary64 :=
  let scaled (exponent : Int) : Nat × Nat :=
    (dividend * Nat.pow 2 (-exponent).toNat, divisor * Nat.pow 2 exponent.toNat)
  let guess : Int := (dividend.log2 : Int) - divisor.log2 - 52
  let fits := (scaled guess).1 ≥ Nat.pow 2 52 * (scaled guess).2
  let exponent := max (if fits then guess else guess - 1) leastExponent
  let mantissa := roundQuotient (scaled exponent).1 (scaled exponent).2
  let carried := mantissa = Nat.pow 2 53
  let exponent := if carried then exponent + 1 else exponent
  if exponent > greatestExponent then infinite negative
  else finite negative (if carried then Nat.pow 2 52 else mantissa) exponent

/-- The nearest number to `digits * 10 ^ scale`. Decimals far outside the range of the
format are told apart by their length alone. -/
def ofDecimal (negative : Bool) (digits : Nat) (scale : Int) : Binary64 :=
  let magnitude : Int := (Nat.toDigits 10 digits).length + scale
  if digits = 0 ∨ magnitude < -330 then finite negative 0 leastExponent
  else if magnitude > 320 then infinite negative
  else ofFraction negative (digits * Nat.pow 10 scale.toNat) (Nat.pow 10 (-scale).toNat)

end Binary64

end MonkeyLang
