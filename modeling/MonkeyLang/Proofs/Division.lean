import MonkeyLang.Proofs.Arithmetic

/-!
Division toward zero. What remains is smaller than the divisor and has the sign of the dividend,
and one quotient alone leaves such a remainder. Of all quotients of words a single one is no word,
that of the smallest word by minus one. A remainder is a word in every case: so it comes out exact,
though the product and the difference that it is computed by are wrapped.
-/

namespace MonkeyLang

section Quotients
variable {dividend divisor : Int}

/-- What may remain of a dividend when it is divided toward zero. -/
def IsRemainder (dividend divisor remainder : Int) : Prop :=
  remainder.natAbs < divisor.natAbs ∧ (remainder = 0 ∨ remainder.sign = dividend.sign)

theorem truncates_iff (quotient : Int) : Semantics.Truncates dividend divisor quotient ↔
    IsRemainder dividend divisor (dividend - quotient * divisor) := by
  constructor
  · rintro ⟨remainder, split, remains⟩
    have same : dividend - quotient * divisor = remainder := by
      rw [split, Int.mul_comm]
      omega
    rwa [same]
  · intro remains
    refine ⟨dividend - quotient * divisor, ?_, remains⟩
    rw [Int.mul_comm divisor]
    omega

/-- Division of the magnitudes; the quotient is negated where the signs differ. -/
theorem tdiv_eq_magnitudes (dividend divisor : Int) : dividend.tdiv divisor =
    if dividend < 0 ↔ divisor < 0 then ((dividend.natAbs / divisor.natAbs : Nat) : Int)
    else -((dividend.natAbs / divisor.natAbs : Nat) : Int) := by
  cases dividend with
  | ofNat left =>
      cases divisor with
      | ofNat right => rfl
      | negSucc right => simp [Int.tdiv]
  | negSucc left =>
      cases divisor with
      | ofNat right => simp [Int.tdiv]
      | negSucc right => simp [Int.tdiv]

namespace Word

theorem quotient?_of_ne_zero (dividend : Int) (nonzero : divisor ≠ 0) :
    quotient? dividend divisor = some (dividend.tdiv divisor) :=
  if_neg nonzero

/-- The only quotient of words that is no word. -/
theorem inRange_tdiv_iff (inside : InRange dividend) (nonzero : divisor ≠ 0) :
    InRange (dividend.tdiv divisor) ↔ ¬(dividend = -9223372036854775808 ∧ divisor = -1) := by
  obtain ⟨low, high⟩ := inside
  constructor
  · rintro ⟨-, below⟩ ⟨rfl, rfl⟩
    exact absurd below (by decide)
  · intro other
    have bounded : (dividend.tdiv divisor).natAbs ≤ dividend.natAbs :=
      Int.natAbs_tdiv_le_natAbs dividend divisor
    -- no magnitude grows, so only the negative of the smallest word is in the way
    have fits : dividend.tdiv divisor ≠ 9223372036854775808 := by
      intro large
      have magnitude := Int.natAbs_tdiv dividend divisor
      rw [large] at magnitude
      by_cases unit : divisor.natAbs ≤ 1
      · by_cases negative : divisor = -1
        · rw [negative, Int.tdiv_neg, Int.tdiv_one] at large
          omega
        · have one : divisor = 1 := by omega
          rw [one, Int.tdiv_one] at large
          omega
      · have smaller : dividend.natAbs / divisor.natAbs < dividend.natAbs :=
          Nat.div_lt_self (by omega) (by omega)
        have whole : dividend.natAbs / divisor.natAbs = 9223372036854775808 := magnitude.symm
        omega
    unfold InRange
    omega

theorem inRange_of_isRemainder {remainder : Int} (inside : InRange divisor)
    (remains : IsRemainder dividend divisor remainder) : InRange remainder := by
  obtain ⟨low, high⟩ := inside
  obtain ⟨small, -⟩ := remains
  unfold InRange
  omega

/-- The exact remainder is congruent to what words make of it, and it is a word. -/
theorem wrap_remainder (quotient : Int) (inside : InRange divisor)
    (remains : IsRemainder dividend divisor (dividend - quotient * divisor)) :
    wrap (dividend - wrap (wrap quotient * divisor)) = dividend - quotient * divisor := by
  apply Semantics.Wraps.eq
  refine ⟨inRange_of_isRemainder inside remains, ?_⟩
  have lost : (18446744073709551616 : Int) ∣ quotient - wrap quotient :=
    (Semantics.wraps_wrap quotient).2
  have lost' : (18446744073709551616 : Int) ∣
      wrap quotient * divisor - wrap (wrap quotient * divisor) := (Semantics.wraps_wrap _).2
  have split : dividend - wrap (wrap quotient * divisor) - (dividend - quotient * divisor) =
      (quotient - wrap quotient) * divisor +
        (wrap quotient * divisor - wrap (wrap quotient * divisor)) := by
    rw [Int.sub_mul]
    omega
  rw [split]
  exact Int.dvd_add (Int.dvd_mul_of_dvd_left lost) lost'

/-- Signed division as machines do it. -/
theorem wrap_tdiv (inside : InRange dividend) (inside' : InRange divisor) :
    wrap (dividend.tdiv divisor) = (Int64.ofInt dividend / Int64.ofInt divisor).toInt := by
  rw [Int64.toInt_div, toInt_ofInt, toInt_ofInt, wrap_of_inRange inside, wrap_of_inRange inside']
  rfl

end Word

end Quotients

namespace Eval

section Expressions
variable {scopes : Scopes} {scope : ScopeId} {node left right : Node} {number first second : Int}

/-- Wherever it is evaluated among these scopes, the node comes to the integer, and it does nothing
else. -/
def ComesTo (scopes : Scopes) (scope : ScopeId) (node : Node) (number : Int) : Prop :=
  Finally fun depth => ∀ before, before.scopes = scopes →
    MakesInteger (evalWithin depth node scope) before number

theorem comesTo_word {word : Int64}
    (computes : node.arithmetic? Int64.ofInt (scopes.integer? scope) = some word) :
    ComesTo scopes scope node word.toInt :=
  ⟨node.height, fun _ enough _ same => makes_word computes enough same⟩

theorem ComesTo.operation {operator : Operator} {result : Int}
    (comes : ComesTo scopes scope left first) (comes' : ComesTo scopes scope right second)
    (applied : ∀ serial serial', applyInfix operator (.integer serial first)
      (.integer serial' second) = makeInteger result) :
    ComesTo scopes scope (.infixExpression left operator right) result := by
  apply Finally.of_succ
  apply (comes.and comes').mono
  rintro depth ⟨runs, runs'⟩ before same
  have start : (before.traced (.infixStarted operator)).scopes = scopes :=
    (State.noted_scopes ..).trans same
  apply MakesInteger.traced
  apply (runs _ start).operand
  intro serial middle kept
  apply (runs' _ (kept.trans start)).operand
  intro serial' after _
  rw [applied]
  exact .made result after

/-- `left - (left / right) * right` -/
def remaining (left right : Node) : Node :=
  .infixExpression left .minus (.infixExpression (.infixExpression left .divide right) .times right)

theorem applyInfix_divide (nonzero : second ≠ 0) (serial serial' : Nat) :
    applyInfix .divide (.integer serial first) (.integer serial' second) =
      makeInteger (Word.wrap (first.tdiv second)) := by
  show integerInfix .divide first second = _
  simp only [integerInfix, Word.quotient?_of_ne_zero first nonzero]

end Expressions

/-- The quotient of two integers of any size is the one that leaves a remainder smaller than the
divisor and with the sign of the dividend. Of words it is what a machine makes of them, exact but
for the smallest one divided by minus one; and what a program computes as the remainder is the
remainder, in that case too. -/
theorem division_truncates (dividend : Int) {divisor : Int} (nonzero : divisor ≠ 0) :
    ∃ quotient, Word.quotient? dividend divisor = some quotient ∧
      (quotient = if dividend < 0 ↔ divisor < 0
        then ((dividend.natAbs / divisor.natAbs : Nat) : Int)
        else -((dividend.natAbs / divisor.natAbs : Nat) : Int)) ∧
      (∀ other, IsRemainder dividend divisor (dividend - other * divisor) ↔ other = quotient) ∧
      ∀ {scopes scope left right}, Word.InRange dividend → Word.InRange divisor →
        ComesTo scopes scope left dividend → ComesTo scopes scope right divisor →
          ∃ word, (∀ serial serial', applyInfix .divide (.integer serial dividend)
              (.integer serial' divisor) = makeInteger word) ∧
            ComesTo scopes scope (.infixExpression left .divide right) word ∧
            word = (Int64.ofInt dividend / Int64.ofInt divisor).toInt ∧
            (word ≠ quotient ↔ dividend = -9223372036854775808 ∧ divisor = -1) ∧
            (dividend = -9223372036854775808 → divisor = -1 → word = -9223372036854775808) ∧
            ∃ remainder, ComesTo scopes scope (remaining left right) remainder ∧
              IsRemainder dividend divisor remainder := by
  have truncates := Semantics.truncates_tdiv dividend nonzero
  have remains := (truncates_iff _).mp truncates
  refine ⟨dividend.tdiv divisor, Word.quotient?_of_ne_zero dividend nonzero,
    tdiv_eq_magnitudes dividend divisor, ?_, ?_⟩
  · intro other
    rw [← truncates_iff]
    constructor
    · exact fun leaves => leaves.eq.symm
    · rintro rfl
      exact truncates
  · intro scopes scope left right inside inside' comes comes'
    have divides (serial serial' : Nat) : applyInfix .divide (.integer serial dividend)
        (.integer serial' divisor) = makeInteger (Word.wrap (dividend.tdiv divisor)) :=
      applyInfix_divide nonzero serial serial'
    have quotient := comes.operation comes' divides
    refine ⟨Word.wrap (dividend.tdiv divisor), divides, quotient, Word.wrap_tdiv inside inside',
      ?_, ?_, dividend - dividend.tdiv divisor * divisor, ?_, remains⟩
    · rw [← not_iff_not, ← Word.inRange_tdiv_iff inside nonzero, ne_eq, not_not]
      constructor
      · intro kept
        rw [← kept]
        exact Word.wrap_inRange _
      · exact Word.wrap_of_inRange
    · rintro rfl rfl
      decide
    · rw [← Word.wrap_remainder _ inside' remains]
      have product : ComesTo scopes scope
          (.infixExpression (.infixExpression left .divide right) .times right)
          (Word.wrap (Word.wrap (dividend.tdiv divisor) * divisor)) :=
        quotient.operation comes' fun _ _ => rfl
      exact comes.operation product fun _ _ => rfl

/-- The smallest word, under a name, divided by minus one: it is its own quotient, and nothing
remains. -/
theorem division_truncates_smallest :
    ComesTo smallestBound.scopes 0
        (.infixExpression (.identifier "m") .divide (.integerLiteral (-1)))
        (-9223372036854775808) ∧
      ComesTo smallestBound.scopes 0 (remaining (.identifier "m") (.integerLiteral (-1))) 0 := by
  have comes : ComesTo smallestBound.scopes 0 (.identifier "m") (-9223372036854775808) :=
    comesTo_word (show _ = some (-9223372036854775808 : Int64) by decide)
  have comes' : ComesTo smallestBound.scopes 0 (.integerLiteral (-1)) (-1) :=
    comesTo_word (show _ = some (-1 : Int64) by decide)
  obtain ⟨quotient, -, -, -, machine⟩ :=
    division_truncates (-9223372036854775808) (show (-1 : Int) ≠ 0 by decide)
  obtain ⟨word, -, divides, -, -, smallest, remainder, leaves, small, -⟩ :=
    machine (by decide) (by decide) comes comes'
  rw [smallest rfl rfl] at divides
  have none_left : remainder = 0 := Int.natAbs_eq_zero.mp (Nat.lt_one_iff.mp small)
  rw [none_left] at leaves
  exact ⟨divides, leaves⟩

end Eval

end MonkeyLang
