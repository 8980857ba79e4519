/-!
Signed 64-bit arithmetic on unbounded integers: every result is reduced to the
representative in `[-2^63, 2^63)`, and division truncates toward zero.
-/

namespace MonkeyLang.Word

/-- The signed 64-bit representative of a residue modulo `2^64`, which is written out. -/
def wrap (value : Int) : Int :=
  value.bmod 18446744073709551616

/-- The integers a signed 64-bit word can hold: from `-2^63` to below `2^63`. -/
def InRange (value : Int) : Prop :=
  -9223372036854775808 ≤ value ∧ value < 9223372036854775808

instance (value : Int) : Decidable (InRange value) :=
  inferInstanceAs (Decidable (_ ∧ _))

/-- The quotient rounded toward zero; there is none when the divisor is zero. -/
def quotient? (dividend divisor : Int) : Option Int :=
  if divisor = 0 then none else some (dividend.tdiv divisor)

theorem wrap_inRange (value : Int) : InRange (wrap value) := by
  unfold InRange wrap
  have low := Int.le_bmod (x := value) (m := 18446744073709551616) (by decide)
  have high := Int.bmod_lt (x := value) (m := 18446744073709551616) (by decide)
  constructor <;> omega

theorem wrap_of_inRange {value : Int} (inside : InRange value) : wrap value = value := by
  obtain ⟨low, high⟩ := inside
  unfold wrap
  exact Int.bmod_eq_of_le (by omega) (by omega)

/-- Wrapping the summands first changes nothing. -/
theorem wrap_add_wrap (left right : Int) : wrap (wrap left + wrap right) = wrap (left + right) := by
  simp only [wrap, Int.bmod_add_bmod, Int.add_bmod_bmod]

end MonkeyLang.Word
