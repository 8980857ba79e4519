import MonkeyLang.Value.Basic

/-!
Where digests cannot collide. A round of the digest loses nothing: the byte it mixes in can be
taken out again, and the multiplication undone, because the prime has an inverse modulo `2^64`. So
what two texts end with alike has no part in whether their digests are equal, and a single byte
always makes a difference.
-/

namespace MonkeyLang

namespace Digest

/-- What takes a multiplication by the prime back. -/
def inverse : UInt64 :=
  0xce965057aff6957b

theorem prime_mul_inverse : prime * inverse = 1 := by decide

theorem mul_prime_inj {word other : UInt64} : word * prime = other * prime ↔ word = other := by
  constructor
  · intro same
    have undo (word : UInt64) : word * prime * inverse = word := by
      rw [UInt64.mul_assoc, prime_mul_inverse, UInt64.mul_one]
    rw [← undo word, same, undo]
  · exact congrArg (· * prime)

/-- From what a round leaves and its byte, the state before it can be told. -/
theorem round_state_inj {state other : UInt64} {byte : UInt8} :
    round state byte = round other byte ↔ state = other := by
  rw [round, round, mul_prime_inj, UInt64.xor_left_inj]

/-- From what a round leaves and the state before it, its byte can be told. -/
theorem round_byte_inj {state : UInt64} {byte other : UInt8} :
    round state byte = round state other ↔ byte = other := by
  rw [round, round, mul_prime_inj, UInt64.xor_right_inj, UInt8.toUInt64_inj]

theorem rounds_inj {state other : UInt64} {bytes : List UInt8} :
    bytes.foldl round state = bytes.foldl round other ↔ state = other := by
  induction bytes generalizing state other with
  | nil => exact Iff.rfl
  | cons byte rest ih => rw [List.foldl_cons, List.foldl_cons, ih, round_state_inj]

theorem fnv1a_append (front back : List UInt8) :
    fnv1a (front ++ back) = back.foldl round (fnv1a front) :=
  List.foldl_append

theorem fnv1a_append_inj {front other back : List UInt8} :
    fnv1a (front ++ back) = fnv1a (other ++ back) ↔ fnv1a front = fnv1a other := by
  rw [fnv1a_append, fnv1a_append, rounds_inj]

theorem fnv1a_byte_inj {front back : List UInt8} {byte other : UInt8} :
    fnv1a (front ++ [byte] ++ back) = fnv1a (front ++ [other] ++ back) ↔ byte = other := by
  rw [fnv1a_append_inj, fnv1a_append, fnv1a_append]
  exact round_byte_inj

end Digest

/-- At how many places lists of one length have different bytes. -/
def differences (bytes other : List UInt8) : Nat :=
  (bytes.zip other).countP fun pair => pair.1 ≠ pair.2

section Differences
variable {bytes other : List UInt8}

theorem differences_cons (byte byte' : UInt8) (rest rest' : List UInt8) :
    differences (byte :: rest) (byte' :: rest') =
      differences rest rest' + if byte = byte' then 0 else 1 := by
  by_cases same : byte = byte' <;> simp [differences, same]

theorem eq_of_differences_zero (long : bytes.length = other.length)
    (none : differences bytes other = 0) : bytes = other := by
  induction bytes generalizing other with
  | nil => exact (List.eq_nil_of_length_eq_zero long.symm).symm
  | cons byte rest ih =>
      cases other with
      | nil => cases long
      | cons byte' rest' =>
          rw [differences_cons] at none
          by_cases first : byte = byte'
          · rw [if_pos first] at none
            rw [first, ih (Nat.succ.inj long) none]
          · rw [if_neg first] at none
            cases none

/-- Lists that differ at one place are alike before it and behind it. -/
theorem exists_of_differences_one (long : bytes.length = other.length)
    (once : differences bytes other = 1) : ∃ front byte byte' back, byte ≠ byte' ∧
      bytes = front ++ [byte] ++ back ∧ other = front ++ [byte'] ++ back := by
  induction bytes generalizing other with
  | nil => cases once
  | cons byte rest ih =>
      cases other with
      | nil => cases long
      | cons byte' rest' =>
          have long' := Nat.succ.inj long
          rw [differences_cons] at once
          by_cases first : byte = byte'
          · rw [if_pos first] at once
            obtain ⟨front, old, new, back, apart, rfl, rfl⟩ := ih long' once
            exact ⟨byte :: front, old, new, back, apart, rfl, first ▸ rfl⟩
          · rw [if_neg first] at once
            obtain rfl := eq_of_differences_zero long' (Nat.succ.inj once)
            exact ⟨[], byte, byte', rest, first, rfl, rfl⟩

end Differences

open Digest in
/-- A common end has no part in whether two digests are equal, and one byte always makes a
difference; so strings that differ in one byte only have different keys. -/
theorem one_byte_tells_apart :
    (∀ front other back : List UInt8,
      fnv1a (front ++ back) = fnv1a (other ++ back) ↔ fnv1a front = fnv1a other) ∧
    (∀ (front back : List UInt8) (byte other : UInt8),
      fnv1a (front ++ [byte] ++ back) = fnv1a (front ++ [other] ++ back) ↔ byte = other) ∧
    ∀ (serial serial' : Nat) (text text' : String),
      (utf8Bytes text).length = (utf8Bytes text').length →
      differences (utf8Bytes text) (utf8Bytes text') = 1 →
        (Value.string serial text).hashKey? ≠ (Value.string serial' text').hashKey? := by
  refine ⟨fun _ _ _ => fnv1a_append_inj, fun _ _ _ _ => fnv1a_byte_inj, ?_⟩
  intro serial serial' text text' long once same
  obtain ⟨front, byte, byte', back, apart, split, split'⟩ := exists_of_differences_one long once
  have digests : fnv1a (utf8Bytes text) = fnv1a (utf8Bytes text') :=
    congrArg HashKey.word (Option.some.inj same)
  rw [split, split', fnv1a_byte_inj] at digests
  exact apart digests

/-- Of the two bytes of each letter the second one is different. -/
theorem one_byte_tells_apart_accents :
    (utf8Bytes "é").length = (utf8Bytes "è").length ∧
    differences (utf8Bytes "é") (utf8Bytes "è") = 1 ∧
    (Value.string 0 "é").hashKey? ≠ (Value.string 1 "è").hashKey? := by
  have long : (utf8Bytes "é").length = (utf8Bytes "è").length := by decide
  have once : differences (utf8Bytes "é") (utf8Bytes "è") = 1 := by decide
  exact ⟨long, once, one_byte_tells_apart.2.2 0 1 "é" "è" long once⟩

end MonkeyLang
