import MonkeyLang.Proofs.Chains
import MonkeyLang.Proofs.Semantics

/-!
Operations and look-ups against their rules. Each operation does what any answer says that the
rules give, and they give one, for all operands and arguments that there can be. So an operation
has just the answers of the rules.
-/

namespace MonkeyLang

@[simp] theorem State.traced_store (state : State) (event : Event) :
    (state.traced event).store = state.store := by
  simp [store, traced]

@[simp] theorem State.counted_store (state : State) (change : Counters → Counters) :
    (state.counted change).store = state.store :=
  rfl

@[simp] theorem State.stepped_store (state : State) : state.stepped.store = state.store :=
  rfl

@[simp] theorem State.failed_store (state : State) (fault : Fault) :
    (state.failed fault).store = state.store.made := by
  simp [store, Store.made, failed, bumped, counted]

namespace Semantics

open Eval

variable {left right value : Value} {answer : Answer} {scopes : Scopes} {name : String}

section Numbers
variable {exact result dividend divisor quotient : Int}

theorem wraps_wrap (exact : Int) : Wraps exact (Word.wrap exact) :=
  ⟨Word.wrap_inRange exact, Int.dvd_self_sub_bmod⟩

theorem Wraps.eq (wraps : Wraps exact result) : Word.wrap exact = result := by
  obtain ⟨⟨low, high⟩, congruent⟩ := wraps
  unfold Word.wrap
  rw [Int.bmod_def]
  omega

theorem truncates_tdiv (dividend : Int) (nonzero : divisor ≠ 0) :
    Truncates dividend divisor (dividend.tdiv divisor) := by
  refine ⟨dividend.tmod divisor, (Int.mul_tdiv_add_tmod _ _).symm, ?_, ?_⟩
  · rw [Int.natAbs_tmod]
    exact Nat.mod_lt _ (Int.natAbs_pos.mpr nonzero)
  · rw [Int.sign_tmod]
    split
    · next divides => exact .inl (Int.tmod_eq_zero_of_dvd divides)
    · exact .inr rfl

theorem Truncates.ne_zero (truncates : Truncates dividend divisor quotient) : divisor ≠ 0 := by
  rintro rfl
  obtain ⟨remainder, -, small, -⟩ := truncates
  exact Nat.not_lt_zero _ small

theorem Truncates.eq (truncates : Truncates dividend divisor quotient) :
    dividend.tdiv divisor = quotient := by
  have nonzero := truncates.ne_zero
  obtain ⟨remainder, split, small, side⟩ := truncates
  have sum : remainder + divisor * quotient = dividend := by rw [split, Int.add_comm]
  rcases Int.le_total 0 dividend with up | down
  · have same : 0 ≤ remainder := by
      rcases side with rfl | sign
      · exact Int.le_refl 0
      · rwa [← Int.sign_nonneg_iff, sign, Int.sign_nonneg_iff]
    have below : remainder < divisor.natAbs := by omega
    exact ((Int.tdiv_tmod_unique up nonzero).mpr ⟨sum, same, below⟩).1
  · have same : remainder ≤ 0 := by
      rcases side with rfl | sign
      · exact Int.le_refl 0
      · rwa [← Int.sign_nonpos_iff, sign, Int.sign_nonpos_iff]
    have above : -(divisor.natAbs : Int) < remainder := by omega
    exact ((Int.tdiv_tmod_unique' down nonzero).mpr ⟨sum, above, same⟩).1

end Numbers

theorem falsy_iff : Falsy value ↔ value.isTruthy = false := by
  cases value with
  | boolean truth => cases truth <;> simp [Falsy, Value.isTruthy]
  | _ => simp [Falsy, Value.isTruthy]

/-- The computation that gives an answer. -/
def Answer.run : Answer → Eval Value
  | .plain value => pure value
  | .fresh build => make build
  | .failure fault => fail fault

theorem Answer.run_store (answer : Answer) (before : State) : ∃ after,
    answer.run before = some (answer.value before.store, after) ∧
      after.store = answer.after before.store := by
  cases answer with
  | plain value => exact ⟨before, rfl, rfl⟩
  | fresh build => exact ⟨before.bumped, rfl, rfl⟩
  | failure fault => exact ⟨before.failed fault, fail_run fault before, by simp [Answer.after]⟩

section Operations

theorem PrefixAnswer.run {operator : Operator} (rule : PrefixAnswer operator right answer) :
    applyPrefix operator right = answer.run := by
  cases rule with
  | @negation _ truth same =>
      have flipped : (!right.isTruthy) = truth := by
        rw [Bool.eq_iff_iff, same, falsy_iff, Bool.not_eq_true']
      rw [← flipped]
      rfl
  | negative wraps =>
      rw [← wraps.eq]
      rfl
  | unknown other =>
      cases right with
      | integer serial number => exact absurd rfl other
      | _ => rfl

theorem PrefixAnswer.total {operator : Operator} (unary : operator ∈ Operator.unary)
    (right : Value) : ∃ answer, PrefixAnswer operator right answer := by
  simp only [Operator.unary, List.mem_cons, List.not_mem_nil, or_false] at unary
  rcases unary with rfl | rfl
  · exact ⟨_, .negation (by rw [falsy_iff, Bool.not_eq_true'])⟩
  · cases right with
    | integer serial number => exact ⟨_, .negative (wraps_wrap _)⟩
    | _ => exact ⟨_, .unknown (by simp [Value.tag])⟩

/-- Both operands have one type, and it is neither of those whose contents are compared. -/
theorem applyInfix_other {operator : Operator} (same : left.tag = right.tag)
    (not_integer : left.tag ≠ .integer) (not_string : left.tag ≠ .string) :
    applyInfix operator left right = match operator with
      | .equal => pure (.boolean (left.same right))
      | .unequal => pure (.boolean (!left.same right))
      | _ => fail (.unknownInfix left.tag operator right.tag) := by
  unfold applyInfix
  rw [if_neg (not_not.mpr same)]
  cases left with
  | integer serial number => exact absurd rfl not_integer
  | string serial text => exact absurd rfl not_string
  | _ => rfl

theorem same_iff : left.same right = true ↔ left.identity = right.identity := by
  rw [Value.same, decide_eq_true_eq]

theorem integerInfix_unknown {operator : Operator} (foreign : operator ∉ operatorsOf .integer)
    (first second : Int) :
    integerInfix operator first second = fail (.unknownInfix .integer operator .integer) := by
  cases operator <;> first | rfl | exact absurd (by decide) foreign

theorem stringInfix_unknown {operator : Operator} (foreign : operator ∉ operatorsOf .string)
    (first second : String) :
    stringInfix operator first second = fail (.unknownInfix .string operator .string) := by
  cases operator <;> first | rfl | exact absurd (by decide) foreign

theorem applyInfix_unknown {operator : Operator} (same : left.tag = right.tag)
    (foreign : operator ∉ operatorsOf left.tag) :
    applyInfix operator left right = fail (.unknownInfix left.tag operator right.tag) := by
  cases left with
  | integer serial first =>
      cases right with
      | integer serial' second => exact integerInfix_unknown foreign first second
      | _ => cases same
  | string serial first =>
      cases right with
      | string serial' second => exact stringInfix_unknown foreign first second
      | _ => cases same
  | _ =>
      rw [applyInfix_other same (by simp [Value.tag]) (by simp [Value.tag])]
      have others : operator ∉ [Operator.equal, .unequal] := foreign
      cases operator <;> first | rfl | exact absurd (by decide) others

theorem InfixAnswer.run {operator : Operator} (rule : InfixAnswer operator left right answer) :
    applyInfix operator left right = answer.run := by
  have answered {truth : Bool} {claim : Prop} [Decidable claim] (same : truth = true ↔ claim) :
      decide claim = truth := by
    rw [Bool.eq_iff_iff, decide_eq_true_eq, same]
  cases rule with
  | mismatch apart => exact if_pos apart
  | unknown same foreign => exact applyInfix_unknown same foreign
  | sum wraps =>
      rw [← wraps.eq]
      rfl
  | difference wraps =>
      rw [← wraps.eq]
      rfl
  | product wraps =>
      rw [← wraps.eq]
      rfl
  | quotient truncates wraps =>
      rw [← wraps.eq, ← truncates.eq]
      show integerInfix .divide _ _ = _
      rw [integerInfix, Word.quotient?, if_neg truncates.ne_zero]
      rfl
  | division_by_zero => rfl
  | less same =>
      rw [← answered same]
      rfl
  | greater same =>
      rw [← answered same]
      rfl
  | equal same =>
      rw [← answered same]
      rfl
  | unequal same =>
      rw [← answered same]
      rfl
  | concatenation => rfl
  | identical same integer string identity =>
      have same_truth := Bool.eq_iff_iff.mpr (same_iff.trans identity.symm)
      rw [applyInfix_other same integer string, ← same_truth]
      rfl
  | @distinct _ _ truth same integer string identity =>
      have flipped : (!left.same right) = truth := by
        rw [Bool.eq_iff_iff, identity, Bool.not_eq_true', ← Bool.not_eq_true, same_iff]
      rw [applyInfix_other same integer string, ← flipped]
      rfl

theorem InfixAnswer.total_integer (operator : Operator) (serial serial' : Nat)
    (first second : Int) : ∃ answer,
      InfixAnswer operator (.integer serial first) (.integer serial' second) answer := by
  cases operator with
  | plus => exact ⟨_, .sum (wraps_wrap _)⟩
  | minus => exact ⟨_, .difference (wraps_wrap _)⟩
  | times => exact ⟨_, .product (wraps_wrap _)⟩
  | divide =>
      by_cases zero : second = 0
      · subst zero
        exact ⟨_, .division_by_zero⟩
      · exact ⟨_, .quotient (truncates_tdiv _ zero) (wraps_wrap _)⟩
  | less => exact ⟨_, .less decide_eq_true_iff⟩
  | greater => exact ⟨_, .greater decide_eq_true_iff⟩
  | equal => exact ⟨_, .equal decide_eq_true_iff⟩
  | unequal => exact ⟨_, .unequal decide_eq_true_iff⟩
  | bang => exact ⟨_, .unknown rfl (by simp [operatorsOf, Value.tag])⟩
  | other spelling => exact ⟨_, .unknown rfl (by simp [operatorsOf, Value.tag])⟩

theorem InfixAnswer.total (operator : Operator) (left right : Value) :
    ∃ answer, InfixAnswer operator left right answer := by
  by_cases same : left.tag = right.tag
  · by_cases known : operator ∈ operatorsOf left.tag
    · cases left with
      | integer serial first =>
          cases right with
          | integer serial' second => exact total_integer operator serial serial' first second
          | _ => cases same
      | string serial first =>
          cases right with
          | string serial' second =>
              rw [List.mem_singleton.mp known]
              exact ⟨_, .concatenation⟩
          | _ => cases same
      | _ =>
          rcases List.mem_cons.mp known with rfl | second
          · exact ⟨_, .identical same (by simp [Value.tag]) (by simp [Value.tag])
              decide_eq_true_iff⟩
          · rw [List.mem_singleton.mp second]
            exact ⟨_, .distinct same (by simp [Value.tag]) (by simp [Value.tag])
              decide_eq_true_iff⟩
    · exact ⟨_, .unknown same known⟩
  · exact ⟨_, .mismatch same⟩

theorem IndexAnswer.run (rule : IndexAnswer left right answer) :
    applyIndex left right = answer.run := by
  cases rule with
  | @element _ _ elements value place found =>
      have inside : ¬ (place : Int) < 0 := by omega
      simp only [applyIndex, if_neg inside, Int.toNat_natCast, found]
      rfl
  | @beyond _ _ elements place outside =>
      rcases outside with negative | past
      · simp only [applyIndex, if_pos negative]
        rfl
      · have inside : ¬ place < 0 := by omega
        have missing : elements[place.toNat]? = none := List.getElem?_eq_none (by omega)
        simp only [applyIndex, if_neg inside, missing]
        rfl
  | filed keyed found =>
      simp only [applyIndex, Hash.get, Hash.find?, keyed, found]
      rfl
  | absent keyed missing =>
      simp only [applyIndex, Hash.get, Hash.find?, keyed, missing]
      rfl
  | unsupported array hash =>
      cases left with
      | array serial elements =>
          cases right with
          | integer serial' place => exact absurd rfl (array rfl)
          | _ => rfl
      | hash serial entries =>
          simp only [applyIndex, hash rfl]
          rfl
      | _ => rfl

theorem IndexAnswer.total_array (serial serial' : Nat) (elements : List Value) (place : Int) :
    ∃ answer, IndexAnswer (.array serial elements) (.integer serial' place) answer := by
  by_cases negative : place < 0
  · exact ⟨_, .beyond (.inl negative)⟩
  · obtain ⟨place, rfl⟩ := Int.eq_ofNat_of_zero_le (Int.not_lt.mp negative)
    cases found : elements[place]? with
    | none => exact ⟨_, .beyond (.inr (Int.ofNat_le.mpr (List.getElem?_eq_none_iff.mp found)))⟩
    | some value => exact ⟨_, .element found⟩

theorem IndexAnswer.total (left right : Value) : ∃ answer, IndexAnswer left right answer := by
  cases left with
  | array serial elements =>
      cases right with
      | integer serial' place => exact total_array serial serial' elements place
      | _ => exact ⟨_, .unsupported (by simp [Value.tag]) (by simp [Value.tag])⟩
  | hash serial entries =>
      cases keyed : right.hashKey? with
      | none => exact ⟨_, .unsupported (by simp [Value.tag]) fun _ => keyed⟩
      | some key =>
          cases found : entries.lookup key with
          | none => exact ⟨_, .absent keyed found⟩
          | some pair => exact ⟨_, .filed keyed found⟩
  | _ => exact ⟨_, .unsupported (by simp [Value.tag]) (by simp [Value.tag])⟩

theorem applyBuiltin_arity {callee : Builtin} {arguments : List Value}
    (wrong : arguments.length ≠ arity callee) :
    applyBuiltin callee arguments = fail (.wrongArity arguments.length (arity callee)) := by
  cases callee <;> rcases arguments with _ | ⟨_, _ | ⟨_, _ | ⟨_, _⟩⟩⟩ <;>
    first | rfl | exact absurd rfl wrong

theorem withElements_other {callee : Builtin} {next : List Value → Eval Value}
    (other : value.tag ≠ .array) :
    withElements callee value next = fail (.arrayExpected callee value.tag) := by
  cases value with
  | array serial elements => exact absurd rfl other
  | _ => rfl

theorem applyBuiltin_other {callee : Builtin} {more : List Value} (not_length : callee ≠ .len)
    (fits : (value :: more).length = arity callee) (other : value.tag ≠ .array) :
    applyBuiltin callee (value :: more) = fail (.arrayExpected callee value.tag) := by
  cases callee with
  | len => exact absurd rfl not_length
  | push =>
      obtain ⟨item, rfl⟩ := List.length_eq_one_iff.mp (Nat.succ.inj fits)
      exact withElements_other other
  | _ =>
      rw [List.length_eq_zero_iff.mp (Nat.succ.inj fits)]
      exact withElements_other other

theorem BuiltinAnswer.run {callee : Builtin} {arguments : List Value}
    (rule : BuiltinAnswer callee arguments answer) :
    applyBuiltin callee arguments = answer.run := by
  cases rule with
  | wrong_arity wrong => exact applyBuiltin_arity wrong
  | text_length => rfl
  | array_length => rfl
  | @not_measurable value text array =>
      cases value with
      | string serial text' => exact absurd rfl text
      | array serial elements => exact absurd rfl array
      | _ => rfl
  | first => rfl
  | @last serial front value =>
      show pure ((front ++ [value]).getLast?.getD .null) = _
      rw [List.getLast?_concat]
      rfl
  | rest => rfl
  | empty member =>
      simp only [List.mem_cons, List.not_mem_nil, or_false] at member
      rcases member with rfl | rfl | rfl <;> rfl
  | push => rfl
  | not_an_array not_length fits other => exact applyBuiltin_other not_length fits other

theorem BuiltinAnswer.total_array {callee : Builtin} (not_length : callee ≠ .len) (serial : Nat)
    (elements : List Value) {more : List Value}
    (fits : (Value.array serial elements :: more).length = arity callee) :
    ∃ answer, BuiltinAnswer callee (.array serial elements :: more) answer := by
  by_cases pushes : callee = .push
  · subst pushes
    obtain ⟨item, rfl⟩ := List.length_eq_one_iff.mp (Nat.succ.inj fits)
    exact ⟨_, .push⟩
  · have alone : arity callee = 1 := by
      cases callee <;> first | rfl | exact absurd rfl pushes
    rw [alone] at fits
    obtain rfl := List.length_eq_zero_iff.mp (Nat.succ.inj fits)
    rcases List.eq_nil_or_concat' elements with rfl | ⟨front, last, split⟩
    · refine ⟨_, .empty ?_⟩
      cases callee <;> first | decide | exact absurd rfl not_length | exact absurd rfl pushes
    · cases callee with
      | len => exact absurd rfl not_length
      | push => exact absurd rfl pushes
      | last =>
          rw [split]
          exact ⟨_, .last⟩
      | first =>
          cases elements with
          | nil => simp at split
          | cons head rest => exact ⟨_, .first⟩
      | rest =>
          cases elements with
          | nil => simp at split
          | cons head rest => exact ⟨_, .rest⟩

theorem BuiltinAnswer.total (callee : Builtin) (arguments : List Value) :
    ∃ answer, BuiltinAnswer callee arguments answer := by
  by_cases fits : arguments.length = arity callee
  · cases arguments with
    | nil => cases callee <;> cases fits
    | cons value more =>
        by_cases length : callee = .len
        · subst length
          obtain rfl := List.length_eq_zero_iff.mp (Nat.succ.inj fits)
          cases value with
          | string serial text => exact ⟨_, .text_length⟩
          | array serial elements => exact ⟨_, .array_length⟩
          | _ => exact ⟨_, .not_measurable (by simp [Value.tag]) (by simp [Value.tag])⟩
        · cases value with
          | array serial elements => exact total_array length serial elements fits
          | _ => exact ⟨_, .not_an_array length fits (by simp [Value.tag])⟩
  · exact ⟨_, .wrong_arity fits⟩

end Operations

section Lookup
variable {scope : ScopeId}

theorem Finds.lookup? (nested : scopes.IsNested) (finds : Finds scopes name scope value) :
    scopes.lookup? scope name = some value := by
  induction finds with
  | here bound => rw [nested.lookup?_step, bound, Option.some_or]
  | outside absent link _ ih => rw [nested.lookup?_step, absent, link, Option.none_or,
      Option.bind_some, ih]

theorem Unbound.lookup? (nested : scopes.IsNested) (unbound : Unbound scopes name scope) :
    scopes.lookup? scope name = none := by
  induction unbound with
  | outermost absent link => rw [nested.lookup?_step, absent, link]; rfl
  | outside absent link _ ih => rw [nested.lookup?_step, absent, link, Option.none_or,
      Option.bind_some, ih]

/-- A name is bound to something along the way outwards, or nowhere. -/
theorem finds_or_unbound (nested : scopes.IsNested) (name : String) (scope : ScopeId) :
    (∃ value, Finds scopes name scope value) ∨ Unbound scopes name scope := by
  induction scope using nested.walk with
  | ground scope link =>
      cases bound : (scopes.bindings scope).lookup name with
      | some value => exact .inl ⟨value, .here bound⟩
      | none => exact .inr (.outermost bound link)
  | inside scope outer link ih =>
      cases bound : (scopes.bindings scope).lookup name with
      | some value => exact .inl ⟨value, .here bound⟩
      | none =>
          rcases ih with ⟨value, finds⟩ | unbound
          · exact .inl ⟨value, .outside bound link finds⟩
          · exact .inr (.outside bound link unbound)

end Lookup

end Semantics

end MonkeyLang
