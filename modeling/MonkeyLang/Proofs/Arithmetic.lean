import MonkeyLang.Proofs.Measures
import MonkeyLang.Proofs.Soundness
import MonkeyLang.Proofs.Words

/-!
Arithmetic without division. Sums, differences, products and negatives are wrapped wherever they
arise, which is computing with machine words, and reducing integers to words respects these
operations. So a tree of them comes to the word of its exact value, however often it overflows on
the way.
-/

namespace MonkeyLang

section Numbers
variable {Number Other : Type}

/-- The integer that a name is bound to, in the scope or in one around it. -/
def Scopes.integer? (scopes : Scopes) (scope : ScopeId) (name : String) : Option Int :=
  match scopes.lookup? scope name with
  | some (.integer _ value) => some value
  | _ => none

theorem Scopes.lookup?_of_integer? {scopes : Scopes} {scope : ScopeId} {name : String}
    {value : Int} (bound : scopes.integer? scope name = some value) :
    ∃ serial, scopes.lookup? scope name = some (.integer serial value) := by
  unfold Scopes.integer? at bound
  split at bound
  · next serial _ found =>
    cases bound
    exact ⟨serial, found⟩
  · cases bound

/-- An integer that fits into a word, as a number of some kind. -/
def Word.read? (read : Int → Number) (value : Int) : Option Number :=
  if InRange value then some (read value) else none

theorem Word.read?_map (map : Number → Other) (read : Int → Number) (value : Int) :
    Word.read? (fun value => map (read value)) value = (Word.read? read value).map map := by
  unfold Word.read?
  split <;> rfl

theorem Word.of_read? {read : Int → Number} {value : Int} {number : Number}
    (reads : Word.read? read value = some number) : InRange value ∧ read value = number := by
  unfold Word.read? at reads
  split at reads
  · next inside => exact ⟨inside, Option.some.inj reads⟩
  · cases reads

/-- The operation of an infix operator, if it is one of a ring. -/
def Operator.ring? [Add Number] [Sub Number] [Mul Number] :
    Operator → Option (Number → Number → Number)
  | .plus => some (· + ·)
  | .minus => some (· - ·)
  | .times => some (· * ·)
  | _ => none

/-- What a tree of negatives, sums, differences and products comes to, computed node by node with
some kind of numbers. Its leaves are literals and names of integers that fit into words; with
anything else in it a tree comes to nothing. -/
def Node.arithmetic? [Neg Number] [Add Number] [Sub Number] [Mul Number] (read : Int → Number)
    (named : String → Option Int) : Node → Option Number
  | .integerLiteral value => Word.read? read value
  | .identifier name => (named name).bind (Word.read? read)
  | .prefixExpression .minus right => (right.arithmetic? read named).map fun right => -right
  | .infixExpression left operator right => do
      let operation ← operator.ring?
      return operation (← left.arithmetic? read named) (← right.arithmetic? read named)
  | _ => none

variable [Neg Number] [Add Number] [Sub Number] [Mul Number]
  [Neg Other] [Add Other] [Sub Other] [Mul Other]

theorem Node.arithmetic?_infix {read : Int → Number} {named : String → Option Int}
    {left right : Node} {operator : Operator} {number : Number} :
    (infixExpression left operator right).arithmetic? read named = some number ↔
      ∃ operation first second, operator.ring? = some operation ∧
        left.arithmetic? read named = some first ∧ right.arithmetic? read named = some second ∧
        operation first second = number := by
  simp only [arithmetic?, Option.bind_eq_bind, Option.bind_eq_some_iff, Option.pure_def,
    Option.some.injEq, exists_and_left]

/-- A map between two kinds of numbers that respects the operations. -/
structure Respects (map : Number → Other) : Prop where
  neg (right : Number) : map (-right) = -map right
  add (left right : Number) : map (left + right) = map left + map right
  sub (left right : Number) : map (left - right) = map left - map right
  mul (left right : Number) : map (left * right) = map left * map right

namespace Respects

variable {map : Number → Other} (respects : Respects map)
include respects

theorem ring? {operator : Operator} {operation : Number → Number → Number}
    (known : operator.ring? = some operation) : ∃ operation' : Other → Other → Other,
      operator.ring? = some operation' ∧
        ∀ left right, map (operation left right) = operation' (map left) (map right) := by
  cases operator <;> cases known
  · exact ⟨_, rfl, respects.add⟩
  · exact ⟨_, rfl, respects.sub⟩
  · exact ⟨_, rfl, respects.mul⟩

/-- Computing with some numbers and taking the result to others is computing with the others. -/
theorem arithmetic? {read : Int → Number} {named : String → Option Int} {node : Node}
    {number : Number} (computes : node.arithmetic? read named = some number) :
    node.arithmetic? (fun value => map (read value)) named = some (map number) := by
  fun_induction Node.arithmetic? read named node generalizing number with
  | case1 value =>
      rw [Node.arithmetic?, Word.read?_map, computes]
      rfl
  | case2 name =>
      obtain ⟨value, bound, reads⟩ := Option.bind_eq_some_iff.mp computes
      rw [Node.arithmetic?, bound, Option.bind_some, Word.read?_map, reads]
      rfl
  | case3 right ih =>
      obtain ⟨below, computed, rfl⟩ := Option.map_eq_some_iff.mp computes
      rw [Node.arithmetic?, ih computed, respects.neg]
      rfl
  | case4 left operator right ih ih' =>
      obtain ⟨operation, first, second, known, computed, computed', rfl⟩ :=
        Node.arithmetic?_infix.mp computes
      obtain ⟨operation', known', same⟩ := respects.ring? known
      rw [same]
      exact Node.arithmetic?_infix.mpr ⟨_, _, _, known', ih computed, ih' computed', rfl⟩
  | case5 node => cases computes

end Respects

end Numbers

namespace Word

theorem ofInt_respects : Respects Int64.ofInt where
  neg := Int64.ofInt_neg
  add := Int64.ofInt_add
  sub := Int64.ofInt_sub
  mul := Int64.ofInt_mul

theorem toInt_ofInt (value : Int) : (Int64.ofInt value).toInt = wrap value :=
  Int64.toInt_ofInt

end Word

namespace Eval

/-- The computation makes an integer, and leaves scopes and counters as they were. -/
def MakesInteger (computation : Eval Value) (before : State) (number : Int) : Prop :=
  ∃ serial after, computation before = some (.integer serial number, after) ∧
    after.scopes = before.scopes ∧ after.counters = before.counters

namespace MakesInteger

variable {number : Int} {before : State}

theorem made (number : Int) (before : State) : MakesInteger (makeInteger number) before number :=
  ⟨before.nextSerial, before.bumped, rfl, rfl, rfl⟩

theorem traced {event : Event} {next : Unit → Eval Value}
    (makes : MakesInteger (next ()) (before.traced event) number) :
    MakesInteger (trace event >>= next) before number := by
  obtain ⟨serial, after, run, scopes, counters⟩ := makes
  exact ⟨serial, after, (bind_run_of (trace_run event before)).trans run,
    scopes.trans (State.noted_scopes ..), counters.trans (State.noted_counters ..)⟩

theorem operand {head : Eval Value} {next : Value → Eval Value} {result : Int}
    (makes : MakesInteger head before number)
    (goes : ∀ serial middle, middle.scopes = before.scopes →
      MakesInteger (next (.integer serial number)) middle result) :
    MakesInteger (operand head next) before result := by
  obtain ⟨serial, middle, run, scopes, counters⟩ := makes
  obtain ⟨serial', after, run', scopes', counters'⟩ := goes serial middle scopes
  exact ⟨serial', after, (operand_run run rfl).trans run', scopes'.trans scopes,
    counters'.trans counters⟩

end MakesInteger

theorem applyInfix_words {operator : Operator} {operation : Int64 → Int64 → Int64}
    (known : operator.ring? = some operation) (serial serial' : Nat) (left right : Int64) :
    applyInfix operator (.integer serial left.toInt) (.integer serial' right.toInt) =
      makeInteger (operation left right).toInt := by
  cases operator <;> cases known
  · exact congrArg makeInteger (Int64.toInt_add left right).symm
  · exact congrArg makeInteger (Int64.toInt_sub left right).symm
  · exact congrArg makeInteger (Int64.toInt_mul left right).symm

theorem applyPrefix_word (serial : Nat) (right : Int64) :
    applyPrefix .minus (.integer serial right.toInt) = makeInteger (-right).toInt :=
  congrArg makeInteger (Int64.toInt_neg right).symm

/-- Evaluation computes with words, node by node. -/
theorem makes_word {scopes : Scopes} {scope : ScopeId} {node : Node} {word : Int64}
    (computes : node.arithmetic? Int64.ofInt (scopes.integer? scope) = some word) {depth : Nat}
    (enough : node.height ≤ depth) {before : State} (same : before.scopes = scopes) :
    MakesInteger (evalWithin depth node scope) before word.toInt := by
  induction depth generalizing node word before with
  | zero =>
      rw [Node.height_eq] at enough
      cases enough
  | succ depth ih =>
      have below {child : Node} (member : child ∈ node.children) : child.height ≤ depth :=
        Nat.le_of_lt_succ (Nat.lt_of_lt_of_le (Node.height_lt member) enough)
      fun_cases Node.arithmetic? Int64.ofInt (scopes.integer? scope) node with
      | case1 value =>
          obtain ⟨inside, rfl⟩ := Word.of_read? computes
          rw [Word.toInt_ofInt, Word.wrap_of_inRange inside]
          exact .made value before
      | case2 name =>
          obtain ⟨value, bound, reads⟩ := Option.bind_eq_some_iff.mp computes
          obtain ⟨inside, rfl⟩ := Word.of_read? reads
          obtain ⟨serial, found⟩ := Scopes.lookup?_of_integer? bound
          rw [Word.toInt_ofInt, Word.wrap_of_inRange inside]
          rw [← same] at found
          exact ⟨serial, _, Semantics.evalIdentifier_found found, State.noted_scopes ..,
            State.noted_counters ..⟩
      | case3 right =>
          obtain ⟨negated, computed, rfl⟩ := Option.map_eq_some_iff.mp computes
          apply MakesInteger.traced
          apply (ih computed (below List.mem_cons_self) ?_).operand
          · intro serial middle _
            rw [applyPrefix_word]
            exact .made _ middle
          · exact (State.noted_scopes ..).trans same
      | case4 left operator right =>
          obtain ⟨operation, first, second, known, computed, computed', rfl⟩ :=
            Node.arithmetic?_infix.mp computes
          have start :=
            (State.noted_scopes before .debug .debug (.infixStarted operator)).trans same
          apply MakesInteger.traced
          apply (ih computed (below List.mem_cons_self) start).operand
          intro serial middle kept
          apply (ih computed' (below (by simp [Node.children])) (kept.trans start)).operand
          intro serial' middle' _
          rw [applyInfix_words known]
          exact .made _ middle'
      | case5 node =>
          rw [Node.arithmetic?] at computes
          · cases computes
          all_goals assumption

/-- Wrapping at every step comes to the same as computing exactly and wrapping once at the end, and
as computing with machine words. There is one word that is congruent to the exact value, and the
evaluation ends with it, within the height of the tree and without any other effect. -/
theorem arithmetic_wraps_once {node : Node} {scope : ScopeId} {before : State} {exact : Int}
    (computes : node.arithmetic? id (before.scopes.integer? scope) = some exact) {depth : Nat}
    (enough : node.height ≤ depth) (verbose : Bool) :
    ∃ serial number after,
      evaluate depth node scope verbose before = some (.integer serial number, after) ∧
      (∀ other, Semantics.Wraps exact other ↔ other = number) ∧
      (∃ word : Int64, node.arithmetic? Int64.ofInt (before.scopes.integer? scope) = some word ∧
        word.toInt = number) ∧
      after.scopes = before.scopes ∧ after.counters = before.counters := by
  have machine : node.arithmetic? Int64.ofInt (before.scopes.integer? scope) =
      some (Int64.ofInt exact) := Word.ofInt_respects.arithmetic? computes
  let ready : State := if verbose then { before with level := .debug } else before
  have same : ready.scopes = before.scopes ∧ ready.counters = before.counters := by
    cases verbose <;> exact ⟨rfl, rfl⟩
  obtain ⟨serial, after, run, scopes, counters⟩ := makes_word machine enough same.1
  rw [Word.toInt_ofInt] at run
  refine ⟨serial, Word.wrap exact, { after with level := before.level }, ?_, ?_,
    ⟨_, machine, Word.toInt_ofInt exact⟩, scopes.trans same.1, counters.trans same.2⟩
  · rw [evaluate_run, run]
    rfl
  · intro other
    constructor
    · exact fun wraps => wraps.eq.symm
    · rintro rfl
      exact Semantics.wraps_wrap exact

/-- `(-m) * 3 - 1` -/
def overflowing : Node :=
  .infixExpression (.infixExpression (.prefixExpression .minus (.identifier "m")) .times
    (.integerLiteral 3)) .minus (.integerLiteral 1)

/-- With the smallest integer for `m` the tree overflows at each of its operations, and it comes to
the largest one. -/
theorem arithmetic_wraps_once_overflowing :
    overflowing.arithmetic? id (smallestBound.scopes.integer? 0) = some 27670116110564327423 ∧
      overflowing.height = 4 ∧
      ∃ serial after,
        evaluate 4 overflowing 0 true smallestBound =
          some (.integer serial 9223372036854775807, after) ∧
        after.scopes = smallestBound.scopes ∧ after.counters = smallestBound.counters := by
  have computes : overflowing.arithmetic? id (smallestBound.scopes.integer? 0) =
      some 27670116110564327423 := by decide
  have height : overflowing.height = 4 := by decide
  obtain ⟨serial, number, after, run, only, -, kept⟩ :=
    arithmetic_wraps_once computes height.le true
  have largest : Semantics.Wraps 27670116110564327423 9223372036854775807 :=
    ⟨by decide, by decide⟩
  rw [← (only _).mp largest] at run
  exact ⟨computes, height, serial, after, run, kept⟩

end Eval

end MonkeyLang
