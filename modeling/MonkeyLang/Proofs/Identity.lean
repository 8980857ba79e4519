import MonkeyLang.Proofs.Passages
import MonkeyLang.Proofs.Stock
import Mathlib.Logic.Relation

/-!
What `==` says. Integers are compared by their numbers; all else that can be compared is equal
to itself alone, and then everything about it is the same. A literal of an array, a hash or a
function, and likewise `push` and `rest`, make an object that is equal to none that there was
before, while an object that is only handed on stays equal to itself.
-/

namespace MonkeyLang.Eval

open Semantics

variable {left right value other first read : Value} {before after : State} {truth : Bool}

/-- What `==` says of two values, in every state. -/
def Compares (left right : Value) (truth : Bool) : Prop :=
  ∀ state, applyInfix .equal left right state = some (.boolean truth, state)

theorem compares_of_reference (reference : left.IsReference) (same : left.tag = right.tag) :
    Compares left right (left.same right) := by
  intro state
  have comparable : left.tag ≠ .integer ∧ left.tag ≠ .string := by
    cases left with
    | array | hash | function => simp [Value.tag]
    | _ => cases reference
  rw [applyInfix_other same comparable.1 comparable.2]
  rfl

theorem compares_self (reference : value.IsReference) : Compares value value true := by
  have compares := compares_of_reference reference (rfl : value.tag = value.tag)
  rwa [same_iff.mpr rfl] at compares

theorem compares_apart (reference : left.IsReference) (same : left.tag = right.tag)
    (apart : left.identity ≠ right.identity) : Compares left right false := by
  have compares := compares_of_reference reference same
  rwa [Bool.eq_false_iff.mpr (mt same_iff.mp apart)] at compares

/-- Two values that are equal are integers with one number, or one object. -/
theorem equal_true (run : applyInfix .equal left right before = some (.boolean true, after)) :
    (∃ serial serial' number, left = .integer serial number ∧ right = .integer serial' number) ∨
      left.tag = right.tag ∧ left.tag ≠ .integer ∧ left.identity = right.identity := by
  obtain ⟨answer, rule⟩ := InfixAnswer.total .equal left right
  have answered := (Answer.eq_of_run rule.run run).1
  cases rule with
  | mismatch | unknown => cases answered
  | equal same =>
      cases answered
      cases same.mp rfl
      exact .inl ⟨_, _, _, rfl, rfl⟩
  | identical same integer _ identity =>
      cases answered
      exact .inr ⟨same, integer, identity.mp rfl⟩

/-- How a program makes an array, a hash or a function, unless an error comes in between. -/
inductive Makes (before : State) (value : Value) (after : State) : Prop where
  | array {elements scope} : Yields (.arrayLiteral elements) scope before value after →
      Makes before value after
  | hash {pairs scope} : Yields (.hashLiteral pairs) scope before value after →
      Makes before value after
  | function {parameters body scope} :
      Yields (.functionLiteral parameters body) scope before value after →
        Makes before value after
  | push {depth arguments} : call depth (.builtin .push) arguments before = some (value, after) →
      Makes before value after
  | rest {depth serial head tail} :
      call depth (.builtin .rest) [.array serial (head :: tail)] before = some (value, after) →
        Makes before value after

/-- An object with the number that was due, which is later than those due before. -/
structure Fresh (before : State) (value : Value) (after : State) : Prop where
  reference : value.IsReference
  made : ∃ serial, value.identity = .made serial ∧ before.nextSerial ≤ serial ∧
    after.nextSerial = serial + 1

theorem Fresh.of_store {middle : State} {store : Store} (reference : value.IsReference)
    (le : before.nextSerial ≤ store.nextSerial) (identity : value.identity = .made store.nextSerial)
    (last : middle.store = store.made) : Fresh before value middle :=
  ⟨reference, store.nextSerial, identity, le, congrArg Store.nextSerial last⟩

theorem exists_of_operands_run {depth : Nat} {scope : ScopeId} {nodes : List Node}
    {next : List Value → Eval Value}
    (run : operands (fun node => evalWithin depth node scope) nodes next before =
      some (value, after)) (sound : value.isError = false) :
    ∃ values middle, before.nextSerial ≤ middle.nextSerial ∧
      next values middle = some (value, after) := by
  induction nodes generalizing before next with
  | nil => exact ⟨[], before, le_rfl, run⟩
  | cons node rest ih =>
      rcases exists_of_operand_run run with ⟨-, failed⟩ | ⟨result, middle, started, -, run⟩
      · exact absurd (sound.symm.trans failed) Bool.false_ne_true
      · obtain ⟨values, last, le, run⟩ := ih run
        exact ⟨_, last, (evalWithin_nextSerial_le started).trans le, run⟩

theorem exists_of_pairs_run {depth : Nat} {scope : ScopeId} {pairs : List (Node × Node)}
    {entries : List (HashKey × Value × Value)}
    (run : evalPairs (fun node => evalWithin depth node scope) pairs entries before =
      some (value, after)) (sound : value.isError = false) :
    ∃ filed middle, before.nextSerial ≤ middle.nextSerial ∧
      makeHash filed middle = some (value, after) := by
  induction pairs generalizing before entries with
  | nil => exact ⟨entries, before, le_rfl, run⟩
  | cons pair rest ih =>
      rcases exists_of_operand_run run with ⟨-, failed⟩ | ⟨key, keyed, started, -, run⟩
      · exact absurd (sound.symm.trans failed) Bool.false_ne_true
      · cases slot : key.hashKey? with
        | none =>
            rw [slot] at run
            cases (fail_run _ _).symm.trans run
            cases sound
        | some slot' =>
            rw [slot] at run
            rcases exists_of_operand_run run with ⟨-, failed⟩ | ⟨item, valued, started', -, run⟩
            · exact absurd (sound.symm.trans failed) Bool.false_ne_true
            · obtain ⟨filed, last, le, run⟩ := ih run
              exact ⟨filed, last, (evalWithin_nextSerial_le started).trans
                ((evalWithin_nextSerial_le started').trans le), run⟩

theorem Makes.fresh (makes : Makes before value after) (sound : value.isError = false) :
    Fresh before value after := by
  -- whatever is evaluated first, the object is made last, in the state that this ends in
  cases makes with
  | array yields =>
      obtain ⟨_ | depth, run⟩ := yields
      · cases run
      · obtain ⟨values, middle, le, run⟩ := exists_of_operands_run run sound
        cases run
        exact ⟨trivial, _, rfl, le, rfl⟩
  | @hash pairs scope yields =>
      obtain ⟨_ | depth, run⟩ := yields
      · cases run
      · rw [evalWithin, evalNode, bind_run_of (trace_run _ _)] at run
        obtain ⟨filed, middle, le, run⟩ := exists_of_pairs_run run sound
        cases run
        rw [State.traced, State.noted_nextSerial] at le
        exact ⟨trivial, _, rfl, le, rfl⟩
  | function yields =>
      obtain ⟨_ | depth, run⟩ := yields
      · cases run
      · cases run
        exact ⟨trivial, _, rfl, le_rfl, rfl⟩
  | @push depth arguments run =>
      obtain ⟨answer, rule⟩ := BuiltinAnswer.total .push arguments
      obtain ⟨rfl, last⟩ := call_builtin rule run
      cases rule with
      | push => exact .of_store trivial le_rfl rfl last
      | wrong_arity | not_an_array => cases sound
      | empty among => simp at among
  | rest run =>
      obtain ⟨rfl, last⟩ := call_builtin .rest run
      exact .of_store trivial le_rfl rfl last

/-- A new object is equal to nothing that there was. -/
theorem Fresh.apart (fresh : Fresh before value after) (same : other.tag = value.tag)
    (older : ∀ serial, other.identity = .made serial → serial + 1 < after.nextSerial) :
    Compares value other false ∧ Compares other value false := by
  obtain ⟨reference, serial, identity, -, last⟩ := fresh
  have distinct : value.identity ≠ other.identity := by
    intro equal
    have below := older serial (equal ▸ identity)
    omega
  have other_reference : other.IsReference := by
    cases value with
    | array | hash | function => cases other <;> trivial
    | _ => cases reference
  exact ⟨compares_apart reference same.symm distinct,
    compares_apart other_reference same distinct.symm⟩

/-- What is held was made earlier. -/
theorem Supplied.older {stock : Set Value} {state : State} {answers : List Value}
    (supplied : Supplied stock state answers) (held : AtHand state answers value) {serial : Nat}
    (made : value.identity = .made serial) : serial < state.nextSerial :=
  supplied.stocked.older value ((supplied.held held).whole serial made) serial made

theorem eq_of_handed_on (reference : first.IsReference)
    (passage : Relation.ReflTransGen Handed first read) : read = first := by
  induction passage with
  | refl => rfl
  | tail _ handed ih => exact handed.eq (ih ▸ reference) |>.trans ih

/-- Of all that can be come by: what is equal is alike and, integers apart, one and the same, with
the same parts; what is made has the last number that was handed out, and is equal to nothing
that was at hand before or that has an earlier number; and an object stays equal to itself
wherever it is handed on to. -/
theorem equality_is_identity {state : State} {answers : List Value}
    (arises : Arises state answers) :
    (∀ left right before after, AtHand state answers left → AtHand state answers right →
      applyInfix .equal left right before = some (.boolean true, after) →
        left.tag = right.tag ∧ left.inspect = right.inspect ∧
          (left.tag ≠ .integer → left = right)) ∧
    (∀ value after, Makes state value after → value.isError = false →
      value.IsReference ∧ ∀ other, other.tag = value.tag →
        (AtHand state answers other ∨
          ∃ serial, other.identity = .made serial ∧ serial + 1 < after.nextSerial) →
          Compares value other false ∧ Compares other value false) ∧
    ∀ first read, first.IsReference → Relation.ReflTransGen Handed first read →
      Compares first read true := by
  obtain ⟨stock, supplied⟩ := arises.supplied_from
  refine ⟨?_, ?_, ?_⟩
  · intro left right before after held held' run
    rcases equal_true run with ⟨serial, serial', number, rfl, rfl⟩ | ⟨same, -, identity⟩
    · exact ⟨rfl, rfl, fun other => absurd rfl other⟩
    · have one : left = right := supplied.stocked.eq_of_identity_eq (supplied.held held).whole
        (supplied.held held').whole identity
      exact ⟨same, congrArg Value.inspect one, fun _ => one⟩
  · intro value after makes sound
    have fresh := makes.fresh sound
    -- both what is held and what was made meanwhile have smaller numbers
    refine ⟨fresh.reference, fun other same existed => fresh.apart same fun serial made => ?_⟩
    rcases existed with held | ⟨serial', made', below⟩
    · obtain ⟨-, due, -, le, last⟩ := fresh
      have below := supplied.older held made
      omega
    · cases made.symm.trans made'
      exact below
  · intro first read reference passage
    rw [eq_of_handed_on reference passage]
    exact compares_self reference

/-- `let a = []` -/
def bindEmpty : Node :=
  .letStatement "a" (.arrayLiteral [])

/-- The state after `let a = []`. -/
def boundEmpty : State :=
  State.initial.bumped.bound 0 "a" (.array 0 [])

/-- After `let a = []` another `[]` is not equal to the value of `a`, but the value of `a` is. -/
theorem equality_is_identity_boundEmpty :
    Arises boundEmpty [.null] ∧ AtHand boundEmpty [.null] (.array 0 []) ∧
      Makes boundEmpty (.array 1 []) boundEmpty.bumped ∧
      Compares (.array 1 []) (.array 0 []) false ∧
      Handed (.array 0 []) (.array 0 []) ∧ Compares (.array 0 []) (.array 0 []) true := by
  have arises : Arises boundEmpty [.null] := by
    have opened : Arises State.initial [] := Arises.start.opened none
    have run : evaluate 2 bindEmpty 0 false State.initial = some (.null, boundEmpty) := rfl
    exact opened.evaluated run
  have held : AtHand boundEmpty [.null] (.array 0 []) := by
    have member : ("a", Value.array 0 []) ∈ boundEmpty.scopes.bindings 0 := List.mem_cons_self
    exact .bound member .self
  have makes : Makes boundEmpty (.array 1 []) boundEmpty.bumped := by
    have yields : Yields (.arrayLiteral []) 0 boundEmpty (.array 1 []) boundEmpty.bumped :=
      ⟨1, rfl⟩
    exact .array yields
  have handed : Handed (.array 0 []) (.array 0 []) := by
    have present : 0 < State.initial.scopes.next := Nat.zero_lt_one
    have literal : Yields (.arrayLiteral []) 0 (State.initial.traced (.bindingStarted "a"))
        (.array 0 []) State.initial.bumped := ⟨1, rfl⟩
    have binds : Yields bindEmpty 0 State.initial .null boundEmpty := ⟨2, rfl⟩
    have reads : Yields (.identifier "a") 0 boundEmpty (.array 0 []) boundEmpty := ⟨1, rfl⟩
    exact .binding present literal binds rfl reads
  obtain ⟨-, fresh, stays⟩ := equality_is_identity arises
  refine ⟨arises, held, makes, ?_, handed, ?_⟩
  · exact ((fresh _ _ makes rfl).2 (.array 0 []) rfl (.inl held)).1
  · exact stays _ _ trivial (.single handed)

end MonkeyLang.Eval
