import MonkeyLang.Proofs.Ledger
import MonkeyLang.Proofs.Statements
import Mathlib.Data.Nat.Fib.Basic

/-!
The doubly recursive Fibonacci function. A call opens a scope of its own inside the one where the
function is bound, and the two calls that it makes do the same: the scope of the first one is still
there when the second one is made, and neither changes what the caller sees. Sums are wrapped at
every call, which comes to the same as wrapping the number once.
-/

namespace MonkeyLang.Eval

open Semantics

namespace Fibonacci

/-- `if (n < 2) { return n; }` -/
def early : Node :=
  .expressionStatement (.ifExpression
    (.infixExpression (.identifier "n") .less (.integerLiteral 2))
    (.blockStatement [.returnStatement (.identifier "n")]) none)

/-- `fib(n - distance)` -/
def earlier (distance : Int) : Node :=
  .callExpression (.identifier "fib")
    [.infixExpression (.identifier "n") .minus (.integerLiteral distance)]

/-- `if (n < 2) { return n; } fib(n - 1) + fib(n - 2)` -/
def body : Node :=
  .blockStatement [early, .expressionStatement (.infixExpression (earlier 1) .plus (earlier 2))]

/-- `let fib = fn(n) { ... }; fib(number)` -/
def program (number : Int) : Node :=
  .program [.letStatement "fib" (.functionLiteral ["n"] body),
    .expressionStatement (.callExpression (.identifier "fib") [.integerLiteral number])]

/-- A scope where the function is bound that was made in it. -/
structure Base (home : ScopeId) (scopes : Scopes) : Prop where
  nested : scopes.IsNested
  older : home < scopes.next
  fib : ∃ serial, (scopes.bindings home).lookup "fib" = some (.function serial ["n"] body home)

/-- A call has opened a scope for its argument. -/
structure Activation (home inner : ScopeId) (argument : Value) (scopes : Scopes) : Prop
    extends Base home scopes where
  present : inner < scopes.next
  link : scopes.outer? inner = some home
  own : ∀ name, (scopes.bindings inner).lookup name = [("n", argument)].lookup name

namespace Activation

variable {home inner : ScopeId} {argument : Value} {scopes later : Scopes}

theorem opened (base : Base home scopes) (argument : Value) :
    Activation home scopes.next argument
      ((scopes.create (some home)).bindAll scopes.next [("n", argument)]) := by
  have filled := scopes.isFilled_entered home [("n", argument)]
  have grown := Scopes.Extends.entered scopes (some home) [("n", argument)]
  exact
    { nested := base.nested.entered base.older _
      older := Nat.lt_of_lt_of_le base.older grown.grown
      fib := grown.bindings base.older ▸ base.fib
      present := by
        rw [Scopes.next_bindAll, Scopes.next_create]
        exact Nat.lt_succ_self _
      link := filled.link
      own := filled.values }

/-- Whatever other calls have opened meanwhile, the scope is as it was. -/
theorem extended (active : Activation home inner argument scopes) (grown : scopes.Extends later)
    (nested : later.IsNested) : Activation home inner argument later where
  nested := nested
  older := Nat.lt_of_lt_of_le active.older grown.grown
  fib := grown.bindings active.older ▸ active.fib
  present := Nat.lt_of_lt_of_le active.present grown.grown
  link := (grown.link inner active.present).trans active.link
  own := grown.bindings active.present ▸ active.own

theorem n (active : Activation home inner argument scopes) :
    scopes.lookup? inner "n" = some argument :=
  scopes.lookup?_of_bound (active.own "n")

/-- The function is found around the scope of the call. -/
theorem callee (active : Activation home inner argument scopes) :
    ∃ serial, scopes.lookup? inner "fib" = some (.function serial ["n"] body home) := by
  obtain ⟨serial, fib⟩ := active.fib
  refine ⟨serial, ?_⟩
  rw [active.nested.lookup?_step, active.own, active.link]
  exact scopes.lookup?_of_bound fib

end Activation

/-- What is left behind when a number was computed with some calls of the function. -/
structure Counted (start : Ledger) (number : Int) (calls : Nat) (value : Value) (last : Ledger) :
    Prop where
  integer : ∃ serial, value = .integer serial number
  grown : start.scopes.Extends last.scopes
  nested : last.scopes.IsNested
  functionCalls : last.functionCalls = start.functionCalls + calls
  builtinCalls : last.builtinCalls = start.builtinCalls
  errors : last.errors = start.errors

/-- A call of the function with an argument gives a number, and takes some calls with itself. -/
def Gives (home : ScopeId) (argument number : Int) (calls : Nat) : Prop :=
  ∀ start : Ledger, Base home start.scopes → ∀ mark serial : Nat,
    Applies (.function mark ["n"] body home) [.integer serial argument] start
      (Counted start number calls)

section Calls
variable {home inner : ScopeId} {start : Ledger} {argument : Int} {serial : Nat}
  {post : Value → Ledger → Prop}

/-- The test of the argument changes nothing. -/
theorem computes_test (active : Activation home inner (.integer serial argument) start.scopes)
    (holds : post (.boolean (argument < 2)) start) :
    Computes (.infixExpression (.identifier "n") .less (.integerLiteral 2)) inner start post := by
  refine .operation (.found active.n ⟨rfl, .integer fun _ => ⟨rfl, ?_⟩⟩)
  exact .plain holds

/-- A small argument is returned out of the `if`, and what stands behind it is not reached. -/
theorem gives_small (small : argument < 2) : Gives home argument argument 1 := by
  intro start base mark serial
  have active := Activation.opened base (.integer serial argument)
  refine .function rfl (.block (Computes.expression (.guard ?_)))
  refine computes_test active ⟨rfl, ?_⟩
  rw [decide_eq_true small]
  refine .block (.last (.returned (.found active.n ⟨rfl, fun wrapper => ?_⟩)))
  exact
    { integer := ⟨serial, rfl⟩
      grown := .entered ..
      nested := active.nested
      functionCalls := rfl
      builtinCalls := rfl
      errors := rfl }

/-- `fib(n - distance)`, when it is known what the call gives. -/
theorem computes_earlier {distance number : Int} {calls : Nat}
    (active : Activation home inner (.integer serial argument) start.scopes)
    (inside : Word.InRange (argument - distance))
    (gives : Gives home (argument - distance) number calls) :
    Computes (earlier distance) inner start (Counted start number calls) := by
  obtain ⟨mark, callee⟩ := active.callee
  refine .call (.found callee ⟨rfl, .cons (.operation ?_)⟩)
  refine .found active.n ⟨rfl, .integer fun _ => ⟨rfl, ?_⟩⟩
  have made (serial' : Nat) : applyInfix .minus (.integer serial argument)
      (.integer serial' distance) = makeInteger (argument - distance) :=
    congrArg makeInteger (Word.wrap_of_inRange inside)
  rw [made]
  exact .make fun fresh => ⟨rfl, .nil (gives start active.toBase mark fresh)⟩

/-- Any other argument takes the two calls before it. -/
theorem gives_sum {one two : Int} {calls calls' : Nat} (large : 2 ≤ argument)
    (inside : Word.InRange argument) (first : Gives home (argument - 1) one calls)
    (second : Gives home (argument - 2) two calls') :
    Gives home argument (Word.wrap (one + two)) (calls + calls' + 1) := by
  intro start base mark serial
  obtain ⟨low, high⟩ := inside
  have active := Activation.opened base (.integer serial argument)
  refine .function rfl (.block (Computes.expression (.guard ?_)))
  refine computes_test active ⟨rfl, ?_⟩
  rw [decide_eq_false (Int.not_lt.mpr large)]
  refine .last (Computes.expression (.operation ?_))
  refine (computes_earlier active ⟨by omega, by omega⟩ first).mono ?_
  rintro _ middle ⟨⟨serial', rfl⟩, grown, nested, functionCalls, builtinCalls, errors⟩
  have active' := active.extended grown nested
  refine ⟨rfl, (computes_earlier active' ⟨by omega, by omega⟩ second).mono ?_⟩
  rintro _ last ⟨⟨serial'', rfl⟩, grown', nested', functionCalls', builtinCalls', errors'⟩
  have made : applyInfix .plus (.integer serial' one) (.integer serial'' two) =
      makeInteger (Word.wrap (one + two)) := rfl
  rw [made]
  refine ⟨rfl, .make fun fresh => ?_⟩
  exact
    { integer := ⟨fresh, rfl⟩
      grown := ((Scopes.Extends.entered ..).trans grown).trans grown'
      nested := nested'
      functionCalls := by
        rw [functionCalls', functionCalls]
        show start.functionCalls + 1 + calls + calls' = _
        omega
      builtinCalls := builtinCalls'.trans builtinCalls
      errors := errors'.trans errors }

/-- The Fibonacci numbers, wrapped; each takes as many calls as its two predecessors do, and
one. -/
theorem gives_fib (index : Nat) (inside : Word.InRange index) :
    Gives home index (Word.wrap (Nat.fib index)) (2 * Nat.fib (index + 1) - 1) := by
  -- both predecessors are called, so the induction takes two steps at once
  induction index using Nat.twoStepInduction with
  | zero =>
      rw [Word.wrap_of_inRange (by decide)]
      exact gives_small (by decide)
  | one =>
      rw [Word.wrap_of_inRange (by decide)]
      exact gives_small (by decide)
  | more index two one =>
      obtain ⟨-, high⟩ := inside
      have back : ((index + 2 : Nat) : Int) - 1 = (index + 1 : Nat) := by omega
      have back' : ((index + 2 : Nat) : Int) - 2 = index := by omega
      have first := one ⟨by omega, by omega⟩
      have second := two ⟨by omega, by omega⟩
      rw [← back] at first
      rw [← back'] at second
      have sum := gives_sum (by omega) ⟨by omega, high⟩ first second
      have number : Nat.fib (index + 2) = Nat.fib (index + 1) + Nat.fib index := by
        rw [Nat.fib_add_two, Nat.add_comm]
      have calls : 2 * Nat.fib (index + 1 + 1) - 1 + (2 * Nat.fib (index + 1) - 1) + 1 =
          2 * Nat.fib (index + 2 + 1) - 1 := by
        have positive : 0 < Nat.fib (index + 1) := Nat.fib_pos.mpr (Nat.succ_pos _)
        have positive' : 0 < Nat.fib (index + 1 + 1) := Nat.fib_pos.mpr (Nat.succ_pos _)
        have next : Nat.fib (index + 2 + 1) = Nat.fib (index + 1) + Nat.fib (index + 1 + 1) :=
          Nat.fib_add_two
        omega
      rwa [Word.wrap_add_wrap, ← Nat.cast_add, ← number, calls] at sum

/-- Any argument of 64 bits: it is its own number, or that of a Fibonacci number. -/
theorem gives (inside : Word.InRange argument) :
    Gives home argument (if argument < 2 then argument else Word.wrap (Nat.fib argument.toNat))
      (if argument < 2 then 1 else 2 * Nat.fib (argument.toNat + 1) - 1) := by
  split
  · next small => exact gives_small small
  · next large =>
    have index : (argument.toNat : Int) = argument := Int.toNat_of_nonneg (by omega)
    have fib : Gives home argument.toNat _ _ := gives_fib argument.toNat (by rwa [index])
    rwa [index] at fib

end Calls

/-- Only `fib` is bound where the program runs. -/
theorem base_bound {home : ScopeId} {start : Ledger} (fresh : start.scopes.IsFresh home)
    (serial : Nat) :
    (start.bound home "fib" (.function serial ["n"] body home)).scopes.names home = ["fib"] ∧
      Base home (start.bound home "fib" (.function serial ["n"] body home)).scopes := by
  have bindings : (start.bound home "fib" (.function serial ["n"] body home)).scopes.bindings home =
      [("fib", .function serial ["n"] body home)] := by
    rw [Ledger.bound, Scopes.bindings_bind, if_pos ⟨rfl, fresh.present⟩, fresh.empty]
    rfl
  refine ⟨congrArg Assoc.keys bindings, fresh.nested.bind _ _, ?_, serial, ?_⟩
  · rw [Ledger.bound, Scopes.next_bind]
    exact fresh.present
  · rw [bindings]
    rfl

theorem computes_program {home : ScopeId} {start : Ledger} {number : Int}
    (fresh : start.scopes.IsFresh home) (inside : Word.InRange number) :
    Computes (program number) home start fun value last =>
      (∃ serial, value = .integer serial
        (if number < 2 then number else Word.wrap (Nat.fib number.toNat))) ∧
      last.functionCalls = start.functionCalls +
        (if number < 2 then 1 else 2 * Nat.fib (number.toNat + 1) - 1) ∧
      last.builtinCalls = start.builtinCalls ∧ last.errors = start.errors ∧
      last.scopes.names home = ["fib"] := by
  refine .program (Computes.binding (.function fun mark => ?_))
  obtain ⟨names, base⟩ := base_bound fresh mark
  obtain ⟨serial, fib⟩ := base.fib
  refine ⟨rfl, .last (Computes.expression (.call ?_))⟩
  refine .found (Scopes.lookup?_of_bound _ fib) ⟨rfl, .cons (.integer fun argument => ⟨rfl, ?_⟩)⟩
  refine .nil ((gives inside _ base serial argument).mono fun _ last counted => ?_)
  obtain ⟨⟨result, rfl⟩, grown, -, functionCalls, builtinCalls, errors⟩ := counted
  refine ⟨⟨result, rfl⟩, functionCalls, builtinCalls, errors, ?_⟩
  rw [Scopes.names, grown.bindings base.older]
  exact names

end Fibonacci

/-- The program ends for every argument of 64 bits, with a Fibonacci number that is wrapped to 64
bits, or with the argument itself if that is less than two. The calls it takes are counted by the
next Fibonacci number. -/
theorem fibonacci_doubly_recursive {number : Int} {home : ScopeId} {before : State}
    (inside : Word.InRange number) (fresh : before.scopes.IsFresh home)
    (zeroed : before.counters = {}) (verbose : Bool) : ∃ serial after,
      (Finally fun depth => evaluate depth (Fibonacci.program number) home verbose before =
        some (.integer serial (if number < 2 then number else Word.wrap (Nat.fib number.toNat)),
          after)) ∧
      after.counters.functionCalls =
        (if number < 2 then 1 else 2 * Nat.fib (number.toNat + 1) - 1) ∧
      after.counters.builtinCalls = 0 ∧
      after.counters.errors = 0 ∧
      after.scopes.names home = ["fib"] := by
  obtain ⟨_, after, runs, ⟨serial, rfl⟩, functionCalls, builtinCalls, errors, names⟩ :=
    (Fibonacci.computes_program fresh inside).evaluate verbose
  have none : before.ledger = ⟨before.scopes, 0, 0, 0⟩ := by rw [State.ledger, zeroed]
  rw [none] at functionCalls builtinCalls errors
  exact ⟨serial, after, runs, functionCalls.trans (Nat.zero_add _), builtinCalls, errors, names⟩

/-- In a new environment; the ninety-third Fibonacci number is the first that is too large. -/
theorem fibonacci_doubly_recursive_overflow :
    Word.InRange 93 ∧ State.initial.scopes.IsFresh 0 ∧ State.initial.counters = {} ∧
    ∃ serial after,
      (Finally fun depth => evaluate depth (Fibonacci.program 93) 0 false State.initial =
        some (.integer serial (-6246583658587674878), after)) ∧
      after.counters.functionCalls = 39480548439736446333 ∧
      after.counters.builtinCalls = 0 ∧ after.counters.errors = 0 ∧
      after.scopes.names 0 = ["fib"] := by
  have inside : Word.InRange 93 := by decide
  have fresh : State.initial.scopes.IsFresh 0 := Scopes.isNested_empty.isFresh_create
  have number : Word.wrap (Nat.fib 93) = -6246583658587674878 := by decide +kernel
  have calls : 2 * Nat.fib 94 - 1 = 39480548439736446333 := by decide +kernel
  obtain ⟨serial, after, runs, functionCalls, counts⟩ :=
    fibonacci_doubly_recursive inside fresh rfl false
  rw [if_neg (by decide)] at runs functionCalls
  exact ⟨inside, fresh, rfl, serial, after, number ▸ runs, functionCalls.trans calls, counts⟩

end MonkeyLang.Eval
