import MonkeyLang.Proofs.Ledger
import MonkeyLang.Proofs.Statements

/-!
A recursive `map`, written with closures and builtins only. Its inner function finds itself through
the scope that it was made in, where it was bound after it was made, and the function to apply
through the same scope; its own `arr` hides the outer one. Each round takes one element off the
array and pushes what becomes of it onto the accumulator.
-/

namespace MonkeyLang.Eval

open Semantics

namespace Mapping

/-- `x * 2` -/
def doubling : Node :=
  .blockStatement [.expressionStatement
    (.infixExpression (.identifier "x") .times (.integerLiteral 2))]

/-- `len(arr) == 0` -/
def finished : Node :=
  .infixExpression (.callExpression (.identifier "len") [.identifier "arr"]) .equal
    (.integerLiteral 0)

/-- `iter(rest(arr), push(acc, f(first(arr))))` -/
def again : Node :=
  .callExpression (.identifier "iter") [
    .callExpression (.identifier "rest") [.identifier "arr"],
    .callExpression (.identifier "push") [.identifier "acc",
      .callExpression (.identifier "f") [
        .callExpression (.identifier "first") [.identifier "arr"]]]]

/-- `if (len(arr) == 0) { acc } else { iter(rest(arr), push(acc, f(first(arr)))) }` -/
def round : Node :=
  .blockStatement [.expressionStatement (.ifExpression finished
    (.blockStatement [.expressionStatement (.identifier "acc")])
    (some (.blockStatement [.expressionStatement again])))]

/-- `let iter = fn(arr, acc) { ... }; iter(arr, [])` -/
def mapping : Node :=
  .blockStatement [.letStatement "iter" (.functionLiteral ["arr", "acc"] round),
    .expressionStatement (.callExpression (.identifier "iter")
      [.identifier "arr", .arrayLiteral []])]

/-- `let map = fn(arr, f) { ... }; map([...], fn(x) { x * 2 })` -/
def program (numbers : List Int) : Node :=
  .program [.letStatement "map" (.functionLiteral ["arr", "f"] mapping),
    .expressionStatement (.callExpression (.identifier "map")
      [.arrayLiteral (numbers.map .integerLiteral), .functionLiteral ["x"] doubling])]

/-- Integers, one for each number. -/
def Lists (numbers : List Int) (values : List Value) : Prop :=
  List.Forall₂ (fun number value => ∃ serial, value = .integer serial number) numbers values

/-- What the numbers become. -/
def doubled (numbers : List Int) : List Int :=
  numbers.map fun number => Word.wrap (2 * number)

/-- A scope that lies in no other, and in which nothing but `map` may be bound. -/
structure Base (home : ScopeId) (scopes : Scopes) : Prop where
  nested : scopes.IsNested
  older : home < scopes.next
  ground : scopes.outer? home = none
  free : ∀ name, name ≠ "map" → (scopes.bindings home).lookup name = none

/-- A call of `map` has opened a scope, and `iter` is bound in it. -/
structure Workshop (home site : ScopeId) (scopes : Scopes) : Prop extends Base home scopes where
  present : site < scopes.next
  link : scopes.outer? site = some home
  f : ∃ serial, (scopes.bindings site).lookup "f" = some (.function serial ["x"] doubling home)
  iter : ∃ serial, (scopes.bindings site).lookup "iter" =
    some (.function serial ["arr", "acc"] round site)
  builtins : ∀ callee : Builtin, (scopes.bindings site).lookup callee.name = none

namespace Workshop

variable {home site outer : ScopeId} {scopes : Scopes}

/-- Whatever scopes are opened, nothing changes in this one. -/
theorem entered (work : Workshop home site scopes) (present : outer < scopes.next)
    (bindings : List (String × Value)) :
    Workshop home site ((scopes.create (some outer)).bindAll scopes.next bindings) := by
  have grown := Scopes.Extends.entered scopes (some outer) bindings
  have there := grown.bindings work.present
  exact
    { nested := work.nested.entered present bindings
      older := Nat.lt_of_lt_of_le work.older grown.grown
      ground := (grown.link home work.older).trans work.ground
      free := fun name apart => by rw [grown.bindings work.older, work.free name apart]
      present := Nat.lt_of_lt_of_le work.present grown.grown
      link := (grown.link site work.present).trans work.link
      f := there ▸ work.f
      iter := there ▸ work.iter
      builtins := there ▸ work.builtins }

theorem builtin (work : Workshop home site scopes) (callee : Builtin) :
    scopes.lookup? site callee.name = none := by
  have other : callee.name ≠ "map" := by cases callee <;> decide
  have outermost : Unbound scopes callee.name home := .outermost (work.free _ other) work.ground
  exact (Unbound.outside (work.builtins callee) work.link outermost).lookup? work.nested

/-- Where a round finds what it needs. -/
structure Supplies (home site inner : ScopeId) (arr acc : Value) (scopes : Scopes) : Prop where
  arr : scopes.lookup? inner "arr" = some arr
  acc : scopes.lookup? inner "acc" = some acc
  f : ∃ serial, scopes.lookup? inner "f" = some (.function serial ["x"] doubling home)
  iter : ∃ serial, scopes.lookup? inner "iter" =
    some (.function serial ["arr", "acc"] round site)
  builtins : ∀ callee : Builtin, scopes.lookup? inner callee.name = none

theorem supplies (work : Workshop home site scopes) (arr acc : Value) :
    Supplies home site scopes.next arr acc
      ((scopes.create (some site)).bindAll scopes.next [("arr", arr), ("acc", acc)]) := by
  have later := work.entered work.present [("arr", arr), ("acc", acc)]
  have filled := scopes.isFilled_entered site [("arr", arr), ("acc", acc)]
  obtain ⟨serial, f⟩ := later.f
  obtain ⟨serial', iter⟩ := later.iter
  refine ⟨filled.own rfl, filled.own rfl, ⟨serial, ?_⟩, ⟨serial', ?_⟩, fun callee => ?_⟩
  · rw [filled.around later.nested rfl, Scopes.lookup?_of_bound _ f]
  · rw [filled.around later.nested rfl, Scopes.lookup?_of_bound _ iter]
  · rw [filled.around later.nested (by cases callee <;> rfl), later.builtin]

end Workshop

section Runs
variable {home site : ScopeId} {start : Ledger}

/-- A call of `f`, in a scope of its own. -/
theorem computes_doubling (nested : start.scopes.IsNested) (older : home < start.scopes.next)
    {serial : Nat} {number : Int} {post : Value → Ledger → Prop}
    (holds : ∀ fresh, post (.integer fresh (Word.wrap (2 * number)))
      (start.called home [("x", .integer serial number)])) :
    Computes doubling start.scopes.next (start.called home [("x", .integer serial number)])
      post := by
  have filled := start.scopes.isFilled_entered home [("x", .integer serial number)]
  have later := nested.entered older [("x", .integer serial number)]
  refine .block (Computes.expression (.operation ?_))
  refine .found (filled.own rfl) ⟨rfl, ?_⟩
  refine .integer fun two => ⟨rfl, ?_⟩
  have made : applyInfix .times (.integer serial number) (.integer two 2) =
      makeInteger (Word.wrap (2 * number)) := by
    rw [Int.mul_comm]
    rfl
  rw [made]
  exact .make holds

variable {inner : ScopeId} {arr acc : Value} {post : Value → Ledger → Prop}

/-- A builtin is called with the array of the round. -/
theorem computes_builtin (supplies : Workshop.Supplies home site inner arr acc start.scopes)
    (callee : Builtin) (sound : arr.isError = false)
    (attains : Attains (fun _ => applyBuiltin callee [arr]) start.builtinCalled post) :
    Computes (.callExpression (.identifier callee.name) [.identifier "arr"]) inner start post := by
  refine .call (.builtin (supplies.builtins callee) ⟨rfl, .cons ?_⟩)
  exact .found supplies.arr ⟨sound, .nil (.builtin attains)⟩

theorem computes_finished {serial : Nat} {values : List Value}
    (supplies : Workshop.Supplies home site inner (.array serial values) acc start.scopes)
    {truth : Bool} (empty : decide ((values.length : Int) = 0) = truth)
    (holds : post (.boolean truth) start.builtinCalled) :
    Computes finished inner start post := by
  refine .operation (computes_builtin supplies .len rfl ?_)
  refine .fresh BuiltinAnswer.array_length.run fun _ => ⟨rfl, .integer fun _ => ⟨rfl, ?_⟩⟩
  exact Attains.plain (empty ▸ holds)

/-- `f(first(arr))` -/
theorem computes_item {serial serial' : Nat} {number : Int} {values : List Value}
    (work : Workshop home site start.scopes)
    (supplies : Workshop.Supplies home site inner
      (.array serial (.integer serial' number :: values)) acc start.scopes)
    (holds : ∀ fresh, post (.integer fresh (Word.wrap (2 * number)))
      (start.builtinCalled.called home [("x", .integer serial' number)])) :
    Computes (.callExpression (.identifier "f")
      [.callExpression (.identifier "first") [.identifier "arr"]]) inner start post := by
  obtain ⟨callee, f⟩ := supplies.f
  refine .call (.found f ⟨rfl, .cons (computes_builtin supplies .first rfl ?_)⟩)
  refine .plain ⟨rfl, .nil (.function rfl ?_)⟩
  have nested : start.builtinCalled.scopes.IsNested := work.nested
  exact computes_doubling nested work.older holds

/-- What is left behind when an accumulator was extended by what becomes of some numbers. -/
structure Extended (start : Ledger) (numbers : List Int) (there : List Value)
    (functionCalls builtinCalls : Nat) (value : Value) (last : Ledger) : Prop where
  array : ∃ serial elements, value = .array serial (there ++ elements) ∧
    Lists (doubled numbers) elements
  grown : start.scopes.Extends last.scopes
  functionCalls : last.functionCalls = start.functionCalls + functionCalls
  builtinCalls : last.builtinCalls = start.builtinCalls + builtinCalls
  errors : last.errors = start.errors

namespace Extended

variable {middle last : Ledger} {numbers : List Int} {there : List Value}
  {functionCalls builtinCalls functionCalls' builtinCalls' : Nat} {value : Value}

/-- An array has no wrapper that a call would take off. -/
theorem unwrapped
    (extended : Extended start numbers there functionCalls builtinCalls value last) :
    Extended start numbers there functionCalls builtinCalls value.unwrapped last := by
  obtain ⟨serial, elements, rfl, lists⟩ := extended.array
  exact { extended with array := ⟨serial, elements, rfl, lists⟩ }

/-- The last of what was there is the first of what comes to it. -/
theorem pushed {serial : Nat} {number : Int}
    (extended : Extended start numbers (there ++ [.integer serial (Word.wrap (2 * number))])
      functionCalls builtinCalls value last) :
    Extended start (number :: numbers) there functionCalls builtinCalls value last := by
  obtain ⟨fresh, elements, rfl, lists⟩ := extended.array
  have more : Lists (doubled (number :: numbers))
      (.integer serial (Word.wrap (2 * number)) :: elements) := .cons ⟨serial, rfl⟩ lists
  rw [List.append_assoc, List.singleton_append]
  exact { extended with array := ⟨fresh, _, rfl, more⟩ }

/-- Scopes were opened and calls counted before. -/
theorem after (extended : Extended middle numbers there functionCalls builtinCalls value last)
    (grown : start.scopes.Extends middle.scopes)
    (called : middle.functionCalls + functionCalls = start.functionCalls + functionCalls')
    (builtinCalled : middle.builtinCalls + builtinCalls = start.builtinCalls + builtinCalls')
    (same : middle.errors = start.errors) :
    Extended start numbers there functionCalls' builtinCalls' value last where
  array := extended.array
  grown := grown.trans extended.grown
  functionCalls := extended.functionCalls.trans called
  builtinCalls := extended.builtinCalls.trans builtinCalled
  errors := extended.errors.trans same

end Extended

/-- A call of `iter` does all the rounds for these numbers. -/
def Rounds (home site : ScopeId) (numbers : List Int) (values : List Value) : Prop :=
  ∀ {start : Ledger}, Workshop home site start.scopes → ∀ (serial serial' : Nat)
    (there : List Value), Computes round start.scopes.next
      (start.called site [("arr", .array serial values), ("acc", .array serial' there)])
      (Extended start numbers there (2 * numbers.length + 1) (4 * numbers.length + 1))

/-- After the last element the accumulator is what it is. -/
theorem rounds_nil : Rounds home site [] [] := by
  intro start work serial serial' there
  have supplies := work.supplies (.array serial []) (.array serial' there)
  refine .block (.last (Computes.expression (.conditional ?_)))
  refine computes_finished supplies rfl ⟨rfl, .block (.last (Computes.expression ?_))⟩
  refine .found supplies.acc ?_
  exact
    { array := ⟨serial', [], by rw [List.append_nil], .nil⟩
      grown := .entered ..
      functionCalls := rfl
      builtinCalls := rfl
      errors := rfl }

/-- The next round gets a shorter array and a longer accumulator. -/
theorem computes_again {number : Int} {numbers : List Int} {values there : List Value}
    {serial serial' mark : Nat} (later : Rounds home site numbers values)
    (work : Workshop home site start.scopes)
    (supplies : Workshop.Supplies home site inner
      (.array serial (.integer mark number :: values)) (.array serial' there) start.scopes) :
    Computes again inner start (Extended start (number :: numbers) there
      (2 * numbers.length + 2) (4 * numbers.length + 4)) := by
  obtain ⟨callee, iter⟩ := supplies.iter
  refine .call (.found iter ⟨rfl, .cons (computes_builtin supplies .rest rfl ?_)⟩)
  refine .fresh BuiltinAnswer.rest.run ?_
  intro shorter
  -- counting the call of a builtin has changed no scope
  have same : Workshop.Supplies home site inner (.array serial (.integer mark number :: values))
      (.array serial' there) start.builtinCalled.scopes := supplies
  refine ⟨rfl, .cons (.call (.builtin (same.builtins .push) ⟨rfl, ?_⟩))⟩
  refine .cons (.found same.acc ⟨rfl, .cons (computes_item work same ?_)⟩)
  intro item
  refine ⟨rfl, .nil (.builtin (.fresh BuiltinAnswer.push.run ?_))⟩
  intro longer
  refine ⟨rfl, .nil (.function rfl ?_)⟩
  have work' : Workshop home site (start.builtinCalled.builtinCalled.called home
      [("x", .integer mark number)]).builtinCalled.scopes := work.entered work.older _
  refine (later work' shorter longer _).mono fun _ _ extended => ?_
  refine extended.unwrapped.pushed.after (.entered ..) ?_ ?_ rfl
  · show start.functionCalls + 1 + _ = _
    omega
  · show start.builtinCalls + 1 + 1 + 1 + _ = _
    omega

/-- One round for each element, and a last one that finds the array empty. -/
theorem rounds {numbers : List Int} {values : List Value} (lists : Lists numbers values) :
    Rounds home site numbers values := by
  -- by induction on the array; each call of `iter` has other scopes and a longer accumulator, so
  -- the ledger and what is there are any
  induction lists with
  | nil => exact rounds_nil
  | @cons number value numbers values integer _ later =>
      obtain ⟨mark, rfl⟩ := integer
      intro start work serial serial' there
      let arr := Value.array serial (.integer mark number :: values)
      have supplies := work.supplies arr (.array serial' there)
      have inside := work.entered work.present [("arr", arr), ("acc", .array serial' there)]
      have more : decide (((Value.integer mark number :: values).length : Int) = 0) = false := by
        rw [List.length_cons]
        exact decide_eq_false (by omega)
      refine .block (.last (Computes.expression (.conditional ?_)))
      refine computes_finished supplies more ⟨rfl, .block (.last (Computes.expression ?_))⟩
      refine (computes_again later inside supplies).mono fun _ _ extended => ?_
      refine extended.after (.entered ..) ?_ ?_ rfl
      · show start.functionCalls + 1 + _ = _
        rw [List.length_cons]
        omega
      · show start.builtinCalls + 1 + _ = _
        rw [List.length_cons]
        omega

/-- The scope of a call of `map`, after `iter` was bound in it. -/
theorem Base.workshop {scopes called : Scopes} (base : Base home scopes) (arr : Value)
    (serial mark : Nat) (opened : called = (scopes.create (some home)).bindAll scopes.next
      [("arr", arr), ("f", .function serial ["x"] doubling home)]) :
    Workshop home scopes.next (called.bind scopes.next "iter"
      (.function mark ["arr", "acc"] round scopes.next)) ∧
    (called.bind scopes.next "iter" (.function mark ["arr", "acc"] round scopes.next)).lookup?
      scopes.next "arr" = some arr := by
  have filled := scopes.isFilled_entered home
    [("arr", arr), ("f", .function serial ["x"] doubling home)]
  have grown := Scopes.Extends.entered scopes (some home)
    [("arr", arr), ("f", .function serial ["x"] doubling home)]
  rw [← opened] at filled grown
  have there : scopes.next < called.next := by
    rw [opened, Scopes.next_bindAll, Scopes.next_create]
    exact Nat.lt_succ_self _
  have own := filled.bound there "iter" (.function mark ["arr", "acc"] round scopes.next)
  refine ⟨?_, Scopes.lookup?_of_bound _ (own "arr")⟩
  exact
    { nested := by
        rw [opened]
        exact (base.nested.entered base.older _).bind _ _
      older := by
        rw [Scopes.next_bind]
        exact Nat.lt_trans base.older there
      ground := by rw [Scopes.outer?_bind, grown.link home base.older, base.ground]
      free := fun name apart => by
        have other : home ≠ scopes.next := Nat.ne_of_lt base.older
        rw [Scopes.bindings_bind, if_neg fun here => other here.1, grown.bindings base.older,
          base.free name apart]
      present := by rwa [Scopes.next_bind]
      link := by rw [Scopes.outer?_bind, filled.link]
      f := ⟨serial, own "f"⟩
      iter := ⟨mark, own "iter"⟩
      builtins := fun callee => by
        rw [own]
        cases callee <;> rfl }

/-- A call of `map` makes `iter` and an empty accumulator, and then does the rounds. -/
theorem computes_mapping {numbers : List Int} {values : List Value}
    (lists : Lists numbers values) (base : Base home start.scopes) (serial serial' : Nat) :
    Computes mapping start.scopes.next (start.called home [("arr", .array serial values),
      ("f", .function serial' ["x"] doubling home)])
      (Extended start numbers [] (2 * numbers.length + 2) (4 * numbers.length + 1)) := by
  refine .block (Computes.binding (.function ?_))
  intro mark
  refine ⟨rfl, .last (Computes.expression (.call ?_))⟩
  -- `iter` is bound in the scope that it was made in, and there its rounds find it
  obtain ⟨work, arr⟩ := base.workshop (.array serial values) serial' mark rfl
  obtain ⟨mark', iter⟩ := work.iter
  refine .found (Scopes.lookup?_of_bound _ iter) ⟨rfl, .cons (.found arr ⟨rfl, .cons ?_⟩)⟩
  refine .array (.nil ?_)
  intro empty
  refine ⟨rfl, .nil (.function rfl ?_)⟩
  refine (rounds lists work serial empty []).mono fun _ _ extended => ?_
  have entered := Scopes.Extends.entered start.scopes (some home)
    [("arr", .array serial values), ("f", .function serial' ["x"] doubling home)]
  refine extended.unwrapped.after (entered.bind_new nofun (Nat.le_refl _) _ _) ?_ rfl rfl
  show start.functionCalls + 1 + _ = _
  omega

/-- Literals are evaluated to the integers they are for. -/
theorem computesAll_numbers (numbers : List Int) (start : Ledger) :
    ComputesAll home (numbers.map .integerLiteral) start fun values last =>
      Lists numbers values ∧ last = start := by
  induction numbers with
  | nil => exact ⟨.nil, rfl⟩
  | cons number numbers ih =>
      refine .cons (.integer fun serial => ⟨rfl, ih.mono ?_⟩)
      rintro values last ⟨lists, same⟩
      exact ⟨.cons ⟨serial, rfl⟩ lists, same⟩

/-- Only `map` is bound where the program runs. -/
theorem base_bound (fresh : start.scopes.IsFresh home) (value : Value) :
    (start.bound home "map" value).scopes.bindings home = [("map", value)] ∧
      Base home (start.bound home "map" value).scopes := by
  have bindings : (start.bound home "map" value).scopes.bindings home = [("map", value)] := by
    rw [Ledger.bound, Scopes.bindings_bind, if_pos ⟨rfl, fresh.present⟩, fresh.empty]
    rfl
  refine ⟨bindings, ?_⟩
  exact
    { nested := fresh.nested.bind _ _
      older := by
        rw [Ledger.bound, Scopes.next_bind]
        exact fresh.present
      ground := by rw [Ledger.bound, Scopes.outer?_bind, fresh.ground]
      free := fun name apart => by
        rw [bindings, List.lookup_cons, beq_false_of_ne apart]
        rfl }

theorem computes_program (fresh : start.scopes.IsFresh home) (numbers : List Int) :
    Computes (program numbers) home start fun value last =>
      (∃ serial elements, value = .array serial elements ∧ Lists (doubled numbers) elements) ∧
      last.functionCalls = start.functionCalls + (2 * numbers.length + 2) ∧
      last.builtinCalls = start.builtinCalls + (4 * numbers.length + 1) ∧
      last.errors = start.errors ∧ last.scopes.names home = ["map"] := by
  refine .program (Computes.binding (.function ?_))
  intro serial
  obtain ⟨bindings, base⟩ := base_bound fresh (.function serial ["arr", "f"] mapping home)
  have callee : (start.bound home "map" (.function serial ["arr", "f"] mapping home)).scopes.lookup?
      home "map" = some (.function serial ["arr", "f"] mapping home) :=
    Scopes.lookup?_of_bound _ (bindings ▸ rfl)
  refine ⟨rfl, .last (Computes.expression (.call (.found callee ⟨rfl, .cons ?_⟩)))⟩
  refine .array ((computesAll_numbers numbers _).mono ?_)
  rintro values _ ⟨lists, rfl⟩ array
  refine ⟨rfl, .cons (.function ?_)⟩
  intro item
  refine ⟨rfl, .nil (.function rfl ?_)⟩
  refine (computes_mapping lists base array item).mono fun _ last extended => ?_
  obtain ⟨elements, grown, functionCalls, builtinCalls, errors⟩ := extended.unwrapped.unwrapped
  refine ⟨elements, functionCalls, builtinCalls, errors, ?_⟩
  rw [Scopes.names, grown.bindings base.older, bindings]
  rfl

end Runs

end Mapping

/-- The program gives an array of the doubled numbers, for as many numbers as there are. It calls
two functions and four builtins for each of them, and besides two functions and one builtin. -/
theorem mapping_doubles (numbers : List Int) {home : ScopeId} {before : State}
    (fresh : before.scopes.IsFresh home) (zeroed : before.counters = {}) (verbose : Bool) :
    ∃ serial elements after,
      (Finally fun depth => evaluate depth (Mapping.program numbers) home verbose before =
        some (.array serial elements, after)) ∧
      List.Forall₂ (fun number element => ∃ serial,
        element = .integer serial (Word.wrap (2 * number))) numbers elements ∧
      after.counters.functionCalls = 2 * numbers.length + 2 ∧
      after.counters.builtinCalls = 4 * numbers.length + 1 ∧
      after.counters.errors = 0 ∧
      after.scopes.names home = ["map"] := by
  obtain ⟨_, after, runs, ⟨serial, elements, rfl, lists⟩, functionCalls, builtinCalls, errors,
    names⟩ := (Mapping.computes_program fresh numbers).evaluate verbose
  have none : before.ledger = ⟨before.scopes, 0, 0, 0⟩ := by rw [State.ledger, zeroed]
  rw [none] at functionCalls builtinCalls errors
  exact ⟨serial, elements, after, runs, List.forall₂_map_left_iff.mp lists,
    functionCalls.trans (Nat.zero_add _), builtinCalls.trans (Nat.zero_add _), errors, names⟩

/-- In a new environment; the double of the first number is one too large. -/
theorem mapping_doubles_overflow :
    State.initial.scopes.IsFresh 0 ∧ State.initial.counters = {} ∧
    ∃ serial first second after,
      (Finally fun depth =>
        evaluate depth (Mapping.program [4611686018427387904, -3]) 0 false State.initial =
          some (.array serial [.integer first (-9223372036854775808), .integer second (-6)],
            after)) ∧
      after.counters.functionCalls = 6 ∧ after.counters.builtinCalls = 9 ∧
      after.counters.errors = 0 ∧ after.scopes.names 0 = ["map"] := by
  have fresh : State.initial.scopes.IsFresh 0 := Scopes.isNested_empty.isFresh_create
  obtain ⟨serial, elements, after, runs, lists, counts⟩ :=
    mapping_doubles [4611686018427387904, -3] fresh rfl false
  obtain ⟨_, _, ⟨first, rfl⟩, rest, rfl⟩ := List.forall₂_cons_left_iff.mp lists
  obtain ⟨_, _, ⟨second, rfl⟩, none, rfl⟩ := List.forall₂_cons_left_iff.mp rest
  obtain rfl := List.forall₂_nil_left_iff.mp none
  exact ⟨fresh, rfl, serial, first, second, after, runs, counts⟩

end MonkeyLang.Eval
