import MonkeyLang.Proofs.Completeness
import MonkeyLang.Proofs.HashLookup
import MonkeyLang.Proofs.Invariant

/-!
Ways for a value to get about. A program hands a value on by binding it, by passing it to a
function or returning it from one, or by putting it into an array or a hash and taking it out
again. Whichever way an array, a hash or a function takes, what is read at the other end is that
very object.
-/

namespace MonkeyLang

namespace Scopes

variable (scopes : Scopes) {scope : ScopeId} {name : String} {value : Value}

theorem lookup?_of_bound (bound : (scopes.bindings scope).lookup name = some value) :
    scopes.lookup? scope name = some value := by
  rw [lookup?, chain, chainWithin, List.findSome?_cons, bound]

theorem bindAll_append (first second : List (String × Value)) :
    scopes.bindAll scope (first ++ second) =
      (scopes.bindAll scope first).bindAll scope second := by
  induction first generalizing scopes with
  | nil => rfl
  | cons binding rest ih => exact ih _

theorem lookup_bindAll_absent {others : List (String × Value)}
    (absent : ∀ other ∈ others, other.1 ≠ name) :
    ((scopes.bindAll scope others).bindings scope).lookup name =
      (scopes.bindings scope).lookup name := by
  induction others generalizing scopes with
  | nil => rfl
  | cons other rest ih =>
      obtain ⟨apart, later⟩ := List.forall_mem_cons.mp absent
      rw [bindAll, ih _ later, bindings_bind]
      split
      · rw [Assoc.lookup_insert, if_neg (Ne.symm apart)]
      · rfl

/-- Of a name that is bound repeatedly the last value stays. -/
theorem lookup_bindAll_last (present : scope < scopes.next) (earlier : List (String × Value))
    {others : List (String × Value)} (absent : ∀ other ∈ others, other.1 ≠ name) :
    ((scopes.bindAll scope (earlier ++ (name, value) :: others)).bindings scope).lookup name =
      some value := by
  have there : scope < (scopes.bindAll scope earlier).next := by rwa [next_bindAll]
  rw [bindAll_append, bindAll, lookup_bindAll_absent _ absent, bindings_bind,
    if_pos ⟨rfl, there⟩, Assoc.lookup_insert, if_pos rfl]

end Scopes

/-- Arrays, hashes and functions: what a program makes and compares as objects. -/
def Value.IsReference : Value → Prop
  | array _ _ => True
  | hash _ _ => True
  | function _ _ _ _ => True
  | _ => False

namespace Value.IsReference

variable {value : Value}

theorem isError (reference : value.IsReference) : value.isError = false := by
  cases value with
  | error => cases reference
  | _ => rfl

theorem unwrapped (reference : value.IsReference) : value.unwrapped = value := by
  cases value with
  | returned => cases reference
  | _ => rfl

end Value.IsReference

namespace Eval

open Semantics

/-- Operands evaluate, from left to right and without an error, to these values. -/
inductive OperandsYield (scope : ScopeId) : List Node → State → List Value → State → Prop where
  | nil {state} : OperandsYield scope [] state [] state
  | cons {node rest before value middle values after} :
      Yields node scope before value middle → value.isError = false →
        OperandsYield scope rest middle values after →
          OperandsYield scope (node :: rest) before (value :: values) after

/-- A program has put a value at a place in an array. -/
inductive Placed (first : Value) : Nat → Value → Prop where
  | literal {nodes scope before values ready place whole after} :
      OperandsYield scope nodes before values ready → values[place]? = some first →
        Yields (.arrayLiteral nodes) scope before whole after → Placed first place whole
  | pushed {depth serial elements before whole after} :
      call depth (.builtin .push) [.array serial elements, first] before = some (whole, after) →
        Placed first elements.length whole
  | kept {depth place whole item before longer after} : Placed first place whole →
      call depth (.builtin .push) [whole, item] before = some (longer, after) →
        Placed first place longer
  | shifted {depth place whole before shorter after} : Placed first (place + 1) whole →
      call depth (.builtin .rest) [whole] before = some (shorter, after) →
        Placed first place shorter

/-- A program has filed a value in a hash under a key, and no other after it. -/
inductive Recorded (first : Value) (slot : HashKey) : Value → Prop where
  | literal {depth pairs scope before earlier own others ready whole after} :
      PairsYield (fun node => evalWithin depth node scope) pairs
        (before.traced (.hashStarted pairs.length)) (earlier ++ (own, first) :: others) ready →
      (∀ item ∈ earlier ++ (own, first) :: others, ∃ slot, item.1.hashKey? = some slot) →
      own.hashKey? = some slot → (∀ other ∈ others, other.1.hashKey? ≠ some slot) →
        Yields (.hashLiteral pairs) scope before whole after → Recorded first slot whole

/-- One value goes in somewhere, and another one is read at the other end. -/
inductive Handed (first read : Value) : Prop where
  /-- The name has not been bound anew in the meantime. -/
  | binding {name node home before middle bound scope later last} :
      home < before.scopes.next →
      Yields node home (before.traced (.bindingStarted name)) first middle →
      Yields (.letStatement name node) home before .null bound →
      later.scopes.lookup? scope name = bound.scopes.lookup? home name →
        Yields (.identifier name) scope later read last → Handed first read
  /-- Of parameters with one name the last counts. -/
  | argument {parameters : List String} {arguments : List Value} {before : State}
      {earlier name others closure scope later last} :
      parameters.zip arguments = earlier ++ (name, first) :: others →
      (∀ other ∈ others, other.1 ≠ name) →
      later.scopes.lookup? scope name =
        (before.called closure parameters arguments).scopes.lookup? before.scopes.next name →
        Yields (.identifier name) scope later read last → Handed first read
  | returned {parameters : List String} {arguments : List Value} {before : State}
      {depth serial body closure expression mid last after} :
      arguments.length = parameters.length →
      Reaches (.returnStatement expression) before.scopes.next body
        (before.called closure parameters arguments) mid →
      Yields expression before.scopes.next mid first last →
        call depth (.function serial parameters body closure) arguments before =
          some (read, after) → Handed first read
  | ended {parameters : List String} {arguments : List Value} {before : State}
      {depth serial body closure last after} :
      arguments.length = parameters.length →
      Yields body before.scopes.next (before.called closure parameters arguments) first last →
        call depth (.function serial parameters body closure) arguments before =
          some (read, after) → Handed first read
  | indexed {place whole left index scope before between serial middle after} :
      Placed first place whole → Yields left scope before whole between →
      Yields index scope between (.integer serial place) middle →
        Yields (.indexExpression left index) scope before read after → Handed first read
  | head {depth whole before after} : Placed first 0 whole →
      call depth (.builtin .first) [whole] before = some (read, after) → Handed first read
  | final {depth serial front value before after} :
      Placed first front.length (.array serial (front ++ [value])) →
      call depth (.builtin .last) [.array serial (front ++ [value])] before =
        some (read, after) → Handed first read
  | filed {slot whole left index scope before between key middle after} :
      Recorded first slot whole → Yields left scope before whole between →
      Yields index scope between key middle → key.hashKey? = some slot →
        Yields (.indexExpression left index) scope before read after → Handed first read

section Reading
variable {first read value whole : Value} {scope : ScopeId} {before after : State} {depth : Nat}

theorem OperandsYield.runs {nodes : List Node} {values : List Value}
    (yields : OperandsYield scope nodes before values after) :
    OperandsRun nodes scope before (.ok values) after := by
  induction yields with
  | nil => exact .nil
  | cons first sound _ ih => exact .cons first sound ih

theorem OperandsYield.array {nodes : List Node} {values : List Value}
    (yields : OperandsYield scope nodes before values after) :
    Yields (.arrayLiteral nodes) scope before (.array after.nextSerial values) after.bumped :=
  yields_of_node (yields.runs.mono fun _ run => run makeArray)

/-- A call of a builtin answers as the rules for builtins say. -/
theorem call_builtin {callee : Builtin} {arguments : List Value} {answer : Answer}
    (rule : BuiltinAnswer callee arguments answer)
    (run : call depth (.builtin callee) arguments before = some (value, after)) :
    value = answer.value before.store ∧ after.store = answer.after before.store := by
  have counted : ((before.counted fun counters => { counters with
      builtinCalls := counters.builtinCalls + 1 }).traced (.builtinCalled callee.name)).store =
        before.store := by
    simp
  rw [← counted]
  exact Answer.eq_of_run rule.run run

theorem Placed.element {place : Nat} (placed : Placed first place whole) :
    ∃ serial elements, whole = .array serial elements ∧ elements[place]? = some first := by
  induction placed with
  | literal yields there made => exact ⟨_, _, (made.unique yields.array).1, there⟩
  | pushed made => exact ⟨_, _, (call_builtin .push made).1, List.getElem?_concat_length⟩
  | @kept _ place _ _ _ _ _ _ made ih =>
      obtain ⟨serial, elements, rfl, there⟩ := ih
      refine ⟨_, _, (call_builtin .push made).1, ?_⟩
      have inside := (List.getElem?_eq_some_iff.mp there).1
      rw [List.getElem?_append_left inside, there]
  | shifted _ made ih =>
      -- the array is not empty, as there is something at a later place
      obtain ⟨serial, elements, rfl, there⟩ := ih
      cases elements with
      | nil => cases there
      | cons head tail => exact ⟨_, tail, (call_builtin .rest made).1, there⟩

theorem Recorded.entry {slot : HashKey} (recorded : Recorded first slot whole) :
    ∃ serial entries own, whole = .hash serial entries ∧
      entries.lookup slot = some (own, first) := by
  obtain @⟨depth, pairs, scope, before, earlier, own, others, ready, _, _, yields, slots, keyed,
    last, made⟩ := recorded
  have literal : Yields (.hashLiteral pairs) scope before
      (.hash ready.nextSerial ((earlier ++ (own, first) :: others).foldl file [])) ready.bumped :=
    ⟨depth + 1, (bind_run_of (trace_run _ _)).trans (evalPairs_files yields slots [])⟩
  refine ⟨_, _, own, (made.unique literal).1, ?_⟩
  have found : (earlier ++ (own, first) :: others).reverse.find?
      (fun item => item.1.hashKey? = some slot) = some (own, first) :=
    find?_reverse_append (by simpa using keyed) (by simpa using last) earlier
  rw [lookup_foldl_file, found]
  rfl

theorem read_name {name : String} (found : before.scopes.lookup? scope name = some value)
    (yields : Yields (.identifier name) scope before read after) : read = value := by
  obtain ⟨depth, run⟩ := yields
  cases depth with
  | zero => cases run
  | succ depth =>
      have run : evalIdentifier name scope before = some (read, after) := run
      rw [evalIdentifier_found found] at run
      cases run
      rfl

theorem read_index {left index : Node} {key found : Value} {between middle : State}
    (rule : IndexAnswer whole key (.plain found)) (sound : whole.isError = false)
    (sound' : key.isError = false) (first : Yields left scope before whole between)
    (second : Yields index scope between key middle)
    (yields : Yields (.indexExpression left index) scope before read after) : read = found := by
  have expected : Yields (.indexExpression left index) scope before found middle := by
    apply yields_of_node
    refine (first.eventually.and second.eventually).mono ?_
    rintro depth ⟨run, run'⟩
    refine (operand_run run sound).trans ((operand_run run' sound').trans ?_)
    rw [rule.run]
    rfl
  exact (yields.unique expected).1

/-- A call answers with what its body yields, out of its wrapper. -/
theorem read_call {serial : Nat} {parameters : List String} {body : Node} {closure : ScopeId}
    {arguments : List Value} {last : State} (arity : arguments.length = parameters.length)
    (yields : Yields body before.scopes.next (before.called closure parameters arguments) value
      last)
    (run : call depth (.function serial parameters body closure) arguments before =
      some (read, after)) : read = value.unwrapped := by
  rw [call_of_arity_eq arity, Option.map_eq_some_iff] at run
  obtain ⟨⟨result, final⟩, ran, ends⟩ := run
  cases ends
  rw [(Yields.unique ⟨depth, ran⟩ yields).1]

theorem evalWithin_next_le {node : Node}
    (run : evalWithin depth node scope before = some (value, after)) :
    before.scopes.next ≤ after.scopes.next := by
  have stable : Stable fun state => before.scopes.next ≤ state.scopes.next :=
    { noted := fun _ _ _ le => by rwa [State.noted_scopes]
      alarmed := fun _ le => le
      counted := fun _ le => le
      bumped := fun le => le
      bound := fun _ _ _ le => by rwa [State.bound, Scopes.next_bind]
      entered := fun _ _ le => by
        rw [State.entered, Scopes.next_bindAll, Scopes.next_create]
        exact Nat.le_succ_of_le le }
  exact stable.evalWithin le_rfl run

theorem lookup?_let {name : String} {node : Node} {home : ScopeId} {middle bound : State}
    (present : home < before.scopes.next) (sound : value.isError = false)
    (yields : Yields node home (before.traced (.bindingStarted name)) value middle)
    (done : Yields (.letStatement name node) home before .null bound) :
    bound.scopes.lookup? home name = some value := by
  have expected : Yields (.letStatement name node) home before .null
      (middle.bound home name value) := by
    apply yields_of_node
    apply yields.eventually.mono
    intro depth run
    exact (bind_run_of (trace_run _ _)).trans ((operand_run run sound).trans rfl)
  obtain ⟨depth, run⟩ := yields
  have there : home < middle.scopes.next := by
    refine Nat.lt_of_lt_of_le ?_ (evalWithin_next_le run)
    rwa [State.traced, State.noted_scopes]
  rw [(done.unique expected).2]
  apply Scopes.lookup?_of_bound
  rw [State.bound, Scopes.bindings_bind, if_pos ⟨rfl, there⟩, Assoc.lookup_insert, if_pos rfl]

theorem lookup?_called {parameters : List String} {arguments : List Value} {name : String}
    {earlier others : List (String × Value)} {closure : ScopeId}
    (bindings : parameters.zip arguments = earlier ++ (name, value) :: others)
    (last : ∀ other ∈ others, other.1 ≠ name) :
    (before.called closure parameters arguments).scopes.lookup? before.scopes.next name =
      some value := by
  rw [State.called, State.traced, State.noted_scopes, bindings]
  apply Scopes.lookup?_of_bound
  apply Scopes.lookup_bindAll_last _ _ _ last
  rw [Scopes.next_create]
  exact Nat.lt_succ_self _

/-- What is read is the very object that was handed on. -/
theorem Handed.eq (reference : first.IsReference) (handed : Handed first read) : read = first := by
  have sound := reference.isError
  cases handed with
  | binding present yields done stands reads =>
      rw [lookup?_let present sound yields done] at stands
      exact read_name stands reads
  | argument bindings last stands reads =>
      rw [lookup?_called bindings last] at stands
      exact read_name stands reads
  | returned arity path yields run =>
      obtain ⟨count, returns⟩ := path.returns yields sound
      exact read_call arity returns.exists_depth run
  | ended arity yields run => exact (read_call arity yields run).trans reference.unwrapped
  | indexed placed left index reads =>
      obtain ⟨serial, elements, rfl, there⟩ := placed.element
      exact read_index (.element there) rfl rfl left index reads
  | head placed run =>
      obtain ⟨serial, elements, rfl, there⟩ := placed.element
      cases elements with
      | nil => cases there
      | cons value rest =>
          cases there
          exact (call_builtin .first run).1
  | final placed run =>
      obtain ⟨serial, elements, same, there⟩ := placed.element
      cases same
      rw [List.getElem?_concat_length] at there
      cases there
      exact (call_builtin .last run).1
  | @filed _ _ _ _ _ _ _ key _ _ recorded left index keyed reads =>
      obtain ⟨serial, entries, own, rfl, found⟩ := recorded.entry
      have sound' : key.isError = false := by
        cases key with
        | error => cases keyed
        | _ => rfl
      exact read_index (.filed keyed found) rfl sound' left index reads

end Reading

end Eval

end MonkeyLang
