import MonkeyLang.Proofs.Growth
import Mathlib.Data.Set.BooleanAlgebra
import Mathlib.Data.Set.Insert
import Mathlib.Order.CompletePartialOrder

/-!
What a run can reach. From the scope that a tree is evaluated in one comes to the scopes around
it, and from a function that is bound somewhere to the scope that the function was made in.
Nothing else that is in the store can make a difference: a run evaluates its tree and the bodies
of functions that it can reach, in scopes that it can reach or that it opened.
-/

namespace MonkeyLang

namespace Scopes

inductive Reaches (scopes : Scopes) (home : ScopeId) : ScopeId → Prop where
  | home : Reaches scopes home home
  | outer {scope outer : ScopeId} : Reaches scopes home scope →
      scopes.outer? scope = some outer → Reaches scopes home outer
  | closure {scope closure : ScopeId} {binding : String × Value} {serial : Nat}
      {parameters : List String} {body : Node} : Reaches scopes home scope →
      binding ∈ scopes.bindings scope →
      (Value.function serial parameters body closure).Within binding.2 →
      Reaches scopes home closure

/-- A value is bound, or contained in what is bound, in a scope that can be reached. -/
def Offers (scopes : Scopes) (home : ScopeId) (value : Value) : Prop :=
  ∃ scope, scopes.Reaches home scope ∧ ∃ binding ∈ scopes.bindings scope, value.Within binding.2

end Scopes

namespace Eval

/-- Which trees a run may evaluate, which of them as the body of a function, and how large the
largest block so far may be. -/
structure Terms where
  fine : Node → Prop
  callable : Node → Prop
  block : Nat → Prop

namespace Terms

variable (terms : Terms)

structure Lawful : Prop where
  operand {node} : terms.fine node → ∀ child ∈ node.operands, terms.fine child
  step {node} : terms.fine node → ∀ child ∈ node.steps, terms.fine child
  literal {parameters body} : terms.fine (.functionLiteral parameters body) → terms.callable body
  body {body} : terms.callable body → terms.fine body
  compared {statements size} : terms.fine (.blockStatement statements) → terms.block size →
    terms.block (max size statements.length)

/-- A function that may be called, and that runs in one of the scopes. -/
def Allows (scopes : Set ScopeId) : Value → Prop
  | .function _ _ body closure => closure ∈ scopes ∧ terms.callable body
  | _ => True

/-- No way leads out of the scopes, and what is bound in them is allowed. -/
structure Confines (scopes : Set ScopeId) (state : State) : Prop where
  outer : ∀ scope ∈ scopes, ∀ outer, state.scopes.outer? scope = some outer → outer ∈ scopes
  bindings : ∀ scope ∈ scopes, ∀ binding ∈ state.scopes.bindings scope,
    binding.2.Throughout (terms.Allows scopes)
  block : terms.block state.counters.largestBlock

/-- The world is the set of the scopes that the run has reached or opened. -/
def growth : Growth (Set ScopeId) where
  state := terms.Confines
  value scopes value := value.Throughout (terms.Allows scopes)
  node scopes node scope := scope ∈ scopes ∧ terms.fine node

variable {terms} {scopes : Set ScopeId} {state : State}

theorem allows_containers : Value.HoldsOfContainers (terms.Allows scopes) :=
  ⟨fun _ _ => trivial, fun _ _ => trivial⟩

theorem throughout_mono {later : Set ScopeId} (le : scopes ⊆ later) {value : Value}
    (allowed : value.Throughout (terms.Allows scopes)) :
    value.Throughout (terms.Allows later) := by
  intro part inside
  cases part with
  | function serial parameters body closure =>
      exact (allowed _ inside).imp (@le closure) id
  | _ => trivial

theorem Confines.of_same {other : State} (confines : terms.Confines scopes state)
    (same : other.scopes = state.scopes)
    (block : other.counters.largestBlock = state.counters.largestBlock) :
    terms.Confines scopes other where
  outer := same ▸ confines.outer
  bindings := same ▸ confines.bindings
  block := block ▸ confines.block

theorem Confines.chain (confines : terms.Confines scopes state) {scope : ScopeId}
    (inside : scope ∈ scopes) (bound : Nat) :
    ∀ member ∈ state.scopes.chainWithin bound scope, member ∈ scopes := by
  induction bound generalizing scope with
  | zero => simp [Scopes.chainWithin]
  | succ bound ih =>
      rw [Scopes.chainWithin]
      intro member among
      rcases List.mem_cons.mp among with rfl | further
      · exact inside
      · cases link : state.scopes.outer? scope with
        | none => simp [link] at further
        | some outer =>
            rw [link] at further
            exact ih (confines.outer scope inside outer link) member further

theorem Confines.lookup? (confines : terms.Confines scopes state) {scope : ScopeId}
    (inside : scope ∈ scopes) {name : String} {value : Value}
    (found : state.scopes.lookup? scope name = some value) :
    value.Throughout (terms.Allows scopes) := by
  obtain ⟨member, among, bound⟩ := List.exists_of_findSome?_eq_some found
  exact confines.bindings member (confines.chain inside _ member among) _
    (Assoc.mem_of_lookup bound)

theorem Confines.bound (confines : terms.Confines scopes state) {value : Value}
    (allowed : value.Throughout (terms.Allows scopes)) (scope : ScopeId) (name : String) :
    terms.Confines scopes (state.bound scope name value) where
  outer other inside outer link := by
    rw [State.bound, Scopes.outer?_bind] at link
    exact confines.outer other inside outer link
  bindings other inside binding member := by
    rcases Scopes.mem_bindings_bind _ member with rfl | old
    · exact allowed
    · exact confines.bindings other inside binding old
  block := confines.block

/-- The scope that a call opens is one of those that the run may use from then on. -/
theorem Confines.entered (confines : terms.Confines scopes state) {closure : ScopeId}
    (inside : closure ∈ scopes) {bindings : List (String × Value)}
    (allowed : ∀ binding ∈ bindings, binding.2.Throughout (terms.Allows scopes)) :
    terms.Confines (insert state.scopes.next scopes) (state.entered closure bindings) where
  outer scope member outer link := by
    rw [State.entered, Scopes.outer?_bindAll, Scopes.outer?_create] at link
    split at link
    · cases link
      exact .inr inside
    · next old =>
      exact .inr (confines.outer scope (member.resolve_left old) outer link)
  bindings scope member binding bound := by
    apply throughout_mono (Set.subset_insert _ scopes)
    rcases Scopes.mem_bindings_bindAll _ bound with made | before
    · exact allowed binding made
    · rw [Scopes.bindings_create] at before
      rcases member with rfl | old
      · rw [state.scopes.bindings_of_next_le le_rfl] at before
        cases before
      · exact confines.bindings scope old binding before
  block := confines.block

theorem Lawful.growth (law : terms.Lawful) : terms.growth.Lawful where
  grows le allowed := throughout_mono le allowed
  node_grows le allowed := allowed.imp (@le _) id
  noted _ _ _ held := held.of_same (State.noted_scopes ..) (by rw [State.noted_counters])
  alarmed _ held := held.of_same rfl rfl
  counted _ same held := held.of_same rfl (same _)
  compared allowed held :=
    { outer := held.outer, bindings := held.bindings, block := law.compared allowed.2 held.block }
  fails _ held := ⟨_, le_rfl, held.of_same (State.failed_scopes ..) (by rw [State.failed_counters]),
    .of_atom trivial trivial⟩
  null := .of_atom trivial trivial
  boolean _ := .of_atom trivial trivial
  builtin _ := .of_atom trivial trivial
  built held built := by
    refine ⟨_, le_rfl, held.of_same rfl rfl, ?_⟩
    cases built with
    | integer | string => exact .of_atom trivial trivial
    | array elements => exact allows_containers.array_iff.mpr elements
    | hash _ entries => exact allows_containers.hash_iff.mpr entries
    | returned inner => exact Value.throughout_returned.mpr ⟨trivial, inner⟩
  literal allowed held := ⟨_, le_rfl, held.of_same rfl rfl,
    .of_atom ⟨allowed.1, law.literal allowed.2⟩ trivial⟩
  child allowed _ member := allowed.child member
  operand allowed child member := ⟨allowed.1, law.operand allowed.2 child member⟩
  step allowed child member := ⟨allowed.1, law.step allowed.2 child member⟩
  found allowed held bound := held.lookup? allowed.1 bound
  bound _ allowed held := held.bound allowed _ _
  entered known allowed held := by
    obtain ⟨inside, callable⟩ := known.whole
    refine ⟨_, Set.subset_insert _ _, held.entered inside fun binding member => ?_,
      Set.mem_insert _ _, law.body callable⟩
    exact allowed _ (List.of_mem_zip member).2

/-- A run is confined to what can be reached when it starts. -/
theorem confines_reached {home : ScopeId} (block : terms.block state.counters.largestBlock)
    (callable : ∀ serial parameters body closure,
      state.scopes.Offers home (.function serial parameters body closure) → terms.callable body) :
    terms.Confines {scope | state.scopes.Reaches home scope} state where
  outer _ reached _ link := reached.outer link
  bindings scope reached binding member part inside := by
    cases part with
    | function serial parameters body closure =>
        exact ⟨reached.closure member inside,
          callable serial parameters body closure ⟨scope, reached, binding, member, inside⟩⟩
    | _ => trivial
  block := block

theorem Confines.reaches (confines : terms.Confines scopes state) {home scope : ScopeId}
    (inside : home ∈ scopes) (reached : state.scopes.Reaches home scope) : scope ∈ scopes := by
  induction reached with
  | home => exact inside
  | outer _ link ih => exact confines.outer _ ih _ link
  | closure _ member within ih => exact (confines.bindings _ ih _ member _ within).1

theorem Confines.offers (confines : terms.Confines scopes state) {home : ScopeId} {value : Value}
    (inside : home ∈ scopes) (offered : state.scopes.Offers home value) :
    terms.Allows scopes value := by
  obtain ⟨scope, reached, binding, member, within⟩ := offered
  exact confines.bindings scope (confines.reaches inside reached) binding member value within

end Terms

end Eval

end MonkeyLang
