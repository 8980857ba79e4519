import MonkeyLang.Proofs.Invariant
import MonkeyLang.Proofs.Scoping

/-!
What evaluation may write to. A node evaluated in a scope binds names in that scope, by
its own `let` statements only, and in scopes that did not exist before. Every other
scope keeps its bindings, and every scope its link, however many closures were called.
A call binds nothing at all in the scopes that were there.
-/

namespace MonkeyLang

/-- `scopes` has come from `base` by creating scopes and by binding some of the `names`
in the scope `home`, if there is one. -/
structure Scopes.Writes (base : Scopes) (home : Option ScopeId) (names : String → Prop)
    (scopes : Scopes) : Prop where
  grown : base.next ≤ scopes.next
  link : ∀ scope < base.next, scopes.outer? scope = base.outer? scope
  other : ∀ scope < base.next, home ≠ some scope → scopes.bindings scope = base.bindings scope
  added : ∀ scope, home = some scope →
    ∃ new, scopes.names scope = base.names scope ++ new ∧ ∀ name ∈ new, names name
  kept : ∀ scope, home = some scope → ∀ name, ¬ names name →
    (scopes.bindings scope).lookup name = (base.bindings scope).lookup name

namespace Scopes.Writes

variable {base scopes : Scopes} {home : Option ScopeId} {names : String → Prop}

theorem refl (base : Scopes) (home : Option ScopeId) (names : String → Prop) :
    base.Writes home names base where
  grown := Nat.le_refl _
  link _ _ := rfl
  other _ _ _ := rfl
  added _ _ := ⟨[], by simp, by simp⟩
  kept _ _ _ _ := rfl

/-- A binding that is allowed in the home scope. -/
theorem bind_home {scope : ScopeId} (writes : base.Writes (some scope) names scopes)
    {name : String} (allowed : names name) (value : Value) :
    base.Writes (some scope) names (scopes.bind scope name value) where
  grown := by simpa using writes.grown
  link other old := by simpa using writes.link other old
  other other old apart := by
    have away : ¬ (other = scope ∧ scope < scopes.next) := fun here => apart (by rw [here.1])
    rw [bindings_bind, if_neg away]
    exact writes.other other old apart
  added here same := by
    cases same
    obtain ⟨new, extends_base, named⟩ := writes.added scope rfl
    by_cases present : scope < scopes.next
    · rw [Scopes.names, bindings_bind, if_pos ⟨rfl, present⟩, Assoc.keys_insert]
      -- a name that is there keeps its place, and another goes to the end
      split
      · exact ⟨new, extends_base, named⟩
      · refine ⟨new ++ [name], ?_, ?_⟩
        · rw [← List.append_assoc, ← extends_base]
          rfl
        · intro found member
          rcases List.mem_append.mp member with before | last
          · exact named found before
          · exact List.mem_singleton.mp last ▸ allowed
    · rw [Scopes.names, bindings_bind, if_neg (fun here => present here.2)]
      exact ⟨new, extends_base, named⟩
  kept here same other absent := by
    cases same
    rw [bindings_bind]
    split
    · rw [Assoc.lookup_insert, if_neg (by rintro rfl; exact absent allowed)]
      exact writes.kept scope rfl other absent
    · exact writes.kept scope rfl other absent

/-- Any change of the bindings in one scope that did not exist before. -/
theorem change_new {after : Scopes} {scope : ScopeId} (writes : base.Writes home names scopes)
    (inside : ∀ here, home = some here → here < base.next) (new : base.next ≤ scope)
    (grown : scopes.next ≤ after.next)
    (link : ∀ other < base.next, after.outer? other = scopes.outer? other)
    (bindings : ∀ other, other ≠ scope → after.bindings other = scopes.bindings other) :
    base.Writes home names after where
  grown := Nat.le_trans writes.grown grown
  link other old := (link other old).trans (writes.link other old)
  other other old apart := by
    rw [bindings other (Nat.ne_of_lt (Nat.lt_of_lt_of_le old new))]
    exact writes.other other old apart
  added here same := by
    rw [Scopes.names, bindings here (Nat.ne_of_lt (Nat.lt_of_lt_of_le (inside here same) new))]
    exact writes.added here same
  kept here same := by
    rw [bindings here (Nat.ne_of_lt (Nat.lt_of_lt_of_le (inside here same) new))]
    exact writes.kept here same

theorem bind_new {scope : ScopeId} (writes : base.Writes home names scopes)
    (inside : ∀ here, home = some here → here < base.next) (new : base.next ≤ scope)
    (name : String) (value : Value) :
    base.Writes home names (scopes.bind scope name value) := by
  apply writes.change_new inside new (by simp) (by simp)
  intro other apart
  rw [bindings_bind, if_neg (fun here => apart here.1)]

theorem enter (writes : base.Writes home names scopes)
    (inside : ∀ here, home = some here → here < base.next) (outer : Option ScopeId)
    (bindings : List (String × Value)) :
    base.Writes home names ((scopes.create outer).bindAll scopes.next bindings) := by
  apply writes.change_new inside writes.grown (by simp)
  · intro other old
    have before : other ≠ scopes.next := Nat.ne_of_lt (Nat.lt_of_lt_of_le old writes.grown)
    rw [outer?_bindAll, outer?_create, if_neg before]
  · intro other apart
    rw [bindings_bindAll_of_ne _ apart, bindings_create]

end Scopes.Writes

namespace Eval.Frame

/-- Nodes evaluated in the home scope bind the allowed names only; all others bind none or are
evaluated in new scopes. -/
def invariant (base : Scopes) (home : Option ScopeId) (names : String → Prop) : Invariant where
  state state := base.Writes home names state.scopes
  value _ := True
  failed _ state := base.Writes home names state.scopes
  node _ node scope :=
    home = some scope ∧ (∀ name, node.Binds name → names name) ∨
      (∀ name, ¬ node.Binds name) ∨ base.next ≤ scope

variable {base : Scopes} {home : Option ScopeId} {names : String → Prop}

theorem settles {state : State} (writes : base.Writes home names state.scopes) (value : Value) :
    (invariant base home names).Settles state value := by
  cases value with
  | error serial fault => exact writes
  | _ => trivial

theorem lawful (inside : ∀ here, home = some here → here < base.next) :
    (invariant base home names).Lawful where
  traced _ writes := by simpa [invariant, State.traced] using writes
  counted _ writes := writes
  bumped writes := writes
  fails _ writes := by simpa [invariant] using writes
  failed_stepped writes := writes
  failed_traced _ writes := by simpa [invariant, State.traced] using writes
  raised _ writes := by simpa [invariant, State.alarmed] using writes
  unknown _ writes := by simpa [invariant] using writes
  null := trivial
  boolean _ := trivial
  string _ _ := trivial
  wrapped _ _ := trivial
  measured _ _ _ := trivial
  array _ _ := trivial
  hash _ _ _ := trivial
  element _ writes value _ := settles writes value
  tail _ _ := trivial
  pushed _ _ _ _ := trivial
  entry _ writes entry _ := settles writes entry.2.2
  inner _ writes := settles writes _
  operand allowed child member := by
    rcases allowed with ⟨here, binds⟩ | quiet | new
    · exact .inl ⟨here, fun name bound => binds name (.operand member bound)⟩
    · exact .inr (.inl fun name bound => quiet name (.operand member bound))
    · exact .inr (.inr new)
  step allowed child member := by
    rcases allowed with ⟨here, binds⟩ | quiet | new
    · exact .inl ⟨here, fun name bound => binds name (.step member bound)⟩
    · exact .inr (.inl fun name bound => quiet name (.step member bound))
    · exact .inr (.inr new)
  found _ writes _ := settles writes _
  builtin _ _ := trivial
  integer _ _ := trivial
  function _ _ := trivial
  returned _ _ _ _ := .inr trivial
  bound allowed _ _ writes := by
    rcases allowed with ⟨here, binds⟩ | quiet | new
    · subst here
      exact writes.bind_home (binds _ .here) _
    · exact absurd .here (quiet _)
    · exact writes.bind_new inside new _ _
  entered _ _ _ writes := ⟨writes.enter inside _ _, .inr (.inr writes.grown)⟩

end Eval.Frame

namespace Eval

theorem evalWithin_writes {depth : Nat} {node : Node} {home : ScopeId} {before after : State}
    {value : Value} (present : home < before.scopes.next)
    (run : evalWithin depth node home before = some (value, after)) :
    before.scopes.Writes (some home) node.Binds after.scopes := by
  have inside : ∀ here, some home = some here → here < before.scopes.next := by
    intro here same
    cases same
    exact present
  have allowed : (Frame.invariant before.scopes (some home) node.Binds).node false node home :=
    .inl ⟨rfl, fun _ bound => bound⟩
  have held : (Frame.invariant before.scopes (some home) node.Binds).state before := .refl ..
  rcases (Frame.lawful inside).finished allowed held run with ⟨_, _, -, writes⟩ | ⟨-, writes, -⟩
  · exact writes
  · exact writes

/-- Without `let` statements of its own a node writes to new scopes only, wherever it stands. -/
theorem evalWithin_writes_nothing {depth : Nat} {node : Node} {home : ScopeId}
    {before after : State} {value : Value} (quiet : ∀ name, ¬ node.Binds name)
    (run : evalWithin depth node home before = some (value, after)) :
    before.scopes.Writes none (fun _ => False) after.scopes := by
  have inside : ∀ here, none = some here → here < before.scopes.next := by rintro here ⟨⟩
  have allowed : (Frame.invariant before.scopes none fun _ => False).node false node home :=
    .inr (.inl quiet)
  have held : (Frame.invariant before.scopes none fun _ => False).state before := .refl ..
  rcases (Frame.lawful inside).finished allowed held run with ⟨_, _, -, writes⟩ | ⟨-, writes, -⟩
  · exact writes
  · exact writes

/-- The scopes are afterwards what they were before. -/
def LeavesScopes (computation : Eval Value) : Prop :=
  ∀ before value after, computation before = some (value, after) → after.scopes = before.scopes

namespace LeavesScopes

theorem pure (value : Value) : LeavesScopes (Pure.pure value) := by
  rintro before _ _ ⟨⟩
  rfl

theorem make (build : Nat → Value) : LeavesScopes (Eval.make build) := by
  rintro before _ _ ⟨⟩
  rfl

theorem fail (fault : Fault) : LeavesScopes (Eval.fail fault) := by
  intro before value after run
  rw [fail_run] at run
  cases run
  exact State.failed_scopes ..

theorem length (argument : Value) : LeavesScopes (lengthOf argument) := by
  cases argument with
  | string serial text => exact make fun serial => .integer serial _
  | array serial elements => exact make fun serial => .integer serial _
  | _ => exact fail _

theorem elements (callee : Builtin) (argument : Value) {next : List Value → Eval Value}
    (leaves : ∀ elements, LeavesScopes (next elements)) :
    LeavesScopes (withElements callee argument next) := by
  cases argument with
  | array serial elements => exact leaves elements
  | _ => exact fail _

theorem builtin (callee : Builtin) (arguments : List Value) :
    LeavesScopes (applyBuiltin callee arguments) := by
  unfold applyBuiltin
  split
  · exact length _
  · exact elements _ _ fun _ => pure _
  · exact elements _ _ fun _ => pure _
  · apply elements
    rintro (_ | ⟨_, others⟩)
    · exact pure _
    · exact make _
  · exact elements _ _ fun _ => make _
  · exact fail _
  · exact fail _

end LeavesScopes

/-- A call leaves the scopes that were there as they were, whatever is called. -/
theorem call_writes {depth : Nat} {callee : Value} {arguments : List Value} {before after : State}
    {value : Value} (run : call depth callee arguments before = some (value, after)) :
    before.scopes.Writes none (fun _ => False) after.scopes := by
  have unchanged (same : after.scopes = before.scopes) :
      before.scopes.Writes none (fun _ => False) after.scopes := by
    rw [same]
    exact .refl ..
  cases callee with
  | function serial parameters body closure =>
      by_cases arity : arguments.length = parameters.length
      · rw [call_of_arity_eq arity, Option.map_eq_some_iff] at run
        rcases run with ⟨⟨result, last⟩, body_run, finish⟩
        cases finish
        -- the call opens a scope of its own, and the body writes to that one and to later ones
        have inside : ∀ here, none = some here → here < before.scopes.next := by rintro here ⟨⟩
        have allowed : (Frame.invariant before.scopes none fun _ => False).node false body
            before.scopes.next := .inr (.inr (Nat.le_refl _))
        have held : (Frame.invariant before.scopes none fun _ => False).state
            (before.called closure parameters arguments) := by
          simp only [Frame.invariant, State.called, State.traced, State.noted_scopes]
          exact Scopes.Writes.enter (.refl _ _ _) inside _ _
        rcases (Frame.lawful inside).finished allowed held body_run with
          ⟨_, _, -, writes⟩ | ⟨-, writes, -⟩
        · exact writes
        · exact writes
      · rw [call_of_arity_ne arity] at run
        exact unchanged ((LeavesScopes.fail _ _ _ _ run).trans rfl)
  | builtin builtin =>
      exact unchanged ((LeavesScopes.builtin _ _ _ _ _ run).trans (State.noted_scopes ..))
  | failing serial name detail =>
      exact unchanged ((LeavesScopes.fail _ _ _ _ run).trans (State.noted_scopes ..))
  | _ => exact unchanged (LeavesScopes.fail _ _ _ _ run)

/-- A call of a function leaves the scopes that were there as they were. -/
theorem call_frame {depth serial : Nat} {parameters : List String} {body : Node}
    {closure scope : ScopeId} {arguments : List Value} {before after : State} {value : Value}
    (run : call depth (.function serial parameters body closure) arguments before =
      some (value, after)) (old : scope < before.scopes.next) :
    after.scopes.bindings scope = before.scopes.bindings scope ∧
      after.scopes.outer? scope = before.scopes.outer? scope :=
  ⟨(call_writes run).other scope old (by simp), (call_writes run).link scope old⟩

/-- Evaluating a node in a scope that is there changes no other scope, and in that one it
appends or rebinds names of its own `let` statements; a call of a function changes none. -/
theorem evaluation_frame {depth : Nat} {before : State} :
    (∀ node home value after, home < before.scopes.next →
      evalWithin depth node home before = some (value, after) →
        (∀ scope < before.scopes.next,
          after.scopes.outer? scope = before.scopes.outer? scope ∧
            (scope ≠ home → after.scopes.bindings scope = before.scopes.bindings scope)) ∧
        (∃ new, after.scopes.names home = before.scopes.names home ++ new ∧
          ∀ name ∈ new, node.Binds name) ∧
        ∀ name, (after.scopes.bindings home).lookup name ≠
          (before.scopes.bindings home).lookup name → node.Binds name) ∧
    ∀ serial parameters body closure arguments value after,
      call depth (.function serial parameters body closure) arguments before =
        some (value, after) →
        ∀ scope < before.scopes.next,
          after.scopes.bindings scope = before.scopes.bindings scope ∧
            after.scopes.outer? scope = before.scopes.outer? scope := by
  constructor
  · intro node home value after present run
    have writes := evalWithin_writes present run
    refine ⟨?_, writes.added home rfl, ?_⟩
    · intro scope old
      have other : scope ≠ home → some home ≠ some scope := by
        rintro apart same
        exact apart (Option.some.inj same).symm
      exact ⟨writes.link scope old, fun apart => writes.other scope old (other apart)⟩
    · intro name changed
      by_contra absent
      exact changed (writes.kept home rfl name absent)
  · intro serial parameters body closure arguments value after run scope old
    exact call_frame run old

/-- `let y = (fn(x) { let y = x; x })(2);` -/
def shadowingCall : Node :=
  .letStatement "y" (.callExpression
    (.functionLiteral ["x"] (.blockStatement
      [.letStatement "y" (.identifier "x"), .expressionStatement (.identifier "x")]))
    [.integerLiteral 2])

/-- The body of the function binds `x` and `y` in a scope of its own, and so does a call of
a function that has the statement as its body. -/
theorem evaluation_frame_shadowingCall :
    ∃ value after result last,
      evalWithin 6 shadowingCall 0 State.initial = some (value, after) ∧
        call 7 (.function 0 ["y"] (.blockStatement [shadowingCall]) 0) [.null] State.initial =
          some (result, last) ∧
        after.scopes.outer? 0 = State.initial.scopes.outer? 0 ∧
        (∀ name, (after.scopes.bindings 0).lookup name ≠
          (State.initial.scopes.bindings 0).lookup name → shadowingCall.Binds name) ∧
        last.scopes.bindings 0 = State.initial.scopes.bindings 0 := by
  have run : ∃ value after, evalWithin 6 shadowingCall 0 State.initial = some (value, after) :=
    ⟨_, _, rfl⟩
  have called : ∃ result last,
      call 7 (.function 0 ["y"] (.blockStatement [shadowingCall]) 0) [.null] State.initial =
        some (result, last) := ⟨_, _, rfl⟩
  rcases run with ⟨value, after, run⟩
  rcases called with ⟨result, last, called⟩
  have inside : 0 < State.initial.scopes.next := by decide
  obtain ⟨kept, -, changed⟩ := evaluation_frame.1 shadowingCall 0 value after inside run
  have unchanged := evaluation_frame.2 _ _ _ _ _ result last called 0 inside
  exact ⟨value, after, result, last, run, called, (kept 0 inside).1, changed, unchanged.1⟩

end Eval

end MonkeyLang
