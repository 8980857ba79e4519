import MonkeyLang.Proofs.Frame
import MonkeyLang.Proofs.Soundness

/-!
Total correctness with accounts. Of a state only the scopes, the calls and the errors are kept in
its ledger; what a node does depends on no more than the scopes. A node attains a postcondition if
from every state with a given ledger it ends, and the value and the ledger at the end satisfy the
postcondition. There is one rule for each way to build a computation; where a rule asks for a part
to attain something, it asks for what comes next to attain the rest.
-/

namespace MonkeyLang

namespace Scopes

/-- Scopes were opened, and those that were there are as they were. -/
def Extends (base scopes : Scopes) : Prop :=
  base.Writes none (fun _ => False) scopes

namespace Extends

variable {base middle scopes : Scopes}

theorem bindings (grown : base.Extends scopes) {scope : ScopeId} (present : scope < base.next) :
    scopes.bindings scope = base.bindings scope :=
  grown.other scope present nofun

theorem trans (first : base.Extends middle) (second : middle.Extends scopes) :
    base.Extends scopes where
  grown := Nat.le_trans first.grown second.grown
  link scope present := by
    rw [second.link scope (Nat.lt_of_lt_of_le present first.grown), first.link scope present]
  other scope present _ := by
    rw [second.bindings (Nat.lt_of_lt_of_le present first.grown), first.bindings present]
  added _ := nofun
  kept _ := nofun

theorem entered (scopes : Scopes) (outer : Option ScopeId) (bindings : List (String × Value)) :
    scopes.Extends ((scopes.create outer).bindAll scopes.next bindings) :=
  (Writes.refl scopes none _).enter nofun outer bindings

end Extends

end Scopes

structure Ledger where
  scopes : Scopes
  functionCalls : Nat
  builtinCalls : Nat
  errors : Nat

def State.ledger (state : State) : Ledger :=
  ⟨state.scopes, state.counters.functionCalls, state.counters.builtinCalls, state.counters.errors⟩

namespace Ledger

def bound (ledger : Ledger) (scope : ScopeId) (name : String) (value : Value) : Ledger :=
  { ledger with scopes := ledger.scopes.bind scope name value }

/-- A function was called, and its parameters were bound in a scope of their own. -/
def called (ledger : Ledger) (closure : ScopeId) (bindings : List (String × Value)) : Ledger :=
  { ledger with
    scopes := (ledger.scopes.create (some closure)).bindAll ledger.scopes.next bindings
    functionCalls := ledger.functionCalls + 1 }

def builtinCalled (ledger : Ledger) : Ledger :=
  { ledger with builtinCalls := ledger.builtinCalls + 1 }

end Ledger

namespace State

variable (state : State)

@[simp] theorem traced_ledger (event : Event) : (state.traced event).ledger = state.ledger := by
  simp [ledger, traced]

@[simp] theorem announced_ledger (node : Node) : (state.announced node).ledger = state.ledger := by
  cases node <;> simp [announced]

theorem called_ledger (closure : ScopeId) (parameters : List String) (arguments : List Value) :
    (state.called closure parameters arguments).ledger =
      state.ledger.called closure (parameters.zip arguments) := by
  rw [called, traced_ledger]
  rfl

end State

namespace Eval

/-- A computation that may go to any depth ends at some, and as it should. -/
def Attains {α : Type} (run : Nat → Eval α) (start : Ledger) (post : α → Ledger → Prop) : Prop :=
  ∀ before : State, before.ledger = start → ∃ value after,
    (Finally fun depth => run depth before = some (value, after)) ∧ post value after.ledger

/-- A node in a scope, evaluated from a ledger on. -/
def Computes (node : Node) (home : ScopeId) (start : Ledger) (post : Value → Ledger → Prop) :
    Prop :=
  Attains (fun depth => evalWithin depth node home) start post

/-- Operands that are evaluated in turn, none of them to an error. -/
def ComputesAll (home : ScopeId) : List Node → Ledger → (List Value → Ledger → Prop) → Prop
  | [], start, post => post [] start
  | node :: rest, start, post => Computes node home start fun value middle =>
      value.isError = false ∧ ComputesAll home rest middle fun values => post (value :: values)

/-- Statements that are evaluated in turn; a returned value or an error is the last. -/
def ComputesEach (home : ScopeId) :
    Value → List Node → Ledger → (Value → Ledger → Prop) → Prop
  | result, [], start, post => post result start
  | _, node :: rest, start, post => Computes node home start fun value middle =>
      match value.isInterrupt with
      | true => post value middle
      | false => ComputesEach home value rest middle post

section Rules
variable {α β : Type} {start : Ledger}

theorem Attains.mono {run : Nat → Eval α} {post better : α → Ledger → Prop}
    (attains : Attains run start post)
    (improves : ∀ value last, post value last → better value last) :
    Attains run start better := by
  intro before same
  obtain ⟨value, after, runs, holds⟩ := attains before same
  exact ⟨value, after, runs, improves _ _ holds⟩

theorem Attains.of_run {computation : Eval α} {post : α → Ledger → Prop}
    (ran : ∀ before, before.ledger = start → ∃ value after,
      computation before = some (value, after) ∧ post value after.ledger) :
    Attains (fun _ => computation) start post := by
  intro before same
  obtain ⟨value, after, run, holds⟩ := ran before same
  exact ⟨value, after, .of_all fun _ => run, holds⟩

theorem Attains.plain {value : α} {post : α → Ledger → Prop} (holds : post value start) :
    Attains (fun _ => pure value) start post :=
  .of_run fun before same => ⟨value, before, rfl, same ▸ holds⟩

theorem Attains.make {build : Nat → Value} {post : Value → Ledger → Prop}
    (holds : ∀ serial, post (build serial) start) :
    Attains (fun _ => Eval.make build) start post :=
  .of_run fun before same => ⟨_, before.bumped, rfl, same ▸ holds _⟩

/-- An operation that makes a new object. -/
theorem Attains.fresh {computation : Eval Value} {build : Nat → Value}
    {post : Value → Ledger → Prop} (answers : computation = (Semantics.Answer.fresh build).run)
    (holds : ∀ serial, post (build serial) start) : Attains (fun _ => computation) start post :=
  answers ▸ .make holds

/-- A computation that goes on from another state with the same ledger. -/
theorem Attains.passing {run next : Nat → Eval α} {post : α → Ledger → Prop} {later : Ledger}
    (attains : Attains next later post)
    (passes : ∀ before, before.ledger = start → ∃ middle, middle.ledger = later ∧
      ∀ depth, run depth before = next depth middle) : Attains run start post := by
  intro before same
  obtain ⟨middle, same', runs⟩ := passes before same
  obtain ⟨value, after, finished, holds⟩ := attains middle same'
  exact ⟨value, after, finished.mono fun depth run => (runs depth).trans run, holds⟩

end Rules

section Nodes
variable {home : ScopeId} {start : Ledger} {post : Value → Ledger → Prop}

theorem Computes.of_node {node : Node}
    (attains : Attains (fun depth => evalNode (evalWithin depth) node home) start post) :
    Computes node home start post := by
  intro before same
  obtain ⟨value, after, runs, holds⟩ := attains before same
  exact ⟨value, after, .of_succ runs, holds⟩

/-- The log has no part in it, and so neither has its level. -/
theorem Computes.evaluate {node : Node} {before : State}
    (computes : Computes node home before.ledger post) (verbose : Bool) : ∃ value after,
      (Finally fun depth => evaluate depth node home verbose before = some (value, after)) ∧
      post value after.ledger := by
  let opened := if verbose then { before with level := .debug } else before
  have same : opened.ledger = before.ledger := by cases verbose <;> rfl
  obtain ⟨value, after, runs, holds⟩ := computes opened same
  refine ⟨value, { after with level := before.level }, runs.mono fun depth run => ?_, holds⟩
  exact (evaluate_run ..).trans (congrArg (Option.map _) run)

theorem Computes.integer {number : Int} (holds : ∀ serial, post (.integer serial number) start) :
    Computes (.integerLiteral number) home start post :=
  .of_node (.make holds)

theorem Computes.function {parameters : List String} {body : Node}
    (holds : ∀ serial, post (.function serial parameters body home) start) :
    Computes (.functionLiteral parameters body) home start post :=
  .of_node (.make holds)

theorem Computes.found {name : String} {value : Value}
    (found : start.scopes.lookup? home name = some value) (holds : post value start) :
    Computes (.identifier name) home start post := by
  refine .of_node (.of_run fun before same => ?_)
  subst same
  exact ⟨value, _, Semantics.evalIdentifier_found found, (before.traced_ledger _).symm ▸ holds⟩

theorem Computes.builtin {callee : Builtin}
    (absent : start.scopes.lookup? home callee.name = none) (holds : post (.builtin callee) start) :
    Computes (.identifier callee.name) home start post := by
  refine .of_node (.of_run fun before same => ?_)
  subst same
  refine ⟨_, _, Semantics.evalIdentifier_builtin absent, ?_⟩
  rw [State.traced_ledger, State.traced_ledger]
  exact holds

theorem Computes.expression {expression : Node} (computes : Computes expression home start post) :
    Computes (.expressionStatement expression) home start post :=
  .of_node computes

/-- Operands, and what is done with their values. -/
theorem Attains.operands {nodes : List Node} {next : Nat → List Value → Eval Value}
    (all : ComputesAll home nodes start fun values last =>
      Attains (fun depth => next depth values) last post) :
    Attains (fun depth => Eval.operands (fun child => evalWithin depth child home) nodes
      (next depth)) start post := by
  -- what is done with all the values is, after the first one, what is done with the others
  induction nodes generalizing start next with
  | nil => exact all
  | cons node rest ih =>
      intro before same
      obtain ⟨value, middle, runs, sound, later⟩ := all before same
      obtain ⟨result, after, runs', holds⟩ := ih later middle rfl
      refine ⟨result, after, (runs.and runs').mono ?_, holds⟩
      rintro depth ⟨run, run'⟩
      exact (operand_run run sound).trans run'

theorem ComputesAll.nil {post : List Value → Ledger → Prop} (holds : post [] start) :
    ComputesAll home [] start post :=
  holds

theorem ComputesAll.cons {node : Node} {rest : List Node} {post : List Value → Ledger → Prop}
    (first : Computes node home start fun value middle =>
      value.isError = false ∧ ComputesAll home rest middle fun values => post (value :: values)) :
    ComputesAll home (node :: rest) start post :=
  first

theorem ComputesAll.mono {nodes : List Node} {post better : List Value → Ledger → Prop}
    (all : ComputesAll home nodes start post)
    (improves : ∀ values last, post values last → better values last) :
    ComputesAll home nodes start better := by
  induction nodes generalizing start post better with
  | nil => exact improves _ _ all
  | cons node rest ih =>
      have first : Computes node home start _ := all
      refine .cons (Attains.mono first fun value middle ⟨sound, later⟩ => ⟨sound, ?_⟩)
      exact ih later fun values => improves (value :: values)

theorem Computes.strict {node : Node} (strict : node.isStrict = true)
    (all : ComputesAll home node.operands start fun values last =>
      Attains (fun depth => proceed (evalWithin depth) home node values) last post) :
    Computes node home start post := by
  refine .of_node ((Attains.operands all).passing fun before same => ?_)
  exact ⟨before.announced node, (before.announced_ledger node).trans same,
    fun depth => evalNode_strict _ strict home before⟩

/-- A block ends with its last statement, or before with a returned value or an error. -/
theorem Attains.runBlock {statements : List Node} {result : Value}
    (each : ComputesEach home result statements start post) :
    Attains (fun depth => Eval.runBlock (fun child => evalWithin depth child home) result
      statements) start post := by
  -- the counter of statements is not in the ledger: the next one starts where this one ended
  induction statements generalizing start result with
  | nil => exact .plain each
  | cons statement rest ih =>
      intro before same
      obtain ⟨value, middle, runs, later⟩ := each before same
      cases interrupt : value.isInterrupt with
      | true =>
          rw [interrupt] at later
          refine ⟨value, _, runs.mono fun depth run => runBlock_interrupt run interrupt, ?_⟩
          rw [State.traced_ledger]
          exact later
      | false =>
          rw [interrupt] at later
          obtain ⟨last, after, runs', holds⟩ := ih later middle.stepped rfl
          refine ⟨last, after, (runs.and runs').mono ?_, holds⟩
          rintro depth ⟨run, run'⟩
          exact (runBlock_calm run interrupt).trans run'

theorem Computes.block {statements : List Node}
    (each : ComputesEach home .null statements start post) :
    Computes (.blockStatement statements) home start post := by
  refine .of_node ((Attains.runBlock each).passing fun before same => ?_)
  refine ⟨before.opened statements.length, (before.traced_ledger _).trans same, fun depth => ?_⟩
  exact (bind_run_of (trace_run _ _)).trans (bind_run_of (count_run _ _))

/-- Whatever it is, the value of the last statement is that of all of them. -/
theorem ComputesEach.last {node : Node} {result : Value}
    (computes : Computes node home start post) : ComputesEach home result [node] start post := by
  show Computes node home start _
  refine Attains.mono computes fun value middle holds => ?_
  cases value.isInterrupt with
  | true => exact holds
  | false => exact holds

/-- A program takes the wrapper off the value that ends it. -/
theorem settle_ledger {value : Value} (interrupt : value.isInterrupt = true) (before : State) :
    ∃ after, after.ledger = before.ledger ∧ ∀ sub position rest,
      settle sub position rest value before = some (value.unwrapped, after) := by
  cases value with
  | returned serial inner =>
      exact ⟨_, before.traced_ledger _, fun _ _ _ => bind_run_of (trace_run _ _)⟩
  | error serial fault =>
      exact ⟨_, before.traced_ledger _, fun _ _ _ => bind_run_of (trace_run _ _)⟩
  | _ => cases interrupt

theorem Attains.runProgram {statements : List Node} (position : Nat) {result : Value}
    (calm : result.isInterrupt = false)
    (each : ComputesEach home result statements start fun value => post value.unwrapped) :
    Attains (fun depth => Eval.runProgram (fun child => evalWithin depth child home) position
      result statements) start post := by
  induction statements generalizing start position result with
  | nil =>
      refine .of_run fun before same => ⟨result, before.traced (.programFinished result), rfl, ?_⟩
      rw [State.traced_ledger, same, ← Value.unwrapped_of_calm calm]
      exact each
  | cons statement rest ih =>
      intro before same
      obtain ⟨value, middle, runs, later⟩ :=
        each (before.traced (.statementReached position statement.kind))
          ((before.traced_ledger _).trans same)
      cases interrupt : value.isInterrupt with
      | true =>
          rw [interrupt] at later
          obtain ⟨after, kept, settles⟩ := settle_ledger interrupt middle.stepped
          refine ⟨_, after, runs.mono fun depth run => ?_, kept ▸ later⟩
          exact (runProgram_settle run).trans (settles _ position _)
      | false =>
          rw [interrupt] at later
          obtain ⟨last, after, runs', holds⟩ := ih (position + 1) interrupt later middle.stepped rfl
          refine ⟨last, after, (runs.and runs').mono ?_, holds⟩
          rintro depth ⟨run, run'⟩
          exact (runProgram_settle run).trans ((congrFun (settle_calm interrupt) _).trans run')

theorem Computes.program {statements : List Node}
    (each : ComputesEach home .null statements start fun value => post value.unwrapped) :
    Computes (.program statements) home start post := by
  refine .of_node ((Attains.runProgram 1 rfl each).passing fun before same => ?_)
  exact ⟨before.traced _, (before.traced_ledger _).trans same,
    fun depth => bind_run_of (trace_run _ _)⟩

/-! ### Nodes that have operands -/

theorem Computes.binding {name : String} {node : Node}
    (operand : Computes node home start fun value last =>
      value.isError = false ∧ post .null (last.bound home name value)) :
    Computes (.letStatement name node) home start post := by
  refine .strict rfl (.cons (operand.mono fun value last ⟨sound, holds⟩ => ⟨sound, .nil ?_⟩))
  show Attains (fun depth => proceed (evalWithin depth) home (.letStatement name node) [value])
    last post
  refine .of_run fun before same => ⟨.null, before.bound home name value, rfl, ?_⟩
  subst same
  exact holds

theorem Computes.operation {left right : Node} {operator : Operator}
    (operands : Computes left home start fun first middle => first.isError = false ∧
      Computes right home middle fun second last => second.isError = false ∧
        Attains (fun _ => applyInfix operator first second) last post) :
    Computes (.infixExpression left operator right) home start post :=
  .strict rfl operands

theorem Computes.conditional {test consequence alternative : Node}
    (operand : Computes test home start fun condition last => condition.isError = false ∧
      match condition.isTruthy with
      | true => Computes consequence home last post
      | false => Computes alternative home last post) :
    Computes (.ifExpression test consequence (some alternative)) home start post := by
  refine .strict rfl (.cons (operand.mono fun condition last ⟨sound, taken⟩ => ⟨sound, .nil ?_⟩))
  show Attains (fun depth => branch (fun child => evalWithin depth child home) consequence
    (some alternative) condition) last post
  cases truth : condition.isTruthy with
  | true =>
      rw [truth] at taken
      refine taken.passing fun before same => ?_
      exact ⟨_, (before.traced_ledger _).trans same, fun _ => branch_truthy _ truth⟩
  | false =>
      rw [truth] at taken
      refine taken.passing fun before same => ?_
      exact ⟨_, (before.traced_ledger _).trans same, fun _ => branch_some truth⟩

/-- Without an alternative, a branch that is not taken leaves `null`. -/
theorem Computes.guard {test consequence : Node}
    (operand : Computes test home start fun condition last => condition.isError = false ∧
      match condition.isTruthy with
      | true => Computes consequence home last post
      | false => post .null last) :
    Computes (.ifExpression test consequence none) home start post := by
  refine .strict rfl (.cons (operand.mono fun condition last ⟨sound, taken⟩ => ⟨sound, .nil ?_⟩))
  show Attains (fun depth => branch (fun child => evalWithin depth child home) consequence
    none condition) last post
  cases truth : condition.isTruthy with
  | true =>
      rw [truth] at taken
      refine taken.passing fun before same => ?_
      exact ⟨_, (before.traced_ledger _).trans same, fun _ => branch_truthy _ truth⟩
  | false =>
      rw [truth] at taken
      refine (Attains.plain taken).passing fun before same => ?_
      exact ⟨_, (before.traced_ledger _).trans same, fun _ => branch_none truth⟩

theorem Computes.returned {node : Node}
    (operand : Computes node home start fun value last =>
      value.isError = false ∧ ∀ serial, post (.returned serial value) last) :
    Computes (.returnStatement node) home start post :=
  .strict rfl (.cons (operand.mono fun _ _ ⟨sound, holds⟩ => ⟨sound, .nil (.make holds)⟩))

theorem Computes.array {nodes : List Node}
    (all : ComputesAll home nodes start fun values last =>
      ∀ serial, post (.array serial values) last) :
    Computes (.arrayLiteral nodes) home start post :=
  .strict rfl (all.mono fun _ _ holds => .make holds)

/-- What a call goes on to when its callee and its arguments are there. -/
def Applies (callee : Value) (values : List Value) (start : Ledger)
    (post : Value → Ledger → Prop) : Prop :=
  Attains (fun depth => call depth callee values) start post

theorem Computes.call {function : Node} {nodes : List Node}
    (operands : Computes function home start fun callee middle => callee.isError = false ∧
      ComputesAll home nodes middle fun values last => Applies callee values last post) :
    Computes (.callExpression function nodes) home start post := by
  refine .strict rfl (.cons (operands.mono fun callee middle ⟨sound, all⟩ => ⟨sound, ?_⟩))
  refine all.mono fun values last applies => Attains.passing applies fun before same => ?_
  exact ⟨_, (before.traced_ledger _).trans same, fun depth => bind_run_of (trace_run _ _)⟩

theorem Applies.builtin {callee : Builtin} {values : List Value}
    (attains : Attains (fun _ => applyBuiltin callee values) start.builtinCalled post) :
    Applies (.builtin callee) values start post := by
  refine attains.passing fun before same => ?_
  subst same
  exact ⟨_, (State.traced_ledger _ _).trans rfl, fun depth =>
    (bind_run_of (count_run _ _)).trans (bind_run_of (trace_run _ _))⟩

theorem Applies.function {serial : Nat} {parameters : List String} {body : Node}
    {closure : ScopeId} {values : List Value} (arity : values.length = parameters.length)
    (computes : Computes body start.scopes.next (start.called closure (parameters.zip values))
      fun value => post value.unwrapped) :
    Applies (.function serial parameters body closure) values start post := by
  intro before same
  subst same
  obtain ⟨value, after, runs, holds⟩ := computes _ (before.called_ledger closure parameters values)
  refine ⟨value.unwrapped, after, runs.mono fun depth run => ?_, holds⟩
  have run : evalWithin depth body before.scopes.next (before.called closure parameters values) =
      some (value, after) := run
  refine (call_of_arity_eq arity).trans ?_
  rw [run]
  rfl

end Nodes

end Eval

end MonkeyLang
