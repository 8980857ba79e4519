import MonkeyLang.Proofs.Answers
import MonkeyLang.Proofs.Coherent
import MonkeyLang.Proofs.Returns
import MonkeyLang.Proofs.Strict

/-!
Whatever the rules derive, evaluation computes with enough depth. The proof is by recursion on the
derivation: the runs of the premises, from some depth on, make up the run of the conclusion.
-/

namespace MonkeyLang

theorem State.Coherent.of_store {state other : State} (coherent : state.Coherent)
    (same : other.store = state.store) : other.Coherent :=
  coherent.of_same (congrArg Store.scopes same) (congrArg Store.nextSerial same)

theorem State.precedes_traced (state : State) (event : Event) :
    state.Precedes (state.traced event) :=
  ⟨(noted_nextSerial ..).ge, (congrArg Scopes.next (noted_scopes ..)).ge⟩

@[simp] theorem State.announced_store (state : State) (node : Node) :
    (state.announced node).store = state.store := by
  cases node <;> simp [announced]

@[simp] theorem State.opened_store (state : State) (size : Nat) :
    (state.opened size).store = state.store :=
  (State.counted_store ..).trans (State.traced_store ..)

@[simp] theorem State.called_store (state : State) (closure : ScopeId) (parameters : List String)
    (arguments : List Value) : (state.called closure parameters arguments).store =
      state.store.entered closure (parameters.zip arguments) := by
  rw [called, traced_store]
  rfl

namespace Semantics

open Eval

/-- A state that can arise, with the store, and in which the scope is there. -/
structure Standing (home : ScopeId) (store : Store) (state : State) : Prop where
  store : state.store = store
  coherent : state.Coherent
  present : home < state.scopes.next

namespace Standing

variable {home : ScopeId} {before after : State} {node : Node} {value : Value}
  {store store' : Store}

theorem of_store (standing : Standing home store before) (same : after.store = before.store) :
    Standing home store after where
  store := same.trans standing.store
  coherent := standing.coherent.of_store same
  present := by
    have scopes : after.scopes = before.scopes := congrArg Store.scopes same
    rw [scopes]
    exact standing.present

theorem traced (standing : Standing home store before) (event : Event) :
    Standing home store (before.traced event) :=
  standing.of_store (before.traced_store event)

theorem opened (standing : Standing home store before) (size : Nat) :
    Standing home store (before.opened size) :=
  standing.of_store (before.opened_store size)

theorem announced (standing : Standing home store before) (node : Node) :
    Standing home store (before.announced node) :=
  standing.of_store (before.announced_store node)

theorem stepped (standing : Standing home store before) : Standing home store before.stepped :=
  standing.of_store before.stepped_store

/-- What an evaluation leaves behind. -/
theorem later (standing : Standing home store before)
    (yields : Yields node home before value after) (same : after.store = store') :
    Standing home store' after ∧ after.Knows value ∧ before.Precedes after := by
  obtain ⟨depth, run⟩ := yields
  obtain ⟨coherent, known, earlier⟩ := evalWithin_coherent standing.coherent standing.present run
  exact ⟨⟨same, coherent, Nat.lt_of_lt_of_le standing.present earlier.scopes⟩, known, earlier⟩

end Standing

section Runs
variable {home : ScopeId} {before middle after : State} {node : Node} {value : Value}
  {store : Store}

/-- Some run of the node ends with the value, and in a state with the store. -/
def Realizes (node : Node) (home : ScopeId) (before : State) (value : Value) (store : Store) :
    Prop :=
  ∃ after, after.store = store ∧ Yields node home before value after

theorem yields_of_node (runs : Finally fun depth => evalNode (evalWithin depth) node home before =
    some (value, after)) : Yields node home before value after :=
  (Finally.of_succ runs).exists_depth

/-- How to go on after operands: with their values, or not at all. -/
def resume {α : Type} (outcome : Except Value α) (next : α → Eval Value) : Eval Value :=
  match outcome with
  | .ok values => next values
  | .error failure => pure failure

/-- The run of a list of operands, whatever is done with their values. -/
def OperandsRun (nodes : List Node) (home : ScopeId) (before : State)
    (outcome : Except Value (List Value)) (after : State) : Prop :=
  Finally fun depth => ∀ next,
    operands (fun child => evalWithin depth child home) nodes next before =
      resume outcome next after

namespace OperandsRun

variable {nodes : List Node} {outcome : Except Value (List Value)}

theorem nil : OperandsRun [] home before (.ok []) before :=
  .of_all fun _ _ => rfl

theorem cons (first : Yields node home before value middle) (sound : value.isError = false)
    (rest : OperandsRun nodes home middle outcome after) :
    OperandsRun (node :: nodes) home before (outcome.map (value :: ·)) after := by
  refine (first.eventually.and rest).mono ?_
  rintro depth ⟨run, rest⟩ next
  rw [operands, operand_run run sound, rest]
  cases outcome <;> rfl

theorem fails (first : Yields node home before value after) (failed : value.isError = true) :
    OperandsRun (node :: nodes) home before (.error value) after := by
  refine first.eventually.mono fun depth run next => ?_
  exact operand_failed run failed

end OperandsRun

/-- A strict node runs like its operands and what it does with their values. -/
theorem yields_strict {outcome : Except Value (List Value)} (strict : node.isStrict = true)
    (runs : OperandsRun node.operands home (before.announced node) outcome middle)
    (ends : Finally fun depth => resume outcome (proceed (evalWithin depth) home node) middle =
      some (value, after)) : Yields node home before value after := by
  apply yields_of_node
  refine (runs.and ends).mono ?_
  rintro depth ⟨runs, ends⟩
  rw [evalNode_strict _ strict, runs, ends]

theorem realizes_answer {answer : Answer} (strict : node.isStrict = true) {values : List Value}
    (runs : OperandsRun node.operands home (before.announced node) (.ok values) middle)
    (answers : ∀ recur, proceed recur home node values = answer.run) :
    Realizes node home before (answer.value middle.store) (answer.after middle.store) := by
  obtain ⟨after, run, same⟩ := answer.run_store middle
  refine ⟨after, same, yields_strict strict runs (.of_all fun depth => ?_)⟩
  show proceed _ _ _ _ _ = _
  rw [answers, run]

end Runs

section Identifiers
variable {name : String} {scope : ScopeId} {before : State}

theorem evalIdentifier_found {value : Value}
    (found : before.scopes.lookup? scope name = some value) :
    evalIdentifier name scope before = some (value, before.traced (.lookupStarted name)) := by
  rw [evalIdentifier, bind_run_of (trace_run _ _), bind_run_of (lookup?_run _ _ _), State.traced,
    State.noted_scopes, found]
  rfl

theorem evalIdentifier_builtin {callee : Builtin}
    (absent : before.scopes.lookup? scope callee.name = none) :
    evalIdentifier callee.name scope before = some (.builtin callee,
      (before.traced (.lookupStarted callee.name)).traced (.builtinFound callee.name)) := by
  have known : Builtin.ofName? callee.name = some callee :=
    (Builtin.ofName?_eq_some_iff _ _).mpr rfl
  rw [evalIdentifier, bind_run_of (trace_run _ _), bind_run_of (lookup?_run _ _ _), State.traced,
    State.noted_scopes, absent]
  simp only [known]
  rfl

theorem evalIdentifier_unbound (absent : before.scopes.lookup? scope name = none)
    (unknown : ∀ callee : Builtin, callee.name ≠ name) :
    evalIdentifier name scope before =
      some (.error before.nextSerial (.unboundIdentifier name),
        (before.traced (.lookupStarted name)).failed (.unboundIdentifier name)) := by
  have foreign : Builtin.ofName? name = none := by
    cases named : Builtin.ofName? name with
    | none => rfl
    | some callee => exact absurd ((Builtin.ofName?_eq_some_iff _ _).mp named) (unknown callee)
  rw [evalIdentifier, bind_run_of (trace_run _ _), bind_run_of (lookup?_run _ _ _), State.traced,
    State.noted_scopes, absent]
  simp only [foreign]
  rw [fail_run, State.noted_nextSerial]

end Identifiers

theorem isTruthy_of_not_falsy {value : Value} (truthy : ¬ Falsy value) :
    value.isTruthy = true := by
  rw [falsy_iff, Bool.not_eq_false] at truthy
  exact truthy

theorem isError_of_falsy {value : Value} (falsy : Falsy value) : value.isError = false := by
  rcases falsy with rfl | rfl <;> rfl

theorem unwrapped_of_tag {value : Value} (plain : value.tag ≠ .returned) :
    value.unwrapped = value := by
  cases value with
  | returned serial inner => exact absurd rfl plain
  | _ => rfl

theorem calm_iff {value : Value} :
    value.isInterrupt = false ↔ value.tag ≠ .returned ∧ value.tag ≠ .error := by
  rw [Bool.eq_false_iff, ne_eq, Value.isInterrupt_iff, not_or]

theorem settle_interrupt {value : Value} (before : State)
    (interrupts : value.tag = .returned ∨ value.tag = .error) :
    ∃ after, after.store = before.store ∧ ∀ sub position rest,
      settle sub position rest value before = some (value.unwrapped, after) := by
  cases value with
  | returned serial inner =>
      exact ⟨_, before.traced_store _, fun _ _ _ => bind_run_of (trace_run _ _)⟩
  | error serial fault =>
      exact ⟨_, before.traced_store _, fun _ _ _ => bind_run_of (trace_run _ _)⟩
  | _ => simp [Value.tag] at interrupts

/-- A node with operands evaluates them first, but for a hash literal. -/
theorem isStrict_of_fails {node : Node} {home : ScopeId} {store store' : Store} {failure : Value}
    (not_hash : ∀ pairs, node ≠ .hashLiteral pairs)
    (operands : Operands node.operands home store (.error failure) store') :
    node.isStrict = true := by
  cases node with
  | hashLiteral pairs => exact absurd rfl (not_hash pairs)
  | _ => first | rfl | cases operands

theorem standing_called {serial : Nat} {parameters : List String} {body : Node}
    {closure : ScopeId} {arguments : List Value} {before : State} {store : Store}
    (same : before.store = store) (coherent : before.Coherent)
    (callee_known : before.Knows (.function serial parameters body closure))
    (known : ∀ argument ∈ arguments, before.Knows argument) :
    Standing store.scopes.next (store.entered closure (parameters.zip arguments))
      (before.called closure parameters arguments) := by
  subst same
  have present : closure < before.scopes.next := callee_known.whole.scope rfl
  have bound : ∀ binding ∈ parameters.zip arguments, before.Knows binding.2 :=
    fun binding member => known binding.2 (List.of_mem_zip member).2
  have called := before.called_store closure parameters arguments
  refine ⟨called, (coherent.entered present bound).of_store called, ?_⟩
  simp [State.called, State.traced, State.entered, State.counted, State.store]

theorem call_other {callee : Value} {arguments : List Value} {depth : Nat}
    (function : callee.tag ≠ .function) (builtin : callee.tag ≠ .builtin) :
    call depth callee arguments = fail (.notCallable callee.tag) := by
  cases callee with
  | function serial parameters body closure => exact absurd rfl function
  | builtin callee => exact absurd rfl builtin
  | failing serial name detail => exact absurd rfl builtin
  | _ => rfl

-- A premise keeps its own store until it has been used: the recursion is on derivations, and to
-- replace the store in one of them would make it a different derivation.
mutual

theorem derives_realizes {node : Node} {home : ScopeId} {store : Store} {value : Value}
    {store' : Store} : Derives node home store value store' → ∀ before : State,
      Standing home store before → Realizes node home before value store'
  | @Derives.program_ends nodes _ _ _ _ statements plain, before, standing => by
      obtain ⟨after, same, runs⟩ :=
        sequence_program statements _ (standing.traced (.programStarted nodes.length)) 1 nofun
      rw [unwrapped_of_tag plain] at runs
      exact ⟨after, same, yields_of_node (runs.mono fun _ run =>
        (bind_run_of (trace_run _ _)).trans run)⟩
  | @Derives.program_returns nodes _ _ _ _ _ statements, before, standing => by
      obtain ⟨after, same, runs⟩ :=
        sequence_program statements _ (standing.traced (.programStarted nodes.length)) 1 nofun
      exact ⟨after, same, yields_of_node (runs.mono fun _ run =>
        (bind_run_of (trace_run _ _)).trans run)⟩
  | @Derives.block nodes _ _ _ _ statements, before, standing => by
      obtain ⟨after, same, runs⟩ := sequence_block statements _ (standing.opened nodes.length)
      exact ⟨after, same, yields_of_node (runs.mono fun _ run =>
        (bind_run_of (trace_run _ _)).trans ((bind_run_of (count_run _ _)).trans run))⟩
  | .expression inner, before, standing => by
      obtain ⟨after, same, yields⟩ := derives_realizes inner before standing
      exact ⟨after, same, yields_of_node yields.eventually⟩
  | @Derives.binding name expression _ _ _ _ inner sound, before, standing => by
      obtain ⟨middle, same, yields⟩ :=
        derives_realizes inner _ (standing.announced (.letStatement name expression))
      subst same
      exact ⟨middle.bound _ _ _, rfl,
        yields_strict rfl (.cons yields sound .nil) (.of_all fun _ => rfl)⟩
  | @Derives.return_ expression _ _ _ _ inner sound, before, standing => by
      obtain ⟨middle, same, yields⟩ :=
        derives_realizes inner _ (standing.announced (.returnStatement expression))
      subst same
      exact ⟨middle.bumped, rfl, yields_strict rfl (.cons yields sound .nil) (.of_all fun _ => rfl)⟩
  | .bound finds, before, standing => by
      obtain ⟨rfl, coherent, -⟩ := standing
      exact ⟨before.traced _, before.traced_store _,
        yields_of_node (.of_all fun _ => evalIdentifier_found (finds.lookup? coherent.nested))⟩
  | .builtin absent, before, standing => by
      obtain ⟨rfl, coherent, -⟩ := standing
      refine ⟨_, ?_, yields_of_node (.of_all fun _ =>
        evalIdentifier_builtin (absent.lookup? coherent.nested))⟩
      rw [State.traced_store, State.traced_store]
  | .unbound absent unknown, before, standing => by
      obtain ⟨rfl, coherent, -⟩ := standing
      refine ⟨_, ?_, yields_of_node (.of_all fun _ =>
        evalIdentifier_unbound (absent.lookup? coherent.nested) unknown)⟩
      rw [State.failed_store, State.traced_store]
  | .integer, before, standing => by
      obtain ⟨rfl, -, -⟩ := standing
      exact ⟨before.bumped, rfl, yields_of_node (.of_all fun _ => rfl)⟩
  | .string, before, standing => by
      obtain ⟨rfl, -, -⟩ := standing
      exact ⟨before.bumped, rfl, yields_of_node (.of_all fun _ => rfl)⟩
  | .boolean, before, standing => by
      obtain ⟨rfl, -, -⟩ := standing
      exact ⟨before, rfl, yields_of_node (.of_all fun _ => rfl)⟩
  | .function, before, standing => by
      obtain ⟨rfl, -, -⟩ := standing
      exact ⟨before.bumped, rfl, yields_of_node (.of_all fun _ => rfl)⟩
  | @Derives.prefixed operator right _ _ _ _ _ inner sound rule, before, standing => by
      obtain ⟨middle, same, yields⟩ :=
        derives_realizes inner _ (standing.announced (.prefixExpression operator right))
      subst same
      exact realizes_answer rfl (.cons yields sound .nil) fun _ => rule.run
  | @Derives.infixed first operator second _ _ _ _ _ _ _ left left_sound right right_sound rule,
      before, standing => by
      have announced := standing.announced (.infixExpression first operator second)
      obtain ⟨middle, same, yields⟩ := derives_realizes left _ announced
      obtain ⟨after, after_same, yields'⟩ :=
        derives_realizes right middle (announced.later yields same).1
      subst after_same
      exact realizes_answer rfl (.cons yields left_sound (.cons yields' right_sound .nil))
        fun _ => rule.run
  | @Derives.indexed first second _ _ _ _ _ _ _ left left_sound right right_sound rule, before,
      standing => by
      have announced := standing.announced (.indexExpression first second)
      obtain ⟨middle, same, yields⟩ := derives_realizes left _ announced
      obtain ⟨after, after_same, yields'⟩ :=
        derives_realizes right middle (announced.later yields same).1
      subst after_same
      exact realizes_answer rfl (.cons yields left_sound (.cons yields' right_sound .nil))
        fun _ => rule.run
  | @Derives.consequence test yes no _ _ _ _ _ _ condition sound truthy consequence, before,
      standing => by
      have announced := standing.announced (.ifExpression test yes no)
      obtain ⟨middle, same, first⟩ := derives_realizes condition _ announced
      obtain ⟨after, after_same, second⟩ := derives_realizes consequence _
        ((announced.later first same).1.traced .consequenceTaken)
      exact ⟨after, after_same, yields_strict rfl (.cons first sound .nil)
        (second.eventually.mono fun _ run =>
          (branch_truthy _ (isTruthy_of_not_falsy truthy)).trans run)⟩
  | @Derives.alternative test yes no _ _ truth _ _ _ condition falsy alternative, before,
      standing => by
      have announced := standing.announced (.ifExpression test yes (some no))
      obtain ⟨middle, same, first⟩ := derives_realizes condition _ announced
      obtain ⟨after, after_same, second⟩ := derives_realizes alternative _
        ((announced.later first same).1.traced .alternativeTaken)
      refine ⟨after, after_same, yields_strict rfl (.cons first (isError_of_falsy falsy) .nil)
        (second.eventually.mono fun depth run => ?_)⟩
      show branch (fun child => evalWithin depth child home) yes (some no) truth middle = _
      exact (branch_some (falsy_iff.mp falsy)).trans run
  | @Derives.neither test yes _ _ truth _ condition falsy, before, standing => by
      obtain ⟨middle, same, first⟩ :=
        derives_realizes condition _ (standing.announced (.ifExpression test yes none))
      refine ⟨middle.traced .noAlternative, (middle.traced_store _).trans same,
        yields_strict rfl (.cons first (isError_of_falsy falsy) .nil) (.of_all fun depth => ?_)⟩
      show branch (fun child => evalWithin depth child home) yes none truth middle = _
      exact branch_none (falsy_iff.mp falsy)
  | @Derives.call first others _ _ _ _ values _ _ _ callee sound arguments applied, before,
      standing => by
      have announced := standing.announced (.callExpression first others)
      obtain ⟨middle, same, first⟩ := derives_realizes callee _ announced
      obtain ⟨at_middle, callee_known, -⟩ := announced.later first same
      obtain ⟨ready, rest, at_ready, later, known⟩ := operands_realize arguments middle at_middle
      have at_call := at_ready.traced (.argumentsReady values.length)
      obtain ⟨after, after_same, runs⟩ := applies_realizes applied _ at_call.store at_call.coherent
        (callee_known.mono (later.trans (ready.precedes_traced _)))
        fun value member => (known _ rfl value member).mono (ready.precedes_traced _)
      exact ⟨after, after_same, yields_strict rfl (.cons first sound rest) (runs.mono fun _ run =>
        (bind_run_of (trace_run _ _)).trans run)⟩
  | @Derives.array nodes _ _ _ _ elements, before, standing => by
      obtain ⟨middle, runs, at_middle, -, -⟩ :=
        operands_realize elements _ (standing.announced (.arrayLiteral nodes))
      obtain ⟨rfl, -, -⟩ := at_middle
      exact ⟨middle.bumped, rfl, yields_strict rfl runs (.of_all fun _ => rfl)⟩
  | @Derives.hash nodes _ _ _ _ pairs, before, standing => by
      obtain ⟨middle, same, runs⟩ :=
        pairs_realize pairs _ (standing.traced (.hashStarted nodes.length))
      subst same
      exact ⟨middle.bumped, rfl, yields_of_node (runs.mono fun _ run =>
        (bind_run_of (trace_run _ _)).trans run)⟩
  | @Derives.hash_fails nodes _ _ _ _ pairs, before, standing => by
      obtain ⟨middle, same, runs⟩ :=
        pairs_realize pairs _ (standing.traced (.hashStarted nodes.length))
      exact ⟨middle, same, yields_of_node (runs.mono fun _ run =>
        (bind_run_of (trace_run _ _)).trans run)⟩
  | @Derives.operand_fails node _ _ _ _ not_hash operands, before, standing => by
      obtain ⟨after, runs, at_after, -, -⟩ := operands_realize operands _ (standing.announced node)
      exact ⟨after, at_after.store,
        yields_strict (isStrict_of_fails not_hash operands) runs (.of_all fun _ => rfl)⟩

theorem operands_realize {nodes : List Node} {home : ScopeId} {store : Store}
    {outcome : Except Value (List Value)} {store' : Store} :
    Operands nodes home store outcome store' → ∀ before : State, Standing home store before →
      ∃ after, OperandsRun nodes home before outcome after ∧ Standing home store' after ∧
        before.Precedes after ∧
        ∀ values, outcome = .ok values → ∀ value ∈ values, after.Knows value
  | .nil, before, standing => by
      refine ⟨before, .nil, standing, .refl before, ?_⟩
      rintro values ⟨⟩ value member
      cases member
  | .cons first sound rest, before, standing => by
      obtain ⟨middle, same, yields⟩ := derives_realizes first before standing
      obtain ⟨at_middle, known, earlier⟩ := standing.later yields same
      obtain ⟨after, runs, at_after, later, all⟩ := operands_realize rest middle at_middle
      refine ⟨after, .cons yields sound runs, at_after, earlier.trans later, ?_⟩
      rintro values ⟨⟩ value member
      rcases List.mem_cons.mp member with rfl | member
      · exact known.mono later
      · exact all _ rfl value member
  | .fails first failed, before, standing => by
      obtain ⟨after, same, yields⟩ := derives_realizes first before standing
      obtain ⟨at_after, -, earlier⟩ := standing.later yields same
      exact ⟨after, .fails yields failed, at_after, earlier, by rintro _ ⟨⟩⟩
  | .fails_later first sound rest, before, standing => by
      obtain ⟨middle, same, yields⟩ := derives_realizes first before standing
      obtain ⟨at_middle, -, earlier⟩ := standing.later yields same
      obtain ⟨after, runs, at_after, later, -⟩ := operands_realize rest middle at_middle
      exact ⟨after, .cons yields sound runs, at_after, earlier.trans later, by rintro _ ⟨⟩⟩

theorem sequence_block {statements : List Node} {home : ScopeId} {last : Value} {store : Store}
    {value : Value} {store' : Store} : Sequence statements home last store value store' →
      ∀ before : State, Standing home store before → ∃ after, after.store = store' ∧
        Finally fun depth => runBlock (fun child => evalWithin depth child home) last statements
          before = some (value, after)
  | .nil, before, standing => ⟨before, standing.store, .of_all fun _ => rfl⟩
  | .cons first plain sound rest, before, standing => by
      obtain ⟨middle, same, yields⟩ := derives_realizes first before standing
      obtain ⟨after, after_same, runs⟩ :=
        sequence_block rest middle.stepped (standing.later yields same).1.stepped
      refine ⟨after, after_same, (yields.eventually.and runs).mono ?_⟩
      rintro depth ⟨run, rest⟩
      rw [runBlock_calm run (calm_iff.mpr ⟨plain, sound⟩), rest]
  | .ends first interrupts, before, standing => by
      obtain ⟨middle, same, yields⟩ := derives_realizes first before standing
      refine ⟨middle.stepped.traced (.blockInterrupted _), ?_, yields.eventually.mono fun _ run =>
        runBlock_interrupt run ((Value.isInterrupt_iff _).mpr interrupts)⟩
      rw [State.traced_store, State.stepped_store, same]

theorem sequence_program {statements : List Node} {home : ScopeId} {last : Value} {store : Store}
    {value : Value} {store' : Store} : Sequence statements home last store value store' →
      ∀ before : State, Standing home store before → ∀ position, last.tag ≠ .returned →
        ∃ after, after.store = store' ∧ Finally fun depth =>
          runProgram (fun child => evalWithin depth child home) position last statements before =
            some (value.unwrapped, after)
  | .nil, before, standing, position, plain => by
      refine ⟨before.traced (.programFinished last), (before.traced_store _).trans standing.store,
        .of_all fun _ => ?_⟩
      rw [unwrapped_of_tag plain]
      exact bind_run_of (trace_run _ _)
  | @Sequence.cons statement _ _ _ _ _ _ _ _ first plain sound rest, before, standing, position,
      _ => by
      obtain ⟨middle, same, yields⟩ := derives_realizes first _
        (standing.traced (.statementReached position statement.kind))
      obtain ⟨after, after_same, runs⟩ := sequence_program rest middle.stepped
        ((standing.traced _).later yields same).1.stepped (position + 1) plain
      refine ⟨after, after_same, (yields.eventually.and runs).mono ?_⟩
      rintro depth ⟨run, rest⟩
      rw [runProgram_settle run, settle_calm (calm_iff.mpr ⟨plain, sound⟩), rest]
  | @Sequence.ends statement _ _ _ _ _ _ first interrupts, before, standing, position, _ => by
      obtain ⟨middle, same, yields⟩ := derives_realizes first _
        (standing.traced (.statementReached position statement.kind))
      obtain ⟨after, after_same, ends⟩ := settle_interrupt middle.stepped interrupts
      refine ⟨after, after_same.trans same, yields.eventually.mono fun _ run => ?_⟩
      rw [runProgram_settle run, ends]

theorem pairs_realize {pairs : List (Node × Node)} {home : ScopeId} {entries : Entries}
    {store : Store} {outcome : Except Value Entries} {store' : Store} :
    Pairs pairs home entries store outcome store' → ∀ before : State,
      Standing home store before → ∃ after, after.store = store' ∧ Finally fun depth =>
        evalPairs (fun child => evalWithin depth child home) pairs entries before =
          resume outcome makeHash after
  | .nil, before, standing => ⟨before, standing.store, .of_all fun _ => rfl⟩
  | .cons key key_sound slot item item_sound rest, before, standing => by
      obtain ⟨keyed, same, first⟩ := derives_realizes key before standing
      have at_keyed := (standing.later first same).1
      obtain ⟨valued, valued_same, second⟩ := derives_realizes item keyed at_keyed
      obtain ⟨after, after_same, runs⟩ :=
        pairs_realize rest valued (at_keyed.later second valued_same).1
      refine ⟨after, after_same, ((first.eventually.and second.eventually).and runs).mono ?_⟩
      rintro depth ⟨⟨run, run'⟩, rest⟩
      rw [evalPairs, operand_run run key_sound]
      simp only [slot]
      rw [operand_run run' item_sound, rest]
  | .key_fails key failed, before, standing => by
      obtain ⟨after, same, first⟩ := derives_realizes key before standing
      refine ⟨after, same, first.eventually.mono fun depth run => ?_⟩
      exact operand_failed run failed
  | @Pairs.not_hashable _ _ _ _ _ _ own _ key sound missing, before, standing => by
      obtain ⟨keyed, same, first⟩ := derives_realizes key before standing
      subst same
      refine ⟨keyed.failed (.notHashable own.tag), keyed.failed_store _,
        first.eventually.mono fun depth run => ?_⟩
      rw [evalPairs, operand_run run sound]
      simp only [missing]
      exact fail_run _ _
  | .value_fails key key_sound slot item failed, before, standing => by
      obtain ⟨keyed, same, first⟩ := derives_realizes key before standing
      obtain ⟨after, after_same, second⟩ :=
        derives_realizes item keyed (standing.later first same).1
      refine ⟨after, after_same, (first.eventually.and second.eventually).mono ?_⟩
      rintro depth ⟨run, run'⟩
      rw [evalPairs, operand_run run key_sound]
      simp only [slot]
      rw [operand_failed run' failed]
      rfl

theorem applies_realizes {callee : Value} {arguments : List Value} {store : Store} {value : Value}
    {store' : Store} : Applies callee arguments store value store' → ∀ before : State,
      before.store = store → before.Coherent → before.Knows callee →
        (∀ argument ∈ arguments, before.Knows argument) → ∃ after, after.store = store' ∧
          Finally fun depth => call depth callee arguments before = some (value, after)
  | .wrong_arity wrong, before, same, _, _, _ => by
      subst same
      refine ⟨_, ?_, .of_all fun depth => (call_of_arity_ne wrong).trans (fail_run _ _)⟩
      rw [State.failed_store, State.counted_store]
  | .body_ends fits body plain, before, same, coherent, callee_known, known => by
      obtain ⟨after, after_same, yields⟩ := derives_realizes body _
        (standing_called same coherent callee_known known)
      subst same
      refine ⟨after, after_same, yields.eventually.mono fun depth run => ?_⟩
      refine (call_of_arity_eq fits).trans ((congrArg _ run).trans ?_)
      rw [Option.map_some, unwrapped_of_tag plain]
  | .body_returns fits body, before, same, coherent, callee_known, known => by
      obtain ⟨after, after_same, yields⟩ := derives_realizes body _
        (standing_called same coherent callee_known known)
      subst same
      exact ⟨after, after_same, yields.eventually.mono fun depth run =>
        (call_of_arity_eq fits).trans (congrArg _ run)⟩
  | .builtin rule, before, same, _, _, _ => by
      subst same
      obtain ⟨after, run, after_same⟩ := Answer.run_store _
        ((before.counted fun counters =>
          { counters with builtinCalls := counters.builtinCalls + 1 }).traced (.builtinCalled _))
      rw [State.traced_store, State.counted_store] at run after_same
      refine ⟨after, after_same, .of_all fun depth => (bind_run_of (count_run _ _)).trans
        ((bind_run_of (trace_run _ _)).trans ?_)⟩
      rw [rule.run, run]
  | @Applies.not_a_function callee _ _ function builtin, before, same, _, _, _ => by
      subst same
      refine ⟨before.failed (.notCallable callee.tag), before.failed_store _,
        .of_all fun depth => ?_⟩
      rw [call_other function builtin]
      exact fail_run _ _

end

end Semantics

end MonkeyLang
