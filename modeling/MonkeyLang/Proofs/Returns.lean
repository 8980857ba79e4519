import MonkeyLang.Proofs.Depth
import MonkeyLang.Proofs.Discipline

/-!
A return in statement position leaves the function it stands in. Blocks hand the returned
value on without evaluating anything else, and the call, or the program, takes it out of
its wrapper.

A return inside of an operand does not: operations ask of their operands only whether they
are errors, so a `let`, an operator or an argument list takes the wrapper as it is.
-/

namespace MonkeyLang

def Value.ReturnFree (value : Value) : Prop :=
  value.Throughout fun part => part.tag ≠ .returned

def State.ReturnFree (state : State) : Prop :=
  state.Throughout fun part => part.tag ≠ .returned

theorem Value.Throughout.returnFree {value : Value} (plain : value.Throughout IsPlain) :
    value.ReturnFree :=
  fun part inside => (plain part inside).1

theorem Value.error_returnFree (serial : Nat) (fault : Fault) :
    (error serial fault).ReturnFree := by
  have atom : (error serial fault).IsAtom := trivial
  exact (throughout_atom atom).mpr (by simp [tag])

theorem State.Throughout.returnFree {state : State} (plain : state.Throughout Value.IsPlain) :
    state.ReturnFree :=
  fun scope binding member => (plain scope binding member).returnFree

namespace State

/-- The state in which the statements of a block start. -/
def opened (state : State) (size : Nat) : State :=
  (state.traced (.blockStarted size)).counted fun counters =>
    { counters with largestBlock := max counters.largestBlock size }

/-- The state after a returned value has left some blocks: for each of them a statement was
counted and the interruption logged, and nothing else happened. -/
def interrupted (state : State) : Nat → State
  | 0 => state
  | count + 1 => (state.interrupted count).stepped.traced (.blockInterrupted .returned)

end State

namespace Eval

section Sequences
variable {sub : Node → Eval Value} {statement : Node} {rest : List Node} {result value : Value}
  {position : Nat} {before after : State}

theorem runBlock_calm (run : sub statement before = some (value, after))
    (calm : value.isInterrupt = false) :
    runBlock sub result (statement :: rest) before = runBlock sub value rest after.stepped := by
  rw [runBlock, bind_run_of run, bind_run_of (countStatement_run _), if_neg (by simp [calm])]

theorem runBlock_interrupt (run : sub statement before = some (value, after))
    (interrupts : value.isInterrupt = true) :
    runBlock sub result (statement :: rest) before =
      some (value, after.stepped.traced (.blockInterrupted value.tag)) := by
  rw [runBlock, bind_run_of run, bind_run_of (countStatement_run _), if_pos interrupts]
  exact bind_run_of (trace_run _ _)

/-- A statement of a program is announced, evaluated and counted before its value counts. -/
theorem runProgram_settle
    (run : sub statement (before.traced (.statementReached position statement.kind)) =
      some (value, after)) :
    runProgram sub position result (statement :: rest) before =
      settle sub position rest value after.stepped := by
  rw [runProgram_cons, bind_run_of (trace_run _ _), bind_run_of run]
  exact bind_run_of (countStatement_run _)

end Sequences

section Branches
variable {recur : Node → ScopeId → Eval Value} {scope : ScopeId} {condition consequence : Node}
  {value : Value} {before between : State}
  (run : recur condition scope (before.traced .conditionStarted) = some (value, between))
  (sound : value.isError = false)

include run sound

theorem consequence_run (alternative : Option Node) (truthy : value.isTruthy = true) :
    evalNode recur (.ifExpression condition consequence alternative) scope before =
      recur consequence scope (between.traced .consequenceTaken) := by
  refine (bind_run_of (trace_run _ _)).trans ((operand_run run sound).trans ?_)
  rw [if_pos truthy]
  exact bind_run_of (trace_run _ _)

theorem alternative_run {alternative : Node} (falsy : value.isTruthy = false) :
    evalNode recur (.ifExpression condition consequence (some alternative)) scope before =
      recur alternative scope (between.traced .alternativeTaken) := by
  refine (bind_run_of (trace_run _ _)).trans ((operand_run run sound).trans ?_)
  rw [if_neg (by simp [falsy])]
  exact bind_run_of (trace_run _ _)

end Branches

/-- Statements evaluated in turn, none of which ends the sequence. `entry` is what happens
to the state before the statement at a position. -/
inductive RunsThrough (entry : Nat → Node → State → State) (scope : ScopeId) :
    Nat → List Node → State → State → Prop where
  | nil {position state} : RunsThrough entry scope position [] state state
  | cons {position statement rest before value between after} :
      Yields statement scope (entry position statement before) value between →
        value.isInterrupt = false →
          RunsThrough entry scope (position + 1) rest between.stepped after →
            RunsThrough entry scope position (statement :: rest) before after

/-- The evaluation of a node from the state `before` comes to the evaluation of `goal`, in
the state that is named last, by way of statements, blocks and branches only. -/
inductive Reaches (goal : Node) (scope : ScopeId) : Node → State → State → Prop where
  | here {before} : Reaches goal scope goal before before
  | expressionStatement {expression before mid} : Reaches goal scope expression before mid →
      Reaches goal scope (.expressionStatement expression) before mid
  | blockStatement {passed statement rest before between mid} :
      RunsThrough (fun _ _ state => state) scope 1 passed
        (before.opened (passed ++ statement :: rest).length) between →
          Reaches goal scope statement between mid →
            Reaches goal scope (.blockStatement (passed ++ statement :: rest)) before mid
  | consequence {condition consequence alternative before value between mid} :
      Yields condition scope (before.traced .conditionStarted) value between →
        value.isError = false → value.isTruthy = true →
          Reaches goal scope consequence (between.traced .consequenceTaken) mid →
            Reaches goal scope (.ifExpression condition consequence alternative) before mid
  | alternative {condition consequence alternative before value between mid} :
      Yields condition scope (before.traced .conditionStarted) value between →
        value.isError = false → value.isTruthy = false →
          Reaches goal scope alternative (between.traced .alternativeTaken) mid →
            Reaches goal scope (.ifExpression condition consequence (some alternative)) before mid

/-- What happens to the state before a statement of a program. -/
def announced (position : Nat) (statement : Node) (state : State) : State :=
  state.traced (.statementReached position statement.kind)

theorem RunsThrough.runBlock {scope : ScopeId} {position : Nat} {passed rest : List Node}
    {before after : State} (runs : RunsThrough (fun _ _ state => state) scope position passed
      before after) (result : Value) :
    ∃ last, Finally fun depth =>
      runBlock (fun child => evalWithin depth child scope) result (passed ++ rest) before =
        runBlock (fun child => evalWithin depth child scope) last rest after := by
  induction runs generalizing result with
  | nil => exact ⟨result, .of_all fun _ => rfl⟩
  | @cons _ _ _ _ value _ _ head calm _ ih =>
      obtain ⟨last, tail⟩ := ih value
      refine ⟨last, ?_⟩
      apply (head.eventually.and tail).mono
      rintro depth ⟨here, later⟩
      rw [List.cons_append, runBlock_calm here calm, later]

theorem RunsThrough.runProgram {scope : ScopeId} {position : Nat} {passed rest : List Node}
    {before after : State} (runs : RunsThrough announced scope position passed before after)
    (result : Value) :
    ∃ last, Finally fun depth =>
      runProgram (fun child => evalWithin depth child scope) position result (passed ++ rest)
          before =
        runProgram (fun child => evalWithin depth child scope) (position + passed.length) last rest
          after := by
  induction runs generalizing result with
  | nil => exact ⟨result, .of_all fun _ => rfl⟩
  | @cons position _ passed _ value _ _ head calm _ ih =>
      obtain ⟨last, tail⟩ := ih value
      refine ⟨last, ?_⟩
      apply (head.eventually.and tail).mono
      rintro depth ⟨here, later⟩
      rw [List.cons_append, runProgram_settle here, settle_calm calm, later, List.length_cons,
        Nat.add_right_comm, Nat.add_assoc]

/-- A return that is reached gives its value, in a wrapper, to the node it was reached from. -/
theorem Reaches.returns {scope : ScopeId} {node expression : Node} {before mid last : State}
    {value : Value} (path : Reaches (.returnStatement expression) scope node before mid)
    (yields : Yields expression scope mid value last) (sound : value.isError = false) :
    ∃ count, Finally fun depth => evalWithin depth node scope before =
      some (.returned last.nextSerial value, last.bumped.interrupted count) := by
  -- on the path from the return outwards, the returned value is what each node ends with
  induction path with
  | here =>
      refine ⟨0, Finally.of_succ ?_⟩
      apply yields.eventually.mono
      intro depth run
      exact operand_run run sound
  | expressionStatement _ ih =>
      obtain ⟨count, inner⟩ := ih yields
      refine ⟨count, Finally.of_succ ?_⟩
      apply inner.mono
      intro depth run
      exact run
  | blockStatement runs _ ih =>
      obtain ⟨count, inner⟩ := ih yields
      obtain ⟨result, through⟩ := runs.runBlock .null
      refine ⟨count + 1, Finally.of_succ ?_⟩
      apply (through.and inner).mono
      rintro depth ⟨passes, run⟩
      -- the rest of the block is not looked at
      exact passes.trans (runBlock_interrupt run rfl)
  | consequence condition calm truthy _ ih =>
      obtain ⟨count, inner⟩ := ih yields
      refine ⟨count, Finally.of_succ ?_⟩
      apply (condition.eventually.and inner).mono
      rintro depth ⟨decides, run⟩
      exact (consequence_run decides calm _ truthy).trans run
  | alternative condition calm falsy _ ih =>
      obtain ⟨count, inner⟩ := ih yields
      refine ⟨count, Finally.of_succ ?_⟩
      apply (condition.eventually.and inner).mono
      rintro depth ⟨decides, run⟩
      exact (alternative_run decides calm falsy).trans run

section Leaving
variable {scope : ScopeId} {expression : Node} {before mid last : State} {value : Value}

/-- The innermost call ends with the value, whatever statements would have come next. -/
theorem Reaches.ends_call {serial : Nat} {parameters : List String} {body : Node}
    {closure : ScopeId} {arguments : List Value} (arity : arguments.length = parameters.length)
    (path : Reaches (.returnStatement expression) before.scopes.next body
      (before.called closure parameters arguments) mid)
    (yields : Yields expression before.scopes.next mid value last)
    (sound : value.isError = false) :
    ∃ count, Finally fun depth =>
      call depth (.function serial parameters body closure) arguments before =
        some (value, last.bumped.interrupted count) := by
  obtain ⟨count, returns⟩ := path.returns yields sound
  refine ⟨count, ?_⟩
  apply returns.mono
  intro depth run
  rw [call_of_arity_eq arity, run]
  rfl

/-- Outside of calls the program ends with the value. -/
theorem Reaches.ends_program {passed rest : List Node} {statement : Node} {between : State}
    (runs : RunsThrough announced scope 1 passed
      (before.traced (.programStarted (passed ++ statement :: rest).length)) between)
    (path : Reaches (.returnStatement expression) scope statement
      (announced (1 + passed.length) statement between) mid)
    (yields : Yields expression scope mid value last) (sound : value.isError = false) :
    ∃ count, Finally fun depth =>
      evalWithin depth (.program (passed ++ statement :: rest)) scope before =
        some (value, (last.bumped.interrupted count).stepped.traced (.programReturned value)) := by
  obtain ⟨count, returns⟩ := path.returns yields sound
  obtain ⟨result, through⟩ := runs.runProgram .null
  refine ⟨count, Finally.of_succ ?_⟩
  apply (through.and returns).mono
  rintro depth ⟨passes, run⟩
  refine (bind_run_of (trace_run _ _)).trans (passes.trans ((runProgram_settle run).trans ?_))
  exact bind_run_of (trace_run _ _)

end Leaving

open Classical in
/-- A computation that is given up where it ends in a way that is not allowed. -/
noncomputable def ensuring (allowed : Value → State → Prop) (run : Eval Value) : Eval Value :=
  fun before => (run before).filter fun result => allowed result.1 result.2

/-- Evaluation in which the end of the evaluation of each child is watched. -/
noncomputable def watched (allowed : Node → Node → Value → State → Prop) :
    Nat → Node → ScopeId → Eval Value
  | 0, _, _ => exhausted
  | depth + 1, node, scope =>
      evalNode (fun child inner =>
        ensuring (allowed node child) (watched allowed depth child inner)) node scope

/-- No operand has a returned value for its value or inside of it, and nothing bound in the
state is one or has one inside. -/
def KeepsReturnsOut (node child : Node) (value : Value) (after : State) : Prop :=
  (child ∈ node.operands → value.ReturnFree) ∧ after.ReturnFree

namespace Discipline

theorem simulates_ensuring {good : Fixed → Value → State → Value → State → Prop}
    {left right : Eval Value} {first second : State} {allowed : Value → State → Prop}
    (run : Simulates .world left right first second good)
    (ends : ∀ later value after other final, good later value after other final →
      allowed other final) :
    Simulates .world left (ensuring allowed right) first second good := by
  intro value after finished
  obtain ⟨other, final, later, other_run, le, holds⟩ := run value after finished
  refine ⟨other, final, later, ?_, le, holds⟩
  have kept := ends later value after other final holds
  simp [ensuring, other_run, kept]

/-- Both sides end alike, and only statements may end with a returned value. -/
theorem ends {returns : Bool} {value other : Value} {after final : State}
    (meets : invariant.standard.simulation.Meets (invariant.standard.Passed returns) .world value
      after other final) :
    value = other ∧ after = final ∧ final.ReturnFree ∧ (returns = false → other.ReturnFree) := by
  rcases meets with ⟨-, -, same, serial, fault, rfl, also, clean⟩ |
    ⟨-, -, ⟨same, -, passed⟩, also, clean⟩
  · subst same also
    refine ⟨rfl, rfl, State.Throughout.returnFree clean, fun _ => ?_⟩
    exact Value.error_returnFree serial fault
  · subst same also
    refine ⟨rfl, rfl, clean.returnFree, fun operand => ?_⟩
    rcases passed with plain | ⟨returning, -⟩
    · exact Value.Throughout.returnFree plain
    · cases operand.symm.trans returning

/-- Under the discipline the watch never has to give up. -/
theorem matches_watched (depth : Nat) {returns : Bool} {node : Node} {scope : ScopeId}
    {first second : State} (allowed : invariant.standard.node .world returns node scope)
    (held : invariant.standard.state .world first second) :
    invariant.standard.simulation.Matches (invariant.standard.Passed returns) .world
      (evalWithin depth node scope) (watched KeepsReturnsOut depth node scope) first second := by
  induction depth generalizing returns node scope first second with
  | zero =>
      intro value after finished
      cases finished
  | succ depth ih =>
      rcases allowed with ⟨place, fit⟩
      refine lawful.standard.matches_node ?_ ?_ ?_ ⟨place, fit⟩ held
      · intro child member _ after final _ allowed held
        apply Standard.agrees_of_passed
        apply simulates_ensuring (ih allowed held)
        intro _ value after other final meets
        obtain ⟨-, -, clean, free⟩ := ends meets
        exact ⟨fun _ => free rfl, clean⟩
      · intro child member _ after final _ allowed held
        apply simulates_ensuring (ih allowed held)
        intro _ value after other final meets
        obtain ⟨-, -, clean, -⟩ := ends meets
        -- what a statement ends with may be a returned value, but it is no operand
        obtain ⟨inner, -, apart⟩ := Node.fits_step fit child member
        exact ⟨fun operand => absurd operand apart, clean⟩
      · intro _ _ _ body _ inner after final _ known allowed held
        apply simulates_ensuring (ih allowed held)
        intro _ value after other final meets
        obtain ⟨-, -, clean, -⟩ := ends meets
        -- a body is a block, and an operand of a node that fits is an expression
        have block := Value.plain_function.mp known
        have apart : body ∉ node.operands := by
          intro operand
          cases Node.place_unique block (Node.fits_operand fit body operand)
        exact ⟨fun operand => absurd operand apart, clean⟩

theorem program_plain {depth : Nat} {program : Node} {scope : ScopeId} {before after : State}
    {value : Value} (disciplined : program.isDisciplined = true)
    (clean : before.Throughout Value.IsPlain)
    (run : evalWithin depth program scope before = some (value, after)) :
    value.ReturnFree ∧ after.ReturnFree := by
  cases program with
  | program statements =>
      have allowed : invariant.node true (.program statements) scope := ⟨.program, disciplined⟩
      rcases lawful.finished_program allowed clean run with
        ⟨serial, fault, rfl, clean⟩ | ⟨-, clean, plain⟩
      · exact ⟨Value.error_returnFree serial fault, State.Throughout.returnFree clean⟩
      · exact ⟨Value.Throughout.returnFree plain, State.Throughout.returnFree clean⟩
  | ifExpression condition consequence alternative =>
      cases alternative <;> simp [Node.isDisciplined, Node.fits] at disciplined
  | _ => simp [Node.isDisciplined, Node.fits] at disciplined

theorem program_watched {depth : Nat} {program : Node} {scope : ScopeId} {before after : State}
    {value : Value} (disciplined : program.isDisciplined = true)
    (clean : before.Throughout Value.IsPlain)
    (run : evalWithin depth program scope before = some (value, after)) :
    watched KeepsReturnsOut depth program scope before = some (value, after) := by
  have allowed : invariant.standard.node .world true program scope := ⟨.program, disciplined⟩
  have held : invariant.standard.state .world before before := ⟨rfl, clean⟩
  obtain ⟨other, final, _, watched_run, -, meets⟩ :=
    matches_watched depth allowed held value after run
  obtain ⟨same, also, -, -⟩ := ends meets
  rw [watched_run, same, also]

end Discipline

/-- A return in statement position ends the innermost call, or the program, with exactly its
value. Where all returns of a program stand so, no returned value gets anywhere else. -/
theorem statement_returns_leave :
    (∀ serial parameters body closure arguments expression before mid value last,
      arguments.length = parameters.length →
        Reaches (.returnStatement expression) before.scopes.next body
          (before.called closure parameters arguments) mid →
          Yields expression before.scopes.next mid value last → value.isError = false →
            ∃ count, Finally fun depth =>
              call depth (.function serial parameters body closure) arguments before =
                some (value, last.bumped.interrupted count)) ∧
    (∀ passed statement rest scope expression before between mid value last,
      RunsThrough announced scope 1 passed
        (before.traced (.programStarted (passed ++ statement :: rest).length)) between →
        Reaches (.returnStatement expression) scope statement
          (announced (1 + passed.length) statement between) mid →
          Yields expression scope mid value last → value.isError = false →
            ∃ count, Finally fun depth =>
              evalWithin depth (.program (passed ++ statement :: rest)) scope before =
                some (value,
                  (last.bumped.interrupted count).stepped.traced (.programReturned value))) ∧
    ∀ depth program before value after,
      program.isDisciplined = true → before.scopes = State.initial.scopes →
        evalWithin depth program 0 before = some (value, after) →
          watched KeepsReturnsOut depth program 0 before = some (value, after) ∧
            value.ReturnFree ∧ after.ReturnFree := by
  refine ⟨?_, ?_, ?_⟩
  · intro serial parameters body closure arguments expression before mid value last arity path
      yields sound
    exact path.ends_call arity yields sound
  · intro passed statement rest scope expression before between mid value last runs path yields
      sound
    exact path.ends_program runs yields sound
  · intro depth program before value after disciplined fresh run
    have clean : before.Throughout Value.IsPlain := State.initial_throughout.of_scopes fresh
    exact ⟨Discipline.program_watched disciplined clean run,
      Discipline.program_plain disciplined clean run⟩

/-- `if (true) { return 5; }` -/
def returnInBranch : Node :=
  .ifExpression (.booleanLiteral true) (.blockStatement [.returnStatement (.integerLiteral 5)]) none

/-- `let f = fn() { if (true) { return 5; } 7 }; f()` -/
def callOfReturn : Node :=
  .program [.letStatement "f" (.functionLiteral [] (.blockStatement
      [.expressionStatement returnInBranch, .expressionStatement (.integerLiteral 7)])),
    .expressionStatement (.callExpression (.identifier "f") [])]

theorem Reaches.first {goal statement : Node} {rest : List Node} {scope : ScopeId}
    {before mid : State}
    (path : Reaches goal scope statement (before.opened (rest.length + 1)) mid) :
    Reaches goal scope (.blockStatement (statement :: rest)) before mid := by
  have runs : RunsThrough (fun _ _ state => state) scope 1 []
      (before.opened ([] ++ statement :: rest).length) (before.opened (rest.length + 1)) := .nil
  exact .blockStatement runs path

theorem reaches_returnInBranch (scope : ScopeId) (before : State) :
    ∃ mid, Reaches (.returnStatement (.integerLiteral 5)) scope
      (.expressionStatement returnInBranch) before mid :=
  ⟨_, .expressionStatement (.consequence ⟨1, rfl⟩ rfl rfl (.first .here))⟩

/-- The seven that follows is evaluated neither in a function nor in a program. -/
theorem statement_returns_leave_returnInBranch :
    (∃ depth serial after, call depth (.function 0 [] (.blockStatement
        [.expressionStatement returnInBranch, .expressionStatement (.integerLiteral 7)]) 0) []
          State.initial = some (.integer serial 5, after)) ∧
    (∃ depth serial after, evalWithin depth (.program
        [.expressionStatement returnInBranch, .expressionStatement (.integerLiteral 7)]) 0
          State.initial = some (.integer serial 5, after)) ∧
    ∃ value after, evalWithin 10 callOfReturn 0 State.initial = some (value, after) ∧
      watched KeepsReturnsOut 10 callOfReturn 0 State.initial = some (value, after) ∧
        value.ReturnFree ∧ after.ReturnFree := by
  rcases statement_returns_leave with ⟨calls, programs, disciplined⟩
  have yields (scope : ScopeId) (mid : State) :
      Yields (.integerLiteral 5) scope mid (.integer mid.nextSerial 5) mid.bumped := ⟨1, rfl⟩
  refine ⟨?_, ?_, ?_⟩
  · obtain ⟨mid, path⟩ := reaches_returnInBranch State.initial.scopes.next
      ((State.initial.called 0 [] []).opened 2)
    have body : Reaches (.returnStatement (.integerLiteral 5)) State.initial.scopes.next
        (.blockStatement [.expressionStatement returnInBranch,
          .expressionStatement (.integerLiteral 7)])
        (State.initial.called 0 [] []) mid := path.first
    obtain ⟨count, ends⟩ := calls 0 [] _ 0 [] _ State.initial mid _ _ rfl body (yields _ mid) rfl
    rcases ends.exists_depth with ⟨depth, run⟩
    exact ⟨depth, _, _, run⟩
  · obtain ⟨mid, path⟩ := reaches_returnInBranch 0
      (announced 1 (.expressionStatement returnInBranch) (State.initial.traced (.programStarted 2)))
    obtain ⟨count, ends⟩ := programs [] _ [.expressionStatement (.integerLiteral 7)] 0 _
      State.initial _ mid _ _ .nil path (yields 0 mid) rfl
    rcases ends.exists_depth with ⟨depth, run⟩
    exact ⟨depth, _, _, run⟩
  · have run : ∃ value after, evalWithin 10 callOfReturn 0 State.initial = some (value, after) :=
      ⟨_, _, rfl⟩
    rcases run with ⟨value, after, run⟩
    exact ⟨value, after, run, disciplined 10 callOfReturn State.initial value after rfl rfl run⟩

/-- `let x = if (true) { return 5; }; 7` -/
def returnInBinding : Node :=
  .program [.letStatement "x" returnInBranch, .expressionStatement (.integerLiteral 7)]

/-- The program goes on after the return, with `x` bound to the returned value. -/
theorem operand_return_stays :
    returnInBinding.isSurface = true ∧ ∃ serial after,
      evalWithin 6 returnInBinding 0 State.initial = some (.integer serial 7, after) ∧
        ∃ wrapper inner, after.scopes.lookup? 0 "x" = some (.returned wrapper (.integer inner 5)) :=
  ⟨rfl, _, _, rfl, _, _, rfl⟩

end Eval

end MonkeyLang
