import MonkeyLang.Proofs.Returns

/-!
The language with non-local exits. Here a return does not wrap its value but leaves what is
being evaluated, up to the nearest call or the program, which takes the value for its own.
No returned value is ever made; all else goes by the rules of `Eval`.

On disciplined programs the two evaluators cannot be told apart.
-/

namespace MonkeyLang.Eval.Exits

/-- Computations that a return can leave, with the value it returns. -/
abbrev Leaving := ExceptT Value Eval

/-- Leave with a value. An exit is an object, so raising it makes one. -/
def raise (value : Value) : Leaving Value := do
  modify fun state => { state with nextSerial := state.nextSerial + 1 }
  throw value

def operand (sub : Leaving Value) (next : Value → Leaving Value) : Leaving Value := do
  let value ← sub
  if value.isError then return value else next value

def operands (sub : Node → Leaving Value) :
    List Node → (List Value → Leaving Value) → Leaving Value
  | [], next => next []
  | node :: rest, next =>
      operand (sub node) fun value => operands sub rest fun values => next (value :: values)

/-- A program catches the exit, after the statement that was left has been counted. -/
def runProgram (sub : Node → Leaving Value) : Nat → Value → List Node → Leaving Value
  | _, result, [] => do
      trace (.programFinished result)
      return result
  | position, _, statement :: rest => do
      trace (.statementReached position statement.kind)
      let ended ← liftM (sub statement).run
      countStatement
      match ended with
      | .error value =>
          trace (.programReturned value)
          return value
      | .ok (.error serial fault) =>
          trace (.programFailed fault)
          return .error serial fault
      | .ok value => runProgram sub (position + 1) value rest

/-- An exit leaves a block as well, after the statement has been counted. -/
def runBlock (sub : Node → Leaving Value) : Value → List Node → Leaving Value
  | result, [] => return result
  | _, statement :: rest => do
      let ended ← liftM (sub statement).run
      countStatement
      match ended with
      | .error value =>
          trace (.blockInterrupted .returned)
          throw value
      | .ok value =>
          if value.isError then
            trace (.blockInterrupted .error)
            return value
          else
            runBlock sub value rest

def evalPairs (sub : Node → Leaving Value) :
    List (Node × Node) → List (HashKey × Value × Value) → Leaving Value
  | [], entries => makeHash entries
  | (keyNode, valueNode) :: rest, entries =>
      operand (sub keyNode) fun key =>
        match key.hashKey? with
        | none => fail (.notHashable key.tag)
        | some slot =>
            operand (sub valueNode) fun value =>
              evalPairs sub rest (Assoc.insert slot (key, value) entries)

/-- A call catches the exit, and there is no wrapper to take off. -/
def applyFunction (recur : Node → ScopeId → Leaving Value) (callee : Value)
    (arguments : List Value) : Leaving Value :=
  match callee with
  | .function _ parameters body closure => do
      count fun counters => { counters with functionCalls := counters.functionCalls + 1 }
      if arguments.length ≠ parameters.length then
        fail (.wrongArity arguments.length parameters.length)
      else
        let inner ← enter closure (parameters.zip arguments)
        trace (.parametersBound parameters)
        match ← liftM (recur body inner).run with
        | .ok value => return value
        | .error value => return value
  | .builtin builtin => do
      count fun counters => { counters with builtinCalls := counters.builtinCalls + 1 }
      trace (.builtinCalled builtin.name)
      applyBuiltin builtin arguments
  | .failing _ name detail => do
      count fun counters => { counters with builtinCalls := counters.builtinCalls + 1 }
      trace (.builtinCalled name)
      alarm (.builtinRaised name)
      fail (.builtinRaised detail)
  | value => fail (.notCallable value.tag)

def evalNode (recur : Node → ScopeId → Leaving Value) (node : Node) (scope : ScopeId) :
    Leaving Value :=
  let sub := fun child => recur child scope
  match node with
  | .program statements => do
      trace (.programStarted statements.length)
      runProgram sub 1 .null statements
  | .expressionStatement expression => sub expression
  | .blockStatement statements => do
      trace (.blockStarted statements.length)
      count fun counters =>
        { counters with largestBlock := max counters.largestBlock statements.length }
      runBlock sub .null statements
  | .returnStatement value => operand (sub value) raise
  | .letStatement name value => do
      trace (.bindingStarted name)
      operand (sub value) fun value => do
        bind scope name value
        return .null
  | .identifier name => evalIdentifier name scope
  | .integerLiteral value => makeInteger value
  | .stringLiteral text => makeString text
  | .booleanLiteral value => return .boolean value
  | .prefixExpression operator right => do
      trace (.prefixStarted operator)
      operand (sub right) fun right => applyPrefix operator right
  | .infixExpression left operator right => do
      trace (.infixStarted operator)
      operand (sub left) fun left =>
        operand (sub right) fun right => applyInfix operator left right
  | .ifExpression condition consequence alternative => do
      trace .conditionStarted
      operand (sub condition) fun condition => do
        if condition.isTruthy then
          trace .consequenceTaken
          sub consequence
        else
          match alternative with
          | some alternative =>
              trace .alternativeTaken
              sub alternative
          | none =>
              trace .noAlternative
              return .null
  | .functionLiteral parameters body =>
      make fun serial => .function serial parameters body scope
  | .callExpression callee arguments => do
      trace (.callStarted callee)
      operand (sub callee) fun callee =>
        operands sub arguments fun arguments => do
          trace (.argumentsReady arguments.length)
          applyFunction recur callee arguments
  | .arrayLiteral elements => operands sub elements fun values => makeArray values
  | .indexExpression left index =>
      operand (sub left) fun left => operand (sub index) fun index => applyIndex left index
  | .hashLiteral pairs => do
      trace (.hashStarted pairs.length)
      evalPairs sub pairs []
  | .unknown name => do
      report (.unknownNodeReached name)
      fail (.unknownNode name)

def evalWithin : Nat → Node → ScopeId → Leaving Value
  | 0, _, _ => liftM (exhausted : Eval Value)
  | depth + 1, node, scope => evalNode (evalWithin depth) node scope

def evaluate (depth : Nat) (node : Node) (scope : ScopeId) (verbose : Bool) : Leaving Value := do
  let level := (← get).level
  if verbose then modify fun state => { state with level := .debug }
  let value ← evalWithin depth node scope
  modify fun state => { state with level }
  return value

/-- What becomes of a value that is handed on. A returned value has left already. -/
def outcome : Value → Except Value Value
  | .returned _ inner => .error inner
  | value => .ok value

/-- Exits on the right stand for returned values on the left, and all else is the same. -/
def Mirrors (left : Eval Value) (right : Leaving Value) (before : State) : Prop :=
  right.run before = (left before).map fun result => (outcome result.1, result.2)

/-- A mirrored operand, which ends with an error or without any returned value about. -/
def MirrorsOperand (left : Eval Value) (right : Leaving Value) (before : State) : Prop :=
  Mirrors left right before ∧ ∀ value after, left before = some (value, after) →
    value.isError = true ∨ value.Throughout Value.IsPlain ∧ after.Throughout Value.IsPlain

/-- A mirrored statement. It may end with a returned value as well. -/
def MirrorsStep (left : Eval Value) (right : Leaving Value) (before : State) : Prop :=
  Mirrors left right before ∧ ∀ value after, left before = some (value, after) →
    value.isError = true ∨
      (∃ serial inner, value = .returned serial inner ∧ inner.tag ≠ .returned) ∨
        value.Throughout Value.IsPlain ∧ after.Throughout Value.IsPlain

theorem outcome_of_tag {value : Value} (other : value.tag ≠ .returned) :
    outcome value = .ok value := by
  cases value with
  | returned serial inner => exact absurd rfl other
  | _ => rfl

theorem outcome_of_error {value : Value} (failure : value.isError = true) :
    outcome value = .ok value := by
  obtain ⟨serial, fault, rfl⟩ := Value.eq_error failure
  rfl

section Rules
variable {left : Eval Value} {right : Leaving Value} {before : State}

theorem Mirrors.run_none (mirrors : Mirrors left right before) (stuck : left before = none) :
    right.run before = none := by
  rw [mirrors, stuck]
  rfl

theorem Mirrors.run_some (mirrors : Mirrors left right before) {value : Value} {after : State}
    (run : left before = some (value, after)) : right.run before = some (outcome value, after) := by
  rw [mirrors, run]
  rfl

/-- A computation that no exit leaves. -/
theorem Mirrors.lift {other : Eval Value} (same : other before = left before)
    (calm : ∀ value after, left before = some (value, after) → outcome value = .ok value) :
    Mirrors left (liftM other) before := by
  show (other before).bind _ = _
  rw [same]
  cases run : left before with
  | none => rfl
  | some result =>
      show some (Except.ok result.1, result.2) = some (outcome result.1, result.2)
      rw [calm result.1 result.2 run]

theorem Mirrors.pure {value : Value} (calm : outcome value = .ok value) :
    Mirrors (pure value) (pure value) before := by
  show some (Except.ok value, before) = some (outcome value, before)
  rw [calm]

/-- Operations give no returned value when they were given none. -/
theorem Mirrors.of_agrees
    (agrees : Discipline.invariant.standard.Agrees .world left left before before) :
    Mirrors left (liftM left) before := by
  apply Mirrors.lift rfl
  intro value after run
  obtain ⟨other, final, _, run', -, meets⟩ := agrees value after run
  rw [run] at run'
  cases run'
  rcases meets with ⟨failure, -, -⟩ | ⟨-, -, ⟨-, -, plain⟩, -⟩
  · exact outcome_of_error failure
  · exact outcome_of_tag (Value.Throughout.whole plain).1

theorem Mirrors.step {α : Type} {head : Eval α} {next : α → Eval Value}
    {next' : α → Leaving Value} {value : α} {after : State}
    (run : head before = some (value, after)) (tail : Mirrors (next value) (next' value) after) :
    Mirrors (head >>= next) (liftM head >>= next') before := by
  rw [Mirrors, run_bind_lift run, bind_run_of run]
  exact tail

/-- What a computation does that no exit leaves, and what is done with its value. -/
theorem Mirrors.bind {next : Value → Eval Value} {next' : Value → Leaving Value}
    (head : Mirrors left right before)
    (rest : ∀ value after, left before = some (value, after) →
      outcome value = .ok value ∧ Mirrors (next value) (next' value) after) :
    Mirrors (left >>= next) (right >>= next') before := by
  cases run : left before with
  | none =>
      rw [Mirrors, bind_run_none run, run_bind_none (head.run_none run)]
      rfl
  | some result =>
      rcases result with ⟨value, after⟩
      obtain ⟨calm, tail⟩ := rest value after run
      have run' := head.run_some run
      rw [calm] at run'
      rw [Mirrors, bind_run_of run, run_bind_ok run']
      exact tail

theorem Mirrors.operand {next : Value → Eval Value} {next' : Value → Leaving Value}
    (head : MirrorsOperand left right before)
    (rest : ∀ value after, value.isError = false → value.Throughout Value.IsPlain →
      after.Throughout Value.IsPlain → Mirrors (next value) (next' value) after) :
    Mirrors (Eval.operand left next) (operand right next') before := by
  rcases head with ⟨mirrors, ends⟩
  apply Mirrors.bind mirrors
  intro value after run
  by_cases failure : value.isError = true
  · have calm := outcome_of_error failure
    rw [if_pos failure, if_pos failure]
    exact ⟨calm, .pure calm⟩
  · obtain ⟨plain, clean⟩ := (ends value after run).resolve_left failure
    rw [if_neg failure, if_neg failure]
    exact ⟨outcome_of_tag plain.whole.1,
      rest value after (Bool.eq_false_iff.mpr failure) plain clean⟩

theorem Mirrors.operands {left : Node → Eval Value} {right : Node → Leaving Value}
    {nodes : List Node} {next : List Value → Eval Value} {next' : List Value → Leaving Value}
    (each : ∀ node ∈ nodes, ∀ state, state.Throughout Value.IsPlain →
      MirrorsOperand (left node) (right node) state)
    (rest : ∀ values after,
      (∀ value ∈ values, value.isError = false ∧ value.Throughout Value.IsPlain) →
        after.Throughout Value.IsPlain → Mirrors (next values) (next' values) after)
    (clean : before.Throughout Value.IsPlain) :
    Mirrors (Eval.operands left nodes next) (operands right nodes next') before := by
  induction nodes generalizing next next' before with
  | nil => exact rest [] before (by simp) clean
  | cons node others ih =>
      apply Mirrors.operand (each node (by simp) before clean)
      intro value after sound plain clean
      apply ih (fun other member => each other (List.mem_cons_of_mem _ member)) _ clean
      intro values last plains clean
      exact rest (value :: values) last (List.forall_mem_cons.mpr ⟨⟨sound, plain⟩, plains⟩) clean

theorem Mirrors.pairs {left : Node → Eval Value} {right : Node → Leaving Value}
    {pairs : List (Node × Node)} {entries : List (HashKey × Value × Value)}
    (each : ∀ node ∈ pairs.flatMap fun pair => [pair.1, pair.2], ∀ state,
      state.Throughout Value.IsPlain → MirrorsOperand (left node) (right node) state)
    (clean : before.Throughout Value.IsPlain) :
    Mirrors (Eval.evalPairs left pairs entries) (evalPairs right pairs entries) before := by
  induction pairs generalizing entries before with
  | nil =>
      apply Mirrors.lift rfl
      rintro value after run
      cases run
      rfl
  | cons pair rest ih =>
      rcases pair with ⟨keyNode, valueNode⟩
      apply Mirrors.operand (each keyNode (by simp) before clean)
      intro key between _ _ clean
      cases key.hashKey? with
      | none => exact .of_agrees (Discipline.lawful.standard.agrees_fail _ ⟨rfl, clean⟩)
      | some slot =>
          apply Mirrors.operand (each valueNode (by simp) between clean)
          intro value after _ _ clean
          exact ih (fun node member => each node (List.mem_append_right _ member)) clean

/-- What comes after a statement was counted is told whether an exit has left it. -/
theorem Mirrors.statement {next : Value → Eval Value} {next' : Except Value Value → Leaving Value}
    (head : Mirrors left right before)
    (rest : ∀ value after, left before = some (value, after) →
      Mirrors (next value) (next' (outcome value)) after.stepped) :
    Mirrors (do let value ← left; countStatement; next value)
      (do let ended ← liftM right.run; countStatement; next' ended) before := by
  cases run : left before with
  | none =>
      rw [Mirrors, bind_run_none run, run_bind_stuck (head.run_none run)]
      rfl
  | some result =>
      rcases result with ⟨value, after⟩
      rw [Mirrors, bind_run_of run, bind_run_of (countStatement_run _),
        run_bind_lift (head.run_some run), run_bind_lift (countStatement_run _)]
      exact rest value after run

theorem Mirrors.block {left : Node → Eval Value} {right : Node → Leaving Value}
    {statements : List Node} {result : Value}
    (each : ∀ statement ∈ statements, ∀ state, state.Throughout Value.IsPlain →
      MirrorsStep (left statement) (right statement) state)
    (plain : result.Throughout Value.IsPlain) (clean : before.Throughout Value.IsPlain) :
    Mirrors (Eval.runBlock left result statements) (runBlock right result statements) before := by
  induction statements generalizing result before with
  | nil => exact .pure (outcome_of_tag plain.whole.1)
  | cons statement rest ih =>
      obtain ⟨mirrors, ends⟩ := each statement (by simp) before clean
      apply Mirrors.statement mirrors
      intro value after run
      -- a returned value interrupts the block on the left, and an exit leaves it on the right
      cases value with
      | returned serial inner => exact .step (trace_run _ _) rfl
      | error serial fault => exact .step (trace_run _ _) rfl
      | _ =>
          rcases ends _ after run with ⟨⟨⟩⟩ | ⟨_, _, ⟨⟩, _⟩ | ⟨plain, clean⟩
          exact ih (fun other member => each other (List.mem_cons_of_mem _ member)) plain clean

/-- A program takes the value of an exit, where it took a value out of its wrapper. -/
theorem Mirrors.program {left : Node → Eval Value} {right : Node → Leaving Value}
    {statements : List Node} {position : Nat} {result : Value}
    (each : ∀ statement ∈ statements, ∀ state, state.Throughout Value.IsPlain →
      MirrorsStep (left statement) (right statement) state)
    (plain : result.Throughout Value.IsPlain) (clean : before.Throughout Value.IsPlain) :
    Mirrors (Eval.runProgram left position result statements)
      (runProgram right position result statements) before := by
  induction statements generalizing position result before with
  | nil => exact .step (trace_run _ _) (.pure (outcome_of_tag plain.whole.1))
  | cons statement rest ih =>
      rw [runProgram_cons]
      apply Mirrors.step (trace_run _ _)
      obtain ⟨mirrors, ends⟩ := each statement (by simp) _ (clean.traced _)
      apply Mirrors.statement mirrors
      intro value after run
      -- the wrapped value is not itself wrapped, so that it is a value on the right as well
      cases value with
      | returned serial inner =>
          apply Mirrors.step (trace_run _ _)
          rcases ends _ after run with ⟨⟨⟩⟩ | ⟨_, _, same, other⟩ | ⟨plain, -⟩
          · cases same
            exact .pure (outcome_of_tag other)
          · exact absurd rfl plain.whole.1
      | error serial fault => exact .step (trace_run _ _) (.pure rfl)
      | _ =>
          rcases ends _ after run with ⟨⟨⟩⟩ | ⟨_, _, ⟨⟩, _⟩ | ⟨plain, clean⟩
          exact ih (fun other member => each other (List.mem_cons_of_mem _ member)) plain clean

theorem Mirrors.caught (body : MirrorsStep left right before) :
    Mirrors (do let result ← left; return result.unwrapped) (do
      match ← liftM right.run with
      | .ok value => return value
      | .error value => return value) before := by
  rcases body with ⟨mirrors, ends⟩
  cases run : left before with
  | none =>
      rw [Mirrors, bind_run_none run, run_bind_stuck (mirrors.run_none run)]
      rfl
  | some result =>
      rcases result with ⟨value, after⟩
      rw [Mirrors, bind_run_of run, run_bind_lift (mirrors.run_some run)]
      cases value with
      | returned serial inner =>
          rcases ends _ after run with ⟨⟨⟩⟩ | ⟨_, _, same, other⟩ | ⟨plain, -⟩
          · cases same
            exact Mirrors.pure (outcome_of_tag other)
          · exact absurd rfl plain.whole.1
      | _ => rfl

theorem Mirrors.call {left : Node → ScopeId → Eval Value} {right : Node → ScopeId → Leaving Value}
    {callee : Value} {arguments : List Value}
    (bodies : ∀ body inner state, body.fits false .block true = true →
      state.Throughout Value.IsPlain → MirrorsStep (left body inner) (right body inner) state)
    (plain : callee.Throughout Value.IsPlain)
    (plains : ∀ value ∈ arguments, value.isError = false ∧ value.Throughout Value.IsPlain)
    (clean : before.Throughout Value.IsPlain) :
    Mirrors (Eval.applyFunction left callee arguments) (applyFunction right callee arguments)
      before := by
  have fails (fault : Fault) (state : State) (clean : state.Throughout Value.IsPlain) :
      Mirrors (fail fault) (liftM (fail fault)) state :=
    .of_agrees (Discipline.lawful.standard.agrees_fail fault ⟨rfl, clean⟩)
  cases callee with
  | function serial parameters body closure =>
      apply Mirrors.step (count_run _ _)
      by_cases arity : arguments.length ≠ parameters.length
      · rw [if_pos arity, if_pos arity]
        exact fails _ _ clean
      · rw [if_neg arity, if_neg arity]
        apply Mirrors.step (enter_run _ _ _)
        apply Mirrors.step (trace_run _ _)
        have fresh : ∀ binding ∈ parameters.zip arguments, binding.2.Throughout Value.IsPlain :=
          fun binding member => (plains binding.2 (List.of_mem_zip member).2).2
        exact Mirrors.caught (bodies body _ _ (Value.plain_function.mp plain)
          (((clean.counted _).entered closure fresh).traced _))
  | builtin builtin =>
      apply Mirrors.step (count_run _ _)
      apply Mirrors.step (trace_run _ _)
      exact .of_agrees (Discipline.lawful.standard.agrees_builtin plain plains
        ⟨rfl, (clean.counted _).traced _⟩)
  | failing serial name detail =>
      apply Mirrors.step (count_run _ _)
      apply Mirrors.step (trace_run _ _)
      apply Mirrors.step (alarm_run _ _)
      exact fails _ _ (((clean.counted _).traced _).alarmed _)
  | _ => exact fails _ _ clean

/-- Evaluators that mirror each other on the parts of a disciplined node, and on disciplined
bodies, do so on the node. -/
theorem Mirrors.node {left : Node → ScopeId → Eval Value} {right : Node → ScopeId → Leaving Value}
    {node : Node} {scope : ScopeId} {place : Place} {returns : Bool}
    (fit : node.fits false place returns = true)
    (operands : ∀ child ∈ node.operands, ∀ state, state.Throughout Value.IsPlain →
      MirrorsOperand (left child scope) (right child scope) state)
    (steps : ∀ child ∈ node.steps, ∀ state, state.Throughout Value.IsPlain →
      MirrorsStep (left child scope) (right child scope) state)
    (bodies : ∀ body inner state, body.fits false .block true = true →
      state.Throughout Value.IsPlain → MirrorsStep (left body inner) (right body inner) state)
    (clean : before.Throughout Value.IsPlain) :
    Mirrors (Eval.evalNode left node scope) (evalNode right node scope) before := by
  have null : Value.null.Throughout Value.IsPlain := Value.plain_atom trivial (by simp [Value.tag])
  have made (build : Nat → Value) (state : State) (calm : ∀ serial, outcome (build serial) =
      .ok (build serial)) : Mirrors (make build) (liftM (make build)) state := by
    apply Mirrors.lift rfl
    intro value after run
    cases run
    exact calm _
  cases node with
  | program statements =>
      exact .step (trace_run _ _) (.program steps null (clean.traced _))
  | letStatement name value =>
      apply Mirrors.step (trace_run _ _)
      apply Mirrors.operand (operands value (by simp [Node.operands]) _ (clean.traced _))
      intro value after _ _ _
      exact .step (bind_run _ _ _ _) (.pure rfl)
  | returnStatement value =>
      apply Mirrors.operand (operands value (by simp [Node.operands]) _ clean)
      intro value after _ _ _
      -- the wrapper is made on the left when the exit is raised on the right
      rfl
  | expressionStatement expression =>
      exact (steps expression (by simp [Node.steps]) _ clean).1
  | blockStatement statements =>
      apply Mirrors.step (trace_run _ _)
      apply Mirrors.step (count_run _ _)
      exact .block steps null ((clean.traced _).counted _)
  | identifier name =>
      exact .of_agrees (Discipline.lawful.standard.agrees_identifier ⟨place, fit⟩ ⟨rfl, clean⟩)
  | integerLiteral value => exact made _ _ fun _ => rfl
  | stringLiteral text => exact made _ _ fun _ => rfl
  | booleanLiteral value => exact .pure rfl
  | prefixExpression operator right =>
      apply Mirrors.step (trace_run _ _)
      apply Mirrors.operand (operands right (by simp [Node.operands]) _ (clean.traced _))
      intro value after _ _ clean
      exact .of_agrees (Discipline.lawful.standard.agrees_prefix operator value ⟨rfl, clean⟩)
  | infixExpression first operator second =>
      apply Mirrors.step (trace_run _ _)
      apply Mirrors.operand (operands first (by simp [Node.operands]) _ (clean.traced _))
      intro value after _ _ clean
      apply Mirrors.operand (operands second (by simp [Node.operands]) _ clean)
      intro other last _ _ clean
      exact .of_agrees (Discipline.lawful.standard.agrees_infix operator value other ⟨rfl, clean⟩)
  | ifExpression condition consequence alternative =>
      apply Mirrors.step (trace_run _ _)
      apply Mirrors.operand (operands condition (by simp [Node.operands]) _ (clean.traced _))
      intro value after _ _ clean
      cases value.isTruthy with
      | true =>
          exact .step (trace_run _ _)
            (steps consequence (by simp [Node.steps]) _ (clean.traced _)).1
      | false =>
          cases alternative with
          | none => exact .step (trace_run _ _) (.pure rfl)
          | some alternative =>
              exact .step (trace_run _ _)
                (steps alternative (by simp [Node.steps]) _ (clean.traced _)).1
  | functionLiteral parameters body => exact made _ _ fun _ => rfl
  | callExpression callee arguments =>
      apply Mirrors.step (trace_run _ _)
      apply Mirrors.operand (operands callee (by simp [Node.operands]) _ (clean.traced _))
      intro function after _ plain clean
      apply Mirrors.operands _ _ clean
      · intro node member
        exact operands node (by simp [Node.operands, member])
      · intro values last plains clean
        exact .step (trace_run _ _) (.call bodies plain plains (clean.traced _))
  | arrayLiteral elements =>
      apply Mirrors.operands operands _ clean
      intro values after _ _
      exact made _ _ fun _ => rfl
  | indexExpression first second =>
      apply Mirrors.operand (operands first (by simp [Node.operands]) _ clean)
      intro value after _ plain clean
      apply Mirrors.operand (operands second (by simp [Node.operands]) _ clean)
      intro index last _ _ clean
      exact .of_agrees (Discipline.lawful.standard.agrees_index plain ⟨rfl, clean⟩)
  | hashLiteral pairs =>
      exact .step (trace_run _ _) (.pairs operands (clean.traced _))
  -- the discipline is for nodes that the language has
  | unknown name => cases fit

end Rules

theorem mirrors_evalWithin (depth : Nat) {node : Node} {scope : ScopeId} {place : Place}
    {returns : Bool} {before : State} (fit : node.fits false place returns = true)
    (clean : before.Throughout Value.IsPlain) :
    Mirrors (Eval.evalWithin depth node scope) (evalWithin depth node scope) before := by
  -- how the parts end is known already, so that the induction is about the equation alone
  induction depth generalizing node scope place returns before with
  | zero => rfl
  | succ depth ih =>
      have ends {child : Node} {inner : ScopeId} {place : Place} {returns : Bool} {state : State}
          (fit : child.fits false place returns = true) (clean : state.Throughout Value.IsPlain) :
          MirrorsStep (Eval.evalWithin depth child inner) (evalWithin depth child inner) state := by
        refine ⟨ih fit clean, fun value after run => ?_⟩
        rcases Discipline.finished fit clean run with
          failure | ⟨-, serial, inner, same, plain⟩ | plain
        · exact .inl failure
        · exact .inr (.inl ⟨serial, inner, same, plain.whole.1⟩)
        · exact .inr (.inr plain)
      apply Mirrors.node fit _ _ _ clean
      · intro child member state clean
        have fit := Node.fits_operand fit child member
        refine ⟨ih fit clean, fun value after run => ?_⟩
        rcases Discipline.finished fit clean run with failure | ⟨⟨⟩, -⟩ | plain
        · exact .inl failure
        · exact .inr plain
      · intro child member state clean
        obtain ⟨inner, fit, -⟩ := Node.fits_step fit child member
        exact ends fit clean
      · intro body inner state fit clean
        exact ends fit clean

theorem evaluate_disciplined (depth : Nat) {program : Node} {scope : ScopeId} {verbose : Bool}
    {before : State} (disciplined : program.isDisciplined = true)
    (clean : before.Throughout Value.IsPlain) :
    (evaluate depth program scope verbose).run before =
      (Eval.evaluate depth program scope verbose before).map fun result =>
        (.ok result.1, result.2) := by
  have inner {start : State} (clean : start.Throughout Value.IsPlain) :
      (evalWithin depth program scope).run start =
        (Eval.evalWithin depth program scope start).map fun result => (.ok result.1, result.2) := by
    have mirrors : Mirrors (Eval.evalWithin depth program scope) (evalWithin depth program scope)
        start := mirrors_evalWithin depth disciplined clean
    cases run : Eval.evalWithin depth program scope start with
    | none => exact mirrors.run_none run
    | some result =>
        have free := (Discipline.program_plain disciplined clean run).1
        rw [mirrors.run_some run, outcome_of_tag free.whole]
        rfl
  rw [evaluate_run]
  cases verbose with
  | true =>
      have loud : State.Throughout Value.IsPlain { before with level := .debug } := clean
      show ((evalWithin depth program scope).run { before with level := .debug }).bind _ = _
      rw [inner loud, if_pos rfl]
      cases Eval.evalWithin depth program scope { before with level := .debug } <;> rfl
  | false =>
      show ((evalWithin depth program scope).run before).bind _ = _
      rw [inner clean, if_neg Bool.false_ne_true]
      cases Eval.evalWithin depth program scope before <;> rfl

/-- The two evaluators finish on the same disciplined programs, with the same values and in
the same states: the bindings of all scopes, the counters and the log. -/
theorem exits_indistinguishable {program : Node} {verbose : Bool} {before : State}
    (disciplined : program.isDisciplined = true)
    (fresh : before.scopes = State.initial.scopes) :
    ((∃ depth value after, Eval.evaluate depth program 0 verbose before = some (value, after)) ↔
      ∃ depth ended after,
        (evaluate depth program 0 verbose).run before = some (ended, after)) ∧
    ∀ depth value after more ended final,
      Eval.evaluate depth program 0 verbose before = some (value, after) →
        (evaluate more program 0 verbose).run before = some (ended, final) →
          ended = .ok value ∧ final = after := by
  have clean : before.Throughout Value.IsPlain := State.initial_throughout.of_scopes fresh
  constructor
  · constructor
    · rintro ⟨depth, value, after, run⟩
      refine ⟨depth, .ok value, after, ?_⟩
      rw [evaluate_disciplined depth disciplined clean, run]
      rfl
    · rintro ⟨depth, ended, after, run⟩
      rw [evaluate_disciplined depth disciplined clean, Option.map_eq_some_iff] at run
      rcases run with ⟨⟨value, last⟩, run, -⟩
      exact ⟨depth, value, last, run⟩
  · intro depth value after more ended final run exits
    rw [evaluate_disciplined more disciplined clean, Option.map_eq_some_iff] at exits
    rcases exits with ⟨⟨other, last⟩, run', finish⟩
    obtain ⟨same, also⟩ := evaluate_unique run run'
    cases same
    cases also
    cases finish
    exact ⟨rfl, rfl⟩

/-- The call of a function that returns from a branch. -/
theorem exits_indistinguishable_callOfReturn :
    callOfReturn.isDisciplined = true ∧ ∃ serial after,
      Eval.evaluate 10 callOfReturn 0 true State.initial = some (.integer serial 5, after) ∧
        (evaluate 10 callOfReturn 0 true).run State.initial =
          some (.ok (.integer serial 5), after) := by
  have run : ∃ serial after, Eval.evaluate 10 callOfReturn 0 true State.initial =
      some (.integer serial 5, after) := ⟨_, _, rfl⟩
  rcases run with ⟨serial, after, run⟩
  have exits : ∃ ended final, (evaluate 10 callOfReturn 0 true).run State.initial =
      some (ended, final) := ⟨_, _, rfl⟩
  rcases exits with ⟨ended, final, exits⟩
  obtain ⟨-, agree⟩ := @exits_indistinguishable callOfReturn true State.initial rfl rfl
  obtain ⟨same, also⟩ := agree 10 _ _ 10 _ _ run exits
  subst same also
  exact ⟨rfl, serial, final, run, exits⟩

end MonkeyLang.Eval.Exits
