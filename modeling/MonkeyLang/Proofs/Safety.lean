import MonkeyLang.Proofs.Depth
import MonkeyLang.Proofs.Guarded
import MonkeyLang.Proofs.Hereditary

/-!
The evaluator that takes nothing for granted. It goes by the rules of `Eval` but with guarded
operations, and the host stops where a node of an unknown kind is reached or where a function of
the host fails. On a tree that some document describes the host never stops, whatever values come
together in a run, however deep it goes and whether or not it ends.
-/

namespace MonkeyLang

/-- How the messages of all errors but one begin. -/
def errorOpenings : List String :=
  ["type mismatch: ", "unknown operator: ", "identifier not found: ", "not a function: ",
    "index operator not supported: ", "unusable as hash key: ",
    "wrong number of arguments. got=", "argument to `"]

/-- The messages of errors in programs that come from documents. -/
def IsErrorMessage (message : String) : Prop :=
  message = "division by zero" ∨ ∃ opening ∈ errorOpenings, ∃ rest, message = opening ++ rest

theorem Fault.message_of_isForeseen {fault : Fault} (foreseen : fault.isForeseen = true) :
    IsErrorMessage fault.message := by
  have opens {opening : String} (member : opening ∈ errorOpenings) (rest : String) :
      IsErrorMessage (opening ++ rest) := .inr ⟨opening, member, rest, rfl⟩
  unfold message
  cases fault with
  | divisionByZero => exact .inl rfl
  | wrongArity got want =>
      show IsErrorMessage
        ("wrong number of arguments. got=" ++ toString got ++ ", want=" ++ toString want)
      rw [String.append_assoc, String.append_assoc]
      exact opens (by simp [errorOpenings]) _
  | notMeasurable found =>
      have split : "argument to `len` not supported, got " =
          "argument to `" ++ "len` not supported, got " := by simp
      show IsErrorMessage ("argument to `len` not supported, got " ++ found.name)
      rw [split, String.append_assoc]
      exact opens (by simp [errorOpenings]) _
  | builtinRaised detail => cases foreseen
  | unknownNode name => cases foreseen
  | stated message => cases foreseen
  | _ =>
      simp only [String.append_assoc]
      exact opens (by simp [errorOpenings]) _

namespace Eval.Guarded

def operand (sub : Checked Value) (next : Value → Checked Value) : Checked Value := do
  let value ← sub
  if value.isError then return value else next value

def operands (sub : Node → Checked Value) :
    List Node → (List Value → Checked Value) → Checked Value
  | [], next => next []
  | node :: rest, next =>
      operand (sub node) fun value => operands sub rest fun values => next (value :: values)

def runProgram (sub : Node → Checked Value) : Nat → Value → List Node → Checked Value
  | _, result, [] => do
      trace (.programFinished result)
      return result
  | position, _, statement :: rest => do
      trace (.statementReached position statement.kind)
      let value ← sub statement
      countStatement
      match value with
      | .returned _ inner =>
          trace (.programReturned inner)
          return inner
      | .error serial fault =>
          trace (.programFailed fault)
          return .error serial fault
      | value => runProgram sub (position + 1) value rest

def runBlock (sub : Node → Checked Value) : Value → List Node → Checked Value
  | result, [] => return result
  | _, statement :: rest => do
      let value ← sub statement
      countStatement
      if value.isInterrupt then
        trace (.blockInterrupted value.tag)
        return value
      else
        runBlock sub value rest

/-- A key is looked at before its value is evaluated, and taken apart after that. -/
def evalPairs (sub : Node → Checked Value) :
    List (Node × Node) → List (HashKey × Value × Value) → Checked Value
  | [], entries => makeHash entries
  | (keyNode, valueNode) :: rest, entries =>
      operand (sub keyNode) fun key =>
        if key.isHashable then
          operand (sub valueNode) fun value => do
            let slot ← part Value.hashKey? key
            evalPairs sub rest (Assoc.insert slot (key, value) entries)
        else fail (.notHashable key.tag)

def applyFunction (recur : Node → ScopeId → Checked Value) (callee : Value)
    (arguments : List Value) : Checked Value :=
  match callee with
  | .function _ parameters body closure => do
      count fun counters => { counters with functionCalls := counters.functionCalls + 1 }
      if arguments.length ≠ parameters.length then
        fail (.wrongArity arguments.length parameters.length)
      else
        let inner ← enter closure (parameters.zip arguments)
        trace (.parametersBound parameters)
        let result ← recur body inner
        return result.unwrapped
  | .builtin builtin => do
      count fun counters => { counters with builtinCalls := counters.builtinCalls + 1 }
      trace (.builtinCalled builtin.name)
      applyBuiltin builtin arguments
  | .failing _ name _ => do
      count fun counters => { counters with builtinCalls := counters.builtinCalls + 1 }
      trace (.builtinCalled name)
      throw (.builtinRaised name)
  | value => fail (.notCallable value.tag)

def evalNode (recur : Node → ScopeId → Checked Value) (node : Node) (scope : ScopeId) :
    Checked Value :=
  let sub := fun child => recur child scope
  match node with
  | .program statements => do
      trace (.programStarted statements.length)
      runProgram sub 1 .null statements
  | .expressionStatement expression => sub expression
  | .blockStatement statements => do
      trace (.blockStarted statements.length)
      count fun counters =>
        { counters with largestBlock := max counters.largestBlock statements.length }
      runBlock sub .null statements
  | .returnStatement value =>
      operand (sub value) fun value => make fun serial => .returned serial value
  | .letStatement name value => do
      trace (.bindingStarted name)
      operand (sub value) fun value => do
        bind scope name value
        return .null
  | .identifier name => evalIdentifier name scope
  | .integerLiteral value => makeInteger value
  | .stringLiteral text => makeString text
  | .booleanLiteral value => return .boolean value
  | .prefixExpression operator right => do
      trace (.prefixStarted operator)
      operand (sub right) fun right => applyPrefix operator right
  | .infixExpression left operator right => do
      trace (.infixStarted operator)
      operand (sub left) fun left =>
        operand (sub right) fun right => applyInfix operator left right
  | .ifExpression condition consequence alternative => do
      trace .conditionStarted
      operand (sub condition) fun condition => do
        if condition.isTruthy then
          trace .consequenceTaken
          sub consequence
        else
          match alternative with
          | some alternative =>
              trace .alternativeTaken
              sub alternative
          | none =>
              trace .noAlternative
              return .null
  | .functionLiteral parameters body =>
      make fun serial => .function serial parameters body scope
  | .callExpression callee arguments => do
      trace (.callStarted callee)
      operand (sub callee) fun callee =>
        operands sub arguments fun arguments => do
          trace (.argumentsReady arguments.length)
          applyFunction recur callee arguments
  | .arrayLiteral elements => operands sub elements fun values => makeArray values
  | .indexExpression left index =>
      operand (sub left) fun left => operand (sub index) fun index => applyIndex left index
  | .hashLiteral pairs => do
      trace (.hashStarted pairs.length)
      evalPairs sub pairs []
  | .unknown name => throw (.unknownNode name)

def evalWithin : Nat → Node → ScopeId → Checked Value
  | 0, _, _ => liftM (exhausted : Eval Value)
  | depth + 1, node, scope => evalNode (evalWithin depth) node scope

/-- The level of the log is afterwards what it was before, also if the host stops. -/
def evaluate (depth : Nat) (node : Node) (scope : ScopeId) (verbose : Bool) : Checked Value :=
  .mk do
    let level := (← get).level
    if verbose then modify fun state => { state with level := .debug }
    let ended ← (evalWithin depth node scope).run
    modify fun state => { state with level }
    return ended

/-- What values are made of that come up in a run. -/
theorem isRegular_hereditary :
    Hereditary Value.IsRegular fun node => node.wellFormed = true where
  containers := Value.isRegular_containers
  returned _ _ := trivial
  null := trivial
  boolean _ := trivial
  string _ _ := trivial
  wrapped _ _ := trivial
  measured _ _ _ := trivial
  integer _ _ := trivial
  builtin _ _ := trivial
  function _ _ formed := Node.wellFormed_body formed
  body regular := regular
  operand formed := Node.wellFormed_operand formed
  step formed := Node.wellFormed_step formed

/-- A part of a tree that is safe. It ends with an error or with a regular value. -/
structure SafePart (left : Eval Value) (right : Checked Value) (before : State) : Prop
    extends Safe left right before where
  ends : ∀ value after, left before = some (value, after) →
    (value.isError = true ∨ value.Throughout Value.IsRegular) ∧ after.Throughout Value.IsRegular

section Parts
variable {before : State}

theorem Safe.operand {left : Eval Value} {right : Checked Value} {next : Value → Eval Value}
    {next' : Value → Checked Value} (head : SafePart left right before)
    (rest : ∀ value after, value.Throughout Value.IsRegular → after.Throughout Value.IsRegular →
      Safe (next value) (next' value) after) :
    Safe (Eval.operand left next) (operand right next') before := by
  apply Safe.bind head.toSafe
  intro value after run
  by_cases failure : value.isError = true
  · rw [if_pos failure, if_pos failure]
    apply Safe.known
    rintro serial fault rfl
    exact head.foreseen serial fault after run
  · obtain ⟨ends, regular⟩ := head.ends value after run
    rw [if_neg failure, if_neg failure]
    exact rest value after (ends.resolve_left failure) regular

theorem Safe.unwrapped {left : Eval Value} {right : Checked Value}
    (body : SafePart left right before) :
    Safe (do let result ← left; return result.unwrapped)
      (do let result ← right; return result.unwrapped) before := by
  apply Safe.bind body.toSafe
  intro value after run
  apply Safe.known
  intro serial fault same
  cases value with
  | returned serial' inner =>
      have whole := (body.ends _ after run).1.resolve_left Bool.false_ne_true
      have sound := (Value.throughout_returned.mp whole).2.whole.sound
      rw [show inner = .error serial fault from same] at sound
      cases sound
  | error serial' fault' =>
      cases same
      exact body.foreseen serial fault after run
  | _ => cases same

theorem safe_identifier (name : String) (scope : ScopeId)
    (regular : before.Throughout Value.IsRegular) :
    Safe (evalIdentifier name scope) (liftM (evalIdentifier name scope)) before := by
  apply Safe.lift
  intro serial fault after run
  rw [evalIdentifier, bind_run_of (trace_run _ _), bind_run_of (lookup?_run _ _ _)] at run
  cases found : (before.traced (.lookupStarted name)).scopes.lookup? scope name with
  | some value =>
      simp only [found] at run
      cases run
      cases ((regular.traced _).lookup? found).whole
  | none =>
      cases known : Builtin.ofName? name with
      | some callee =>
          simp only [found, known] at run
          cases run
      | none =>
          simp only [found, known, fail_run] at run
          cases run
          rfl

section Sequences
variable {left : Node → Eval Value} {right : Node → Checked Value}

theorem Safe.operands {nodes : List Node} {next : List Value → Eval Value}
    {next' : List Value → Checked Value}
    (each : ∀ node ∈ nodes, ∀ state, state.Throughout Value.IsRegular →
      SafePart (left node) (right node) state)
    (rest : ∀ values after, (∀ value ∈ values, value.Throughout Value.IsRegular) →
      after.Throughout Value.IsRegular → Safe (next values) (next' values) after)
    (regular : before.Throughout Value.IsRegular) :
    Safe (Eval.operands left nodes next) (operands right nodes next') before := by
  induction nodes generalizing next next' before with
  | nil => exact rest [] before (by simp) regular
  | cons node others ih =>
      apply Safe.operand (each node (by simp) before regular)
      intro value after head regular
      apply ih (fun other member => each other (List.mem_cons_of_mem _ member)) _ regular
      intro values last tail regular
      exact rest (value :: values) last (List.forall_mem_cons.mpr ⟨head, tail⟩) regular

/-- A key that was looked at can be taken apart. -/
theorem Safe.pairs {pairs : List (Node × Node)} {entries : List (HashKey × Value × Value)}
    (each : ∀ node ∈ pairs.flatMap fun pair => [pair.1, pair.2], ∀ state,
      state.Throughout Value.IsRegular → SafePart (left node) (right node) state)
    (regular : before.Throughout Value.IsRegular) :
    Safe (Eval.evalPairs left pairs entries) (evalPairs right pairs entries) before := by
  induction pairs generalizing entries before with
  | nil => exact safe_hash entries
  | cons pair rest ih =>
      obtain ⟨keyNode, valueNode⟩ := pair
      apply Safe.operand (each keyNode (by simp) before regular)
      intro key between _ regular
      have filed (slot : HashKey) :
          Safe (Eval.operand (left valueNode) fun value =>
              Eval.evalPairs left rest (Assoc.insert slot (key, value) entries))
            (Guarded.operand (right valueNode) fun value =>
              evalPairs right rest (Assoc.insert slot (key, value) entries)) between := by
        apply Safe.operand (each valueNode (by simp) between regular)
        intro value after _ regular
        exact ih (fun node member => each node (List.mem_append_right _ member)) regular
      cases key with
      | integer serial number => exact filed _
      | boolean truth => exact filed _
      | string serial text => exact filed _
      | _ => exact Safe.fail rfl

theorem Safe.block {statements : List Node} {result : Value}
    (each : ∀ statement ∈ statements, ∀ state, state.Throughout Value.IsRegular →
      SafePart (left statement) (right statement) state)
    (sound : result.isError = false) (regular : before.Throughout Value.IsRegular) :
    Safe (Eval.runBlock left result statements) (runBlock right result statements) before := by
  induction statements generalizing result before with
  | nil => exact .pure sound
  | cons statement rest ih =>
      have head := each statement (by simp) before regular
      apply Safe.bind head.toSafe
      intro value after run
      apply Safe.step (countStatement_run _)
      obtain ⟨ends, regular⟩ := head.ends value after run
      by_cases interrupts : value.isInterrupt = true
      · rw [if_pos interrupts, if_pos interrupts]
        apply Safe.step (trace_run _ _)
        apply Safe.known
        rintro serial fault rfl
        exact head.foreseen serial fault after run
      · rw [if_neg interrupts, if_neg interrupts]
        have calm : value.isError = false := by
          cases value <;> first | rfl | exact absurd rfl interrupts
        exact ih (fun other member => each other (List.mem_cons_of_mem _ member)) calm regular

theorem Safe.program {statements : List Node} {position : Nat} {result : Value}
    (each : ∀ statement ∈ statements, ∀ state, state.Throughout Value.IsRegular →
      SafePart (left statement) (right statement) state)
    (sound : result.isError = false) (regular : before.Throughout Value.IsRegular) :
    Safe (Eval.runProgram left position result statements)
      (runProgram right position result statements) before := by
  induction statements generalizing position result before with
  | nil => exact .step (trace_run _ _) (.pure sound)
  | cons statement rest ih =>
      have head := each statement (by simp) _
        (regular.traced (.statementReached position statement.kind))
      apply Safe.step (trace_run _ _)
      apply Safe.bind head.toSafe
      intro value after run
      apply Safe.step (countStatement_run _)
      obtain ⟨ends, regular⟩ := head.ends value after run
      cases value with
      | returned serial inner =>
          apply Safe.step (trace_run _ _)
          have whole := ends.resolve_left Bool.false_ne_true
          exact .pure (Value.throughout_returned.mp whole).2.whole.sound
      | error serial fault =>
          apply Safe.step (trace_run _ _)
          apply Safe.known
          rintro _ _ ⟨⟩
          exact head.foreseen serial fault after run
      | _ => exact ih (fun other member => each other (List.mem_cons_of_mem _ member)) rfl regular

end Sequences

section Nodes
variable {left : Node → ScopeId → Eval Value} {right : Node → ScopeId → Checked Value}
  (parts : ∀ {child : Node} {scope : ScopeId} {state : State}, child.wellFormed = true →
    state.Throughout Value.IsRegular → SafePart (left child scope) (right child scope) state)

include parts

theorem Safe.call {callee : Value} {arguments : List Value}
    (known : callee.Throughout Value.IsRegular)
    (given : ∀ argument ∈ arguments, argument.Throughout Value.IsRegular)
    (regular : before.Throughout Value.IsRegular) :
    Safe (Eval.applyFunction left callee arguments) (applyFunction right callee arguments)
      before := by
  cases callee with
  | function serial parameters body closure =>
      apply Safe.step (count_run _ _)
      by_cases arity : arguments.length ≠ parameters.length
      · rw [if_pos arity, if_pos arity]
        exact .fail rfl
      rw [if_neg arity, if_neg arity]
      apply Safe.step (enter_run _ _ _)
      apply Safe.step (trace_run _ _)
      have entered : ∀ binding ∈ parameters.zip arguments,
          binding.2.Throughout Value.IsRegular :=
        fun binding member => given binding.2 (List.of_mem_zip member).2
      have called : (before.called closure parameters arguments).Throughout Value.IsRegular :=
        State.Throughout.traced (State.Throughout.entered (regular.counted _) closure entered) _
      exact .unwrapped (parts known.whole called)
  | builtin callee =>
      apply Safe.step (count_run _ _)
      apply Safe.step (trace_run _ _)
      exact safe_builtin callee given
  | failing serial name detail => cases known.whole
  | _ => exact Safe.fail rfl

theorem Safe.node {node : Node} {scope : ScopeId} (formed : node.wellFormed = true)
    (regular : before.Throughout Value.IsRegular) :
    Safe (Eval.evalNode left node scope) (evalNode right node scope) before := by
  have operands : ∀ child ∈ node.operands, ∀ state, state.Throughout Value.IsRegular →
      SafePart (left child scope) (right child scope) state :=
    fun child member _ regular => parts (Node.wellFormed_operand formed child member) regular
  have steps : ∀ child ∈ node.steps, ∀ state, state.Throughout Value.IsRegular →
      SafePart (left child scope) (right child scope) state :=
    fun child member _ regular => parts (Node.wellFormed_step formed child member) regular
  cases node with
  | program statements =>
      exact .step (trace_run _ _) (.program steps rfl (regular.traced _))
  | letStatement name value =>
      apply Safe.step (trace_run _ _)
      apply Safe.operand (operands value (by simp [Node.operands]) _ (regular.traced _))
      intro value after _ _
      exact .step (bind_run _ _ _ _) (.pure rfl)
  | returnStatement value =>
      apply Safe.operand (operands value (by simp [Node.operands]) _ regular)
      intro value after _ _
      exact .make _ fun _ => rfl
  | expressionStatement expression =>
      exact (steps expression (by simp [Node.steps]) _ regular).toSafe
  | blockStatement statements =>
      apply Safe.step (trace_run _ _)
      apply Safe.step (count_run _ _)
      exact .block steps rfl ((regular.traced _).counted _)
  | identifier name => exact safe_identifier name scope regular
  | integerLiteral value => exact safe_integer value
  | stringLiteral text => exact safe_string text
  | booleanLiteral value => exact .pure rfl
  | prefixExpression operator right =>
      simp only [Node.wellFormed, Bool.and_eq_true, decide_eq_true_eq] at formed
      apply Safe.step (trace_run _ _)
      apply Safe.operand (operands right (by simp [Node.operands]) _ (regular.traced _))
      intro value after _ _
      exact safe_prefix formed.1 value
  | infixExpression first operator second =>
      apply Safe.step (trace_run _ _)
      apply Safe.operand (operands first (by simp [Node.operands]) _ (regular.traced _))
      intro value after _ regular
      apply Safe.operand (operands second (by simp [Node.operands]) _ regular)
      intro other last _ _
      exact safe_infix operator value other
  | ifExpression condition consequence alternative =>
      apply Safe.step (trace_run _ _)
      apply Safe.operand (operands condition (by simp [Node.operands]) _ (regular.traced _))
      intro value after _ regular
      cases value.isTruthy with
      | true =>
          apply Safe.step (trace_run _ _)
          exact (steps consequence (by simp [Node.steps]) _ (regular.traced _)).toSafe
      | false =>
          cases alternative with
          | none => exact .step (trace_run _ _) (.pure rfl)
          | some alternative =>
              apply Safe.step (trace_run _ _)
              exact (steps alternative (by simp [Node.steps]) _ (regular.traced _)).toSafe
  | functionLiteral parameters body =>
      exact Safe.make (fun serial => .function serial parameters body scope) fun _ => rfl
  | callExpression callee arguments =>
      apply Safe.step (trace_run _ _)
      apply Safe.operand (operands callee (by simp [Node.operands]) _ (regular.traced _))
      intro function after known regular
      apply Safe.operands _ _ regular
      · intro node member
        exact operands node (by simp [Node.operands, member])
      · intro values last given regular
        exact .step (trace_run _ _) (.call parts known given (regular.traced _))
  | arrayLiteral elements =>
      apply Safe.operands operands _ regular
      intro values after _ _
      exact safe_array values
  | indexExpression first second =>
      apply Safe.operand (operands first (by simp [Node.operands]) _ regular)
      intro value after known regular
      apply Safe.operand (operands second (by simp [Node.operands]) _ regular)
      intro index last _ _
      exact safe_index known index
  | hashLiteral pairs =>
      exact .step (trace_run _ _) (.pairs operands (regular.traced _))
  | unknown name => cases formed

end Nodes

end Parts

theorem safe_evalWithin (depth : Nat) {node : Node} {scope : ScopeId} {before : State}
    (formed : node.wellFormed = true) (regular : before.Throughout Value.IsRegular) :
    Safe (Eval.evalWithin depth node scope) (evalWithin depth node scope) before := by
  induction depth generalizing node scope before with
  | zero => exact .lift fun _ _ _ run => nomatch run
  | succ depth ih =>
      apply Safe.node _ formed regular
      -- how a part ends is known already, so that the induction is about safety alone
      intro child inner state formed regular
      refine ⟨ih formed regular, ?_⟩
      intro value after run
      exact isRegular_hereditary.finished_run formed regular run

theorem safe_evaluate (depth : Nat) {node : Node} {scope : ScopeId} (verbose : Bool)
    {before : State} (formed : node.wellFormed = true)
    (regular : before.Throughout Value.IsRegular) :
    Safe (Eval.evaluate depth node scope verbose) (evaluate depth node scope verbose) before := by
  have start : (if verbose then { before with level := .debug } else before).Throughout
      Value.IsRegular := by
    cases verbose with
    | true => exact regular
    | false => exact regular
  have safe := @safe_evalWithin depth node scope _ formed start
  constructor
  · have same := safe.same
    rw [Eval.evaluate_run]
    cases verbose with
    | true =>
        show ((evalWithin depth node scope).run { before with level := .debug }).bind _ = _
        rw [if_pos rfl] at same ⊢
        rw [same]
        cases Eval.evalWithin depth node scope { before with level := .debug } <;> rfl
    | false =>
        show ((evalWithin depth node scope).run before).bind _ = _
        rw [if_neg Bool.false_ne_true] at same ⊢
        rw [same]
        cases Eval.evalWithin depth node scope before <;> rfl
  · intro serial fault after run
    rw [Eval.evaluate_run, Option.map_eq_some_iff] at run
    obtain ⟨⟨value, last⟩, run, finish⟩ := run
    cases finish
    exact safe.foreseen serial fault last run

/-- The host never stops on a tree that some document describes. At each depth all is as in an
evaluation that takes for granted what is looked at here, and every error has one of the messages
that are foreseen. -/
theorem described_safe {node : Node} {before : State} (described : Document.Describable node)
    (fresh : before.scopes = State.initial.scopes) (depth : Nat) (verbose : Bool) :
    (∀ trap after, (evaluate depth node 0 verbose).run before ≠ some (.error trap, after)) ∧
    ((evaluate depth node 0 verbose).run before =
      (Eval.evaluate depth node 0 verbose before).map fun result => (.ok result.1, result.2)) ∧
    ∀ serial fault after,
      Eval.evaluate depth node 0 verbose before = some (.error serial fault, after) →
        IsErrorMessage fault.message := by
  have regular : before.Throughout Value.IsRegular := State.initial_throughout.of_scopes fresh
  have safe := @safe_evaluate depth node 0 verbose before described.wellFormed regular
  refine ⟨?_, safe.same, ?_⟩
  · intro trap after stopped
    rw [safe.same, Option.map_eq_some_iff] at stopped
    obtain ⟨_, -, impossible⟩ := stopped
    cases impossible
  · intro serial fault after run
    exact Fault.message_of_isForeseen (safe.foreseen serial fault after run)

/-- A return statement where the operand of a minus is expected. -/
def negatedReturn : Node :=
  .prefixExpression .minus (.returnStatement (.integerLiteral 1))

theorem negatedReturn_describable : Document.Describable negatedReturn := by
  refine ⟨.object [("node", .string "PrefixExpression"), ("operator", .string "-"),
    ("right", .object [("node", .string "ReturnStatement"),
      ("return_value", .object [("node", .string "IntegerLiteral"), ("value", .integer 1)])])], ?_⟩
  rfl

/-- The wrapper of the returned value is no number, and the minus says so. -/
theorem described_safe_negatedReturn : ∃ serial fault after,
    Document.Describable negatedReturn ∧
      (evaluate 4 negatedReturn 0 true).run State.initial =
        some (.ok (.error serial fault), after) ∧
      IsErrorMessage fault.message := by
  obtain ⟨serial, fault, after, run⟩ : ∃ serial fault after,
      Eval.evaluate 4 negatedReturn 0 true State.initial = some (.error serial fault, after) :=
    ⟨_, _, _, rfl⟩
  obtain ⟨-, same, messages⟩ :=
    @described_safe negatedReturn State.initial negatedReturn_describable rfl 4 true
  rw [run] at same
  exact ⟨serial, fault, after, negatedReturn_describable, same, messages serial fault after run⟩

end Eval.Guarded

end MonkeyLang
