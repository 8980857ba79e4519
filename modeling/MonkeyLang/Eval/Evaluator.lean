import MonkeyLang.Eval.Operation

/-!
The evaluator. `evalNode` says what one node does, given a way to evaluate the
nodes below it; `evalWithin` ties the knot for a bounded depth of nested nodes.
Evaluation goes from left to right, and the first error ends whatever construct
it arises in, because every operand passes through `operand`.
-/

namespace MonkeyLang.Eval

/-- Go on with the value of an operand unless it is an error. -/
def operand (sub : Eval Value) (next : Value → Eval Value) : Eval Value := do
  let value ← sub
  if value.isError then return value else next value

/-- Evaluate a list of operands and go on with all their values. -/
def operands (sub : Node → Eval Value) : List Node → (List Value → Eval Value) → Eval Value
  | [], next => next []
  | node :: rest, next =>
      operand (sub node) fun value => operands sub rest fun values => next (value :: values)

def countStatement : Eval Unit :=
  count fun counters => { counters with statements := counters.statements + 1 }

/-- The statements of a program from a position on; `result` is the value of the
statement before it. A returned value leaves its wrapper here. -/
def runProgram (sub : Node → Eval Value) : Nat → Value → List Node → Eval Value
  | _, result, [] => do
      trace (.programFinished result)
      return result
  | position, _, statement :: rest => do
      trace (.statementReached position statement.kind)
      let value ← sub statement
      countStatement
      match value with
      | .returned _ inner =>
          trace (.programReturned inner)
          return inner
      | .error _ fault =>
          trace (.programFailed fault)
          return value
      | _ => runProgram sub (position + 1) value rest

/-- The statements of a block. A returned value stays wrapped, so that the blocks
around this one end as well. -/
def runBlock (sub : Node → Eval Value) : Value → List Node → Eval Value
  | result, [] => return result
  | _, statement :: rest => do
      let value ← sub statement
      countStatement
      if value.isInterrupt then
        trace (.blockInterrupted value.tag)
        return value
      else
        runBlock sub value rest

def evalIdentifier (name : String) (scope : ScopeId) : Eval Value := do
  trace (.lookupStarted name)
  match ← lookup? scope name with
  | some value => return value
  | none =>
      match Builtin.ofName? name with
      | some builtin =>
          trace (.builtinFound name)
          return .builtin builtin
      | none => fail (.unboundIdentifier name)

/-- Entries of a hash literal from left to right. A key must be hashable before its
value is evaluated; a repeated key keeps its place and takes the later pair. -/
def evalPairs (sub : Node → Eval Value) :
    List (Node × Node) → List (HashKey × Value × Value) → Eval Value
  | [], entries => makeHash entries
  | (keyNode, valueNode) :: rest, entries =>
      operand (sub keyNode) fun key =>
        match key.hashKey? with
        | none => fail (.notHashable key.tag)
        | some slot =>
            operand (sub valueNode) fun value =>
              evalPairs sub rest (Assoc.insert slot (key, value) entries)

/-- A function runs its body in a new scope inside the one it was made in, whatever
the scope of the call. -/
def applyFunction (recur : Node → ScopeId → Eval Value) (callee : Value)
    (arguments : List Value) : Eval Value :=
  match callee with
  | .function _ parameters body closure => do
      count fun counters => { counters with functionCalls := counters.functionCalls + 1 }
      if arguments.length ≠ parameters.length then
        fail (.wrongArity arguments.length parameters.length)
      else
        let inner ← enter closure (parameters.zip arguments)
        trace (.parametersBound parameters)
        let result ← recur body inner
        return result.unwrapped
  | .builtin builtin => do
      count fun counters => { counters with builtinCalls := counters.builtinCalls + 1 }
      trace (.builtinCalled builtin.name)
      applyBuiltin builtin arguments
  | .failing _ name detail => do
      count fun counters => { counters with builtinCalls := counters.builtinCalls + 1 }
      trace (.builtinCalled name)
      alarm (.builtinRaised name)
      fail (.builtinRaised detail)
  | value => fail (.notCallable value.tag)

def evalNode (recur : Node → ScopeId → Eval Value) (node : Node) (scope : ScopeId) :
    Eval Value :=
  let sub := fun child => recur child scope
  match node with
  | .program statements => do
      trace (.programStarted statements.length)
      runProgram sub 1 .null statements
  | .expressionStatement expression => sub expression
  | .blockStatement statements => do
      trace (.blockStarted statements.length)
      count fun counters =>
        { counters with largestBlock := max counters.largestBlock statements.length }
      runBlock sub .null statements
  | .returnStatement value =>
      operand (sub value) fun value => make fun serial => .returned serial value
  | .letStatement name value => do
      trace (.bindingStarted name)
      operand (sub value) fun value => do
        bind scope name value
        return .null
  | .identifier name => evalIdentifier name scope
  | .integerLiteral value => makeInteger value
  | .stringLiteral text => makeString text
  | .booleanLiteral value => return .boolean value
  | .prefixExpression operator right => do
      trace (.prefixStarted operator)
      operand (sub right) fun right => applyPrefix operator right
  | .infixExpression left operator right => do
      trace (.infixStarted operator)
      operand (sub left) fun left =>
        operand (sub right) fun right => applyInfix operator left right
  | .ifExpression condition consequence alternative => do
      trace .conditionStarted
      operand (sub condition) fun condition => do
        if condition.isTruthy then
          trace .consequenceTaken
          sub consequence
        else
          match alternative with
          | some alternative =>
              trace .alternativeTaken
              sub alternative
          | none =>
              trace .noAlternative
              return .null
  | .functionLiteral parameters body =>
      make fun serial => .function serial parameters body scope
  | .callExpression callee arguments => do
      trace (.callStarted callee)
      operand (sub callee) fun callee =>
        operands sub arguments fun arguments => do
          trace (.argumentsReady arguments.length)
          applyFunction recur callee arguments
  | .arrayLiteral elements => operands sub elements makeArray
  | .indexExpression left index =>
      operand (sub left) fun left => operand (sub index) fun index => applyIndex left index
  | .hashLiteral pairs => do
      trace (.hashStarted pairs.length)
      evalPairs sub pairs []
  | .unknown name => do
      report (.unknownNodeReached name)
      fail (.unknownNode name)

/-- Evaluation in which nodes are nested at most `depth` deep, counting the bodies
of called functions. -/
def evalWithin : Nat → Node → ScopeId → Eval Value
  | 0, _, _ => exhausted
  | depth + 1, node, scope => evalNode (evalWithin depth) node scope

/-- Evaluate a tree in a scope. With `verbose` the log is fully on meanwhile; the
level is afterwards what it was before. -/
def evaluate (depth : Nat) (node : Node) (scope : ScopeId) (verbose : Bool) : Eval Value := do
  let level := (← get).level
  if verbose then modify fun state => { state with level := .debug }
  let value ← evalWithin depth node scope
  modify fun state => { state with level }
  return value

/-- Call a value with arguments, as a call expression does once both are there. -/
def call (depth : Nat) (callee : Value) (arguments : List Value) : Eval Value :=
  applyFunction (evalWithin depth) callee arguments

end MonkeyLang.Eval
