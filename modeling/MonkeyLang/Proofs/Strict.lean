import MonkeyLang.Proofs.Positions
import MonkeyLang.Proofs.Steps

/-!
Strict nodes: all their operands are evaluated, from left to right, before anything is done with
a value. So evaluating a strict node means evaluating a list of operands and then
proceeding with the list of their values.
-/

namespace MonkeyLang

def Node.isStrict : Node → Bool
  | letStatement _ _ => true
  | returnStatement _ => true
  | prefixExpression _ _ => true
  | infixExpression _ _ _ => true
  | ifExpression _ _ _ => true
  | callExpression _ _ => true
  | arrayLiteral _ => true
  | indexExpression _ _ => true
  | _ => false

/-- The state after a strict node was logged and before its operands are evaluated. -/
def State.announced (state : State) : Node → State
  | .letStatement name _ => state.traced (.bindingStarted name)
  | .prefixExpression operator _ => state.traced (.prefixStarted operator)
  | .infixExpression _ operator _ => state.traced (.infixStarted operator)
  | .ifExpression _ _ _ => state.traced .conditionStarted
  | .callExpression callee _ => state.traced (.callStarted callee)
  | _ => state

namespace Eval

/-- The branch that an `if` takes. -/
def branch (sub : Node → Eval Value) (consequence : Node) (alternative : Option Node)
    (condition : Value) : Eval Value := do
  if condition.isTruthy then
    trace .consequenceTaken
    sub consequence
  else
    match alternative with
    | some alternative =>
        trace .alternativeTaken
        sub alternative
    | none =>
        trace .noAlternative
        return .null

section Branch
variable {sub : Node → Eval Value} {consequence : Node} {condition : Value} {before : State}

theorem branch_truthy (alternative : Option Node) (truthy : condition.isTruthy = true) :
    branch sub consequence alternative condition before =
      sub consequence (before.traced .consequenceTaken) := by
  unfold branch
  rw [if_pos truthy]
  exact bind_run_of (trace_run _ _)

theorem branch_some {alternative : Node} (falsy : condition.isTruthy = false) :
    branch sub consequence (some alternative) condition before =
      sub alternative (before.traced .alternativeTaken) := by
  unfold branch
  rw [if_neg (by simp [falsy])]
  exact bind_run_of (trace_run _ _)

theorem branch_none (falsy : condition.isTruthy = false) :
    branch sub consequence none condition before =
      some (.null, before.traced .noAlternative) := by
  unfold branch
  rw [if_neg (by simp [falsy])]
  exact bind_run_of (trace_run _ _)

end Branch

/-- What a strict node does with the values of its operands. -/
def proceed (recur : Node → ScopeId → Eval Value) (home : ScopeId) :
    Node → List Value → Eval Value
  | .letStatement name _, [value] => do
      bind home name value
      return .null
  | .returnStatement _, [value] => make fun serial => .returned serial value
  | .prefixExpression operator _, [right] => applyPrefix operator right
  | .infixExpression _ operator _, [left, right] => applyInfix operator left right
  | .ifExpression _ consequence alternative, [condition] =>
      branch (fun child => recur child home) consequence alternative condition
  | .callExpression _ _, callee :: arguments => do
      trace (.argumentsReady arguments.length)
      applyFunction recur callee arguments
  | .arrayLiteral _, values => makeArray values
  | .indexExpression _ _, [left, index] => applyIndex left index
  | _, _ => exhausted

theorem evalNode_strict (recur : Node → ScopeId → Eval Value) {node : Node}
    (strict : node.isStrict = true) (home : ScopeId) (before : State) :
    evalNode recur node home before =
      operands (fun child => recur child home) node.operands (proceed recur home node)
        (before.announced node) := by
  cases node with
  | letStatement name value => exact bind_run_of (trace_run _ _)
  | returnStatement value => rfl
  | prefixExpression operator right => exact bind_run_of (trace_run _ _)
  | infixExpression left operator right => exact bind_run_of (trace_run _ _)
  | ifExpression condition consequence alternative => exact bind_run_of (trace_run _ _)
  | callExpression callee arguments => exact bind_run_of (trace_run _ _)
  | arrayLiteral elements => rfl
  | indexExpression left index => rfl
  | _ => cases strict

end Eval

end MonkeyLang
