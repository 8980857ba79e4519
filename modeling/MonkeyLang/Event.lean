import MonkeyLang.Level
import MonkeyLang.Value.Inspect

/-!
What the log records. An event is kept as data and is put into words by
`Event.message`, so that recording one costs nothing but its parts.
-/

namespace MonkeyLang

inductive Event where
  | programStarted (statements : Nat)
  | statementReached (position : Nat) (kind : String)
  | programReturned (value : Value)
  | programFailed (fault : Fault)
  | programFinished (value : Value)
  | blockStarted (statements : Nat)
  | blockInterrupted (tag : Tag)
  | bindingStarted (name : String)
  | lookupStarted (name : String)
  | builtinFound (name : String)
  | infixStarted (operator : Operator)
  | prefixStarted (operator : Operator)
  | conditionStarted
  | consequenceTaken
  | alternativeTaken
  | noAlternative
  | hashStarted (pairs : Nat)
  | callStarted (callee : Node)
  | argumentsReady (count : Nat)
  | parametersBound (names : List String)
  | builtinCalled (name : String)
  | builtinRaised (name : String)
  | errorCreated (fault : Fault)
  | unknownNodeReached (name : String)
  /-- A host's own message, with the data it attached. -/
  | remark (message : String) (data : Option String)

inductive Severity where
  | debug
  | error
  deriving DecidableEq, Repr

def Severity.name : Severity → String
  | debug => "DEBUG"
  | error => "ERROR"

structure LogRecord where
  severity : Severity
  event : Event

namespace Event

def message : Event → String
  | programStarted statements => s!"eval_program: Processing {statements} statements"
  | statementReached position kind => s!"  Statement {position}: {kind}"
  | programReturned value => "  ReturnValue encountered: " ++ value.display
  | programFailed fault => "  Error encountered: " ++ fault.message
  | programFinished value => "eval_program completed: " ++ value.display
  | blockStarted statements => s!"eval_block_statement: len={statements}"
  | blockInterrupted tag => "  Block interrupted: " ++ tag.name
  | bindingStarted name => "eval_let_statement: let " ++ name
  | lookupStarted name => "eval_identifier: Looking up: " ++ name
  | builtinFound name => "  Found builtin: " ++ name
  | infixStarted operator => "eval_infix_expression: " ++ operator.spelling
  | prefixStarted operator => "eval_prefix_expression: " ++ operator.spelling
  | conditionStarted => "eval_if_expression: Evaluating condition"
  | consequenceTaken => "  Condition true, evaluating consequence"
  | alternativeTaken => "  Condition false, evaluating alternative"
  | noAlternative => "  Condition false, no alternative"
  | hashStarted pairs => s!"  HashLiteral node: {pairs} pairs"
  | callStarted callee => "CallExpression node: " ++ callee.render
  | argumentsReady count => s!"  Arguments evaluated: {count}"
  | parametersBound names => "  Function parameters bound: " ++ Text.quotedList names
  | builtinCalled name => "  Calling builtin function: " ++ name
  | builtinRaised name => "builtin " ++ Text.quoted name ++ " raised"
  | errorCreated fault => "  Error created: " ++ fault.message
  | unknownNodeReached name => "  Unknown node type: " ++ name
  | remark message none => message
  | remark message (some data) => message ++ ": " ++ data

end Event

end MonkeyLang
