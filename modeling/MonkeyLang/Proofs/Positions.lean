import MonkeyLang.Syntax.Node

/-!
Where the parts of a node stand. The value of an operand is handed to an operation of
the node; the value of a step, which is a statement, the expression of a statement or
the branch of an `if`, is or may become the value of the node. The body of a function
literal is neither, because evaluating the literal does not evaluate it.
-/

namespace MonkeyLang.Node

def operands : Node → List Node
  | letStatement _ value => [value]
  | returnStatement value => [value]
  | prefixExpression _ right => [right]
  | infixExpression left _ right => [left, right]
  | ifExpression condition _ _ => [condition]
  | callExpression callee arguments => callee :: arguments
  | arrayLiteral elements => elements
  | indexExpression left index => [left, index]
  | hashLiteral pairs => pairs.flatMap fun pair => [pair.1, pair.2]
  | _ => []

def steps : Node → List Node
  | program statements => statements
  | expressionStatement expression => [expression]
  | blockStatement statements => statements
  | ifExpression _ consequence alternative => consequence :: alternative.toList
  | _ => []

/-- A `let` of the name occurs in the node, and not in the body of a function literal. -/
inductive Binds (name : String) : Node → Prop where
  | here {value} : Binds name (letStatement name value)
  | operand {node child} : child ∈ node.operands → Binds name child → Binds name node
  | step {node child} : child ∈ node.steps → Binds name child → Binds name node

end MonkeyLang.Node
