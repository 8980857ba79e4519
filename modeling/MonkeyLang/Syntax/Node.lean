import MonkeyLang.Syntax.Operator

/-!
Syntax trees. Any node may stand wherever a tree has a child: a statement may be
an operand and a whole program may be an argument. Which trees a document can
describe is a separate matter.
-/

namespace MonkeyLang

inductive Node where
  | program (statements : List Node)
  | letStatement (name : String) (value : Node)
  | returnStatement (value : Node)
  | expressionStatement (expression : Node)
  | blockStatement (statements : List Node)
  | identifier (name : String)
  | integerLiteral (value : Int)
  | stringLiteral (text : String)
  | booleanLiteral (value : Bool)
  | prefixExpression (operator : Operator) (right : Node)
  | infixExpression (left : Node) (operator : Operator) (right : Node)
  | ifExpression (condition consequence : Node) (alternative : Option Node)
  | functionLiteral (parameters : List String) (body : Node)
  | callExpression (callee : Node) (arguments : List Node)
  | arrayLiteral (elements : List Node)
  | indexExpression (left index : Node)
  | hashLiteral (pairs : List (Node × Node))
  /-- A node of a kind that the language does not define. -/
  | unknown (name : String)
  deriving Repr

namespace Node

/-- The name under which a node's kind appears in documents and in the log. -/
def kind : Node → String
  | program _ => "Program"
  | letStatement _ _ => "LetStatement"
  | returnStatement _ => "ReturnStatement"
  | expressionStatement _ => "ExpressionStatement"
  | blockStatement _ => "BlockStatement"
  | identifier _ => "Identifier"
  | integerLiteral _ => "IntegerLiteral"
  | stringLiteral _ => "StringLiteral"
  | booleanLiteral _ => "Boolean"
  | prefixExpression _ _ => "PrefixExpression"
  | infixExpression _ _ _ => "InfixExpression"
  | ifExpression _ _ _ => "IfExpression"
  | functionLiteral _ _ => "FunctionLiteral"
  | callExpression _ _ => "CallExpression"
  | arrayLiteral _ => "ArrayLiteral"
  | indexExpression _ _ => "IndexExpression"
  | hashLiteral _ => "HashLiteral"
  | unknown name => name

end Node

end MonkeyLang
