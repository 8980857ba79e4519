import MonkeyLang.Syntax.Node

/-!
Two texts of a syntax tree: `render` is canonical source, in which every
operator expression is parenthesised, and `describe` is a short debugging form
that counts children where it does not show them.
-/

namespace MonkeyLang.Node

mutual

/-- Canonical source text. Statements follow one another without a separator. -/
def render : Node → String
  | program statements => String.join (renderAll statements)
  | letStatement name value => "let " ++ name ++ " = " ++ value.render ++ ";"
  | returnStatement value => "return " ++ value.render ++ ";"
  | expressionStatement expression => expression.render
  | blockStatement statements => String.join (renderAll statements)
  | identifier name => name
  | integerLiteral value => toString value
  | stringLiteral text => text
  | booleanLiteral value => if value then "true" else "false"
  | prefixExpression operator right => "(" ++ operator.spelling ++ right.render ++ ")"
  | infixExpression left operator right =>
      "(" ++ left.render ++ " " ++ operator.spelling ++ " " ++ right.render ++ ")"
  | ifExpression condition consequence none =>
      "if" ++ condition.render ++ " " ++ consequence.render
  | ifExpression condition consequence (some alternative) =>
      "if" ++ condition.render ++ " " ++ consequence.render ++ "else " ++ alternative.render
  | functionLiteral parameters body =>
      "fn(" ++ ", ".intercalate parameters ++ ") " ++ body.render
  | callExpression callee arguments =>
      callee.render ++ "(" ++ ", ".intercalate (renderAll arguments) ++ ")"
  | arrayLiteral elements => "[" ++ ", ".intercalate (renderAll elements) ++ "]"
  | indexExpression left index => "(" ++ left.render ++ "[" ++ index.render ++ "])"
  | hashLiteral pairs => "\x7b" ++ ", ".intercalate (renderPairs pairs) ++ "\x7d"
  | unknown name => name ++ "()"

def renderAll : List Node → List String
  | [] => []
  | node :: rest => node.render :: renderAll rest

def renderPairs : List (Node × Node) → List String
  | [] => []
  | (key, value) :: rest => (key.render ++ ":" ++ value.render) :: renderPairs rest

end

theorem renderAll_eq_map (nodes : List Node) : renderAll nodes = nodes.map render := by
  induction nodes with
  | nil => rfl
  | cons node rest ih => simp [renderAll, ih]

theorem renderPairs_eq_map (pairs : List (Node × Node)) :
    renderPairs pairs = pairs.map fun pair => pair.1.render ++ ":" ++ pair.2.render := by
  induction pairs with
  | nil => rfl
  | cons pair rest ih => simp [renderPairs, ih]

/-- The debugging form. Names and texts stand in quotes without any escaping. -/
def describe : Node → String
  | program statements => s!"Program(statements={statements.length})"
  | letStatement name value => "LetStatement(name=" ++ name ++ ", value=" ++ value.describe ++ ")"
  | returnStatement value => "ReturnStatement(return_value=" ++ value.describe ++ ")"
  | expressionStatement expression =>
      "ExpressionStatement(expression=" ++ expression.describe ++ ")"
  | blockStatement statements => s!"BlockStatement(statements={statements.length})"
  | identifier name => "Identifier('" ++ name ++ "')"
  | integerLiteral value => s!"IntegerLiteral({value})"
  | stringLiteral text => "StringLiteral('" ++ text ++ "')"
  | booleanLiteral value => if value then "Boolean(True)" else "Boolean(False)"
  | prefixExpression operator right =>
      "PrefixExpression(operator='" ++ operator.spelling ++ "', right=" ++ right.describe ++ ")"
  | infixExpression left operator right =>
      "InfixExpression(left=" ++ left.describe ++ ", operator='" ++ operator.spelling ++
        "', right=" ++ right.describe ++ ")"
  | ifExpression condition _ alternative =>
      "IfExpression(condition=" ++ condition.describe ++ ", has_alternative=" ++
        (if alternative.isSome then "True" else "False") ++ ")"
  | functionLiteral parameters _ => s!"FunctionLiteral(parameters={parameters.length})"
  | callExpression callee arguments =>
      "CallExpression(function=" ++ callee.describe ++ s!", arguments={arguments.length})"
  | arrayLiteral elements => s!"ArrayLiteral(elements={elements.length})"
  | indexExpression left index =>
      "IndexExpression(left=" ++ left.describe ++ ", index=" ++ index.describe ++ ")"
  | hashLiteral pairs => s!"HashLiteral(pairs={pairs.length})"
  | unknown name => name ++ "()"

end MonkeyLang.Node
