import MonkeyLang.Syntax.Operator
import MonkeyLang.Value.Tag

/-!
The causes of a runtime error. The wording of each stands in `Fault.message` and
nowhere else.
-/

namespace MonkeyLang

inductive Fault where
  | typeMismatch (left : Tag) (operator : Operator) (right : Tag)
  | unknownInfix (left : Tag) (operator : Operator) (right : Tag)
  | unknownPrefix (operator : Operator) (operand : Tag)
  | unboundIdentifier (name : String)
  | notCallable (found : Tag)
  | notIndexable (found : Tag)
  | notHashable (found : Tag)
  | wrongArity (got want : Nat)
  | notMeasurable (found : Tag)
  | arrayExpected (callee : Builtin) (found : Tag)
  | divisionByZero
  | builtinRaised (detail : String)
  | unknownNode (name : String)
  /-- An error that a host made, with a message of its own. -/
  | stated (message : String)
  deriving DecidableEq, Repr

def Fault.message : Fault → String
  | typeMismatch left operator right =>
      "type mismatch: " ++ left.name ++ " " ++ operator.spelling ++ " " ++ right.name
  | unknownInfix left operator right =>
      "unknown operator: " ++ left.name ++ " " ++ operator.spelling ++ " " ++ right.name
  | unknownPrefix operator operand => "unknown operator: " ++ operator.spelling ++ operand.name
  | unboundIdentifier name => "identifier not found: " ++ name
  | notCallable found => "not a function: " ++ found.name
  | notIndexable found => "index operator not supported: " ++ found.name
  | notHashable found => "unusable as hash key: " ++ found.name
  | wrongArity got want => s!"wrong number of arguments. got={got}, want={want}"
  | notMeasurable found => "argument to `len` not supported, got " ++ found.name
  | arrayExpected callee found =>
      "argument to `" ++ callee.name ++ "` must be ARRAY, got " ++ found.name
  | divisionByZero => "division by zero"
  | builtinRaised detail => "builtin error: " ++ detail
  | unknownNode name => "unknown node type: " ++ name
  | stated message => message

end MonkeyLang
