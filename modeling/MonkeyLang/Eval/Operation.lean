import MonkeyLang.Eval.State
import MonkeyLang.Number.Word

/-!
Operations on values that are already there: operators, indexing and the builtin
functions. None of them changes a value; each either makes a new one, hands out
one of its parts, or fails.
-/

namespace MonkeyLang.Eval

def integerInfix (operator : Operator) (left right : Int) : Eval Value :=
  match operator with
  | .plus => makeInteger (Word.wrap (left + right))
  | .minus => makeInteger (Word.wrap (left - right))
  | .times => makeInteger (Word.wrap (left * right))
  | .divide =>
      match Word.quotient? left right with
      | some quotient => makeInteger (Word.wrap quotient)
      | none => fail .divisionByZero
  | .less => return .boolean (left < right)
  | .greater => return .boolean (left > right)
  | .equal => return .boolean (left = right)
  | .unequal => return .boolean (left ≠ right)
  | .bang => fail (.unknownInfix .integer operator .integer)
  | .other _ => fail (.unknownInfix .integer operator .integer)

def stringInfix (operator : Operator) (left right : String) : Eval Value :=
  match operator with
  | .plus => makeString (left ++ right)
  | _ => fail (.unknownInfix .string operator .string)

/-- Operands of one type only. Integers and strings are compared by contents or
not at all; all else is equal to itself alone. -/
def applyInfix (operator : Operator) (left right : Value) : Eval Value :=
  if left.tag ≠ right.tag then
    fail (.typeMismatch left.tag operator right.tag)
  else
    match left, right with
    | .integer _ left, .integer _ right => integerInfix operator left right
    | .string _ left, .string _ right => stringInfix operator left right
    | left, right =>
        match operator with
        | .equal => return .boolean (left.same right)
        | .unequal => return .boolean (!left.same right)
        | _ => fail (.unknownInfix left.tag operator right.tag)

/-- Negation of truth maps `false` and `null` to `true` and all else to `false`. -/
def applyPrefix (operator : Operator) (right : Value) : Eval Value :=
  match operator, right with
  | .bang, right => return .boolean (!right.isTruthy)
  | .minus, .integer _ value => makeInteger (Word.wrap (-value))
  | operator, right => fail (.unknownPrefix operator right.tag)

/-- An element of an array, or the value filed under a key. What is not there is
`null`, and so is a position before the first element. -/
def applyIndex (left index : Value) : Eval Value :=
  match left, index with
  | .array _ elements, .integer _ position =>
      if position < 0 then return .null
      else return (elements[position.toNat]?).getD .null
  | .hash _ entries, index =>
      match index.hashKey? with
      | some key => return Hash.get entries key .null
      | none => fail (.notIndexable .hash)
  | left, _ => fail (.notIndexable left.tag)

/-- The length of a string is counted in bytes of its UTF-8 encoding. -/
def lengthOf : Value → Eval Value
  | .string _ text => makeInteger text.utf8ByteSize
  | .array _ elements => makeInteger elements.length
  | value => fail (.notMeasurable value.tag)

/-- Hand the elements of an array argument to a builtin. -/
def withElements (callee : Builtin) (argument : Value) (next : List Value → Eval Value) :
    Eval Value :=
  match argument with
  | .array _ elements => next elements
  | value => fail (.arrayExpected callee value.tag)

def applyBuiltin (callee : Builtin) (arguments : List Value) : Eval Value :=
  match callee, arguments with
  | .len, [argument] => lengthOf argument
  | .first, [argument] => withElements .first argument fun elements =>
      return elements.head?.getD .null
  | .last, [argument] => withElements .last argument fun elements =>
      return elements.getLast?.getD .null
  | .rest, [argument] => withElements .rest argument fun
      | [] => return .null
      | _ :: others => makeArray others
  | .push, [argument, item] => withElements .push argument fun elements =>
      makeArray (elements ++ [item])
  | .push, _ => fail (.wrongArity arguments.length 2)
  | _, _ => fail (.wrongArity arguments.length 1)

end MonkeyLang.Eval
