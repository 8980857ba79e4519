import MonkeyLang.Json.Parser
import MonkeyLang.Number.Word
import MonkeyLang.Syntax.Node
import MonkeyLang.Text.Encoding

/-!
Programs as documents. A syntax tree is written in JSON: every node is an object
whose member `node` names its kind, beside the members that this kind has.
Identifiers in `name` and `parameters` may be plain strings, and an absent or null
`alternative` means that there is none. Members that a kind does not have are
ignored.
-/

namespace MonkeyLang

/-- Why a document holds no program. -/
inductive DocumentError where
  | undecodable (error : Text.EncodingError)
  | malformed (complaint : Json.Complaint) (position : Json.Position)
  /-- An integer literal with too many digits. -/
  | overlongInteger (digits : Nat)
  /-- An array or object where a kind or an operator is looked up. -/
  | compoundKey (found : Json.Shape)
  | nodeExpected (found : Json.Shape)
  | unknownKind (found : Json.Value)
  | missingMember (kind member : String)
  | textExpected (kind : String) (found : Json.Value)
  | kindExpected (wanted found : String)
  | nodesExpected (found : Json.Shape)
  | parametersExpected (found : Json.Shape)
  | pairsExpected (found : Json.Shape)
  | pairExpected
  | integerExpected (found : Json.Value)
  | integerOutOfRange (value : Int)
  | booleanExpected (found : Json.Value)
  | unsupportedOperator (found : Json.Value) (kind : String)

namespace DocumentError

def message : DocumentError → String
  | undecodable error => error.message
  | malformed complaint position =>
      "invalid JSON: " ++ complaint.message ++ ": " ++ position.describe
  | overlongInteger digits =>
      s!"Exceeds the limit ({Json.digitLimit} digits) for integer string conversion: " ++
        s!"value has {digits} digits; use sys.set_int_max_str_digits() to increase the limit"
  | compoundKey found => "unhashable type: '" ++ found.name ++ "'"
  | nodeExpected found => "expected a node object, got " ++ found.name
  | unknownKind found => "unknown node kind: " ++ found.display
  | missingMember kind member => kind ++ " node is missing field " ++ Text.quoted member
  | textExpected kind found => kind ++ " value must be a string, got " ++ found.display
  | kindExpected wanted found => "expected " ++ wanted ++ ", got " ++ found
  | nodesExpected found => "expected a list of nodes, got " ++ found.name
  | parametersExpected found => "expected a list of parameters, got " ++ found.name
  | pairsExpected found => "expected a list of hash pairs, got " ++ found.name
  | pairExpected => "hash pairs must be [key, value] arrays"
  | integerExpected found => "IntegerLiteral value must be an integer, got " ++ found.display
  | integerOutOfRange value => s!"IntegerLiteral value out of 64-bit range: {value}"
  | booleanExpected found => "Boolean value must be true or false, got " ++ found.display
  | unsupportedOperator found kind => "unsupported operator " ++ found.display ++ " in " ++ kind

/-- Whether the document was read and then refused, rather than beyond reading. -/
def isRefusal : DocumentError → Bool
  | undecodable _ => false
  | overlongInteger _ => false
  | compoundKey _ => false
  | _ => true

end DocumentError

namespace Document

abbrev Decoded (α : Type) := Except DocumentError α

abbrev Members := List (String × Json.Value)

/-- A member that its kind must have. -/
def required (members : Members) (kind name : String) : Decoded Json.Value :=
  match members.lookup name with
  | some value => .ok value
  | none => .error (.missingMember kind name)

/-- Decode the elements of an array from left to right. -/
def decodeEach {α : Type} (decode : Json.Value → Decoded α) : List Json.Value → Decoded (List α)
  | [] => .ok []
  | value :: rest => do
      let first ← decode value
      let others ← decodeEach decode rest
      return first :: others

def decodeNodes (sub : Json.Value → Decoded Node) : Json.Value → Decoded (List Node)
  | .array elements => decodeEach sub elements
  | value => .error (.nodesExpected value.shape)

/-- A name, as a string or as an identifier node. -/
def decodeName (sub : Json.Value → Decoded Node) : Json.Value → Decoded String
  | .string name => .ok name
  | value => do
      match ← sub value with
      | .identifier name => return name
      | node => .error (.kindExpected "Identifier" node.kind)

def decodeNames (sub : Json.Value → Decoded Node) : Json.Value → Decoded (List String)
  | .array elements => decodeEach (decodeName sub) elements
  | value => .error (.parametersExpected value.shape)

def decodeBlock (sub : Json.Value → Decoded Node) (value : Json.Value) : Decoded Node := do
  match ← sub value with
  | .blockStatement statements => return .blockStatement statements
  | node => .error (.kindExpected "BlockStatement" node.kind)

def decodePair (sub : Json.Value → Decoded Node) : Json.Value → Decoded (Node × Node)
  | .array [key, value] => do return (← sub key, ← sub value)
  | _ => .error .pairExpected

def decodePairs (sub : Json.Value → Decoded Node) : Json.Value → Decoded (List (Node × Node))
  | .array elements => decodeEach (decodePair sub) elements
  | value => .error (.pairsExpected value.shape)

def decodeText (kind : String) : Json.Value → Decoded String
  | .string text => .ok text
  | value => .error (.textExpected kind value)

def decodeInteger : Json.Value → Decoded Int
  | .integer value =>
      if Word.InRange value then .ok value else .error (.integerOutOfRange value)
  | value => .error (.integerExpected value)

def decodeBoolean : Json.Value → Decoded Bool
  | .boolean value => .ok value
  | value => .error (.booleanExpected value)

/-- An operator among those allowed. -/
def decodeOperator (kind : String) (allowed : List Operator) : Json.Value → Decoded Operator
  | .array _ => .error (.compoundKey .array)
  | .object _ => .error (.compoundKey .object)
  | .string text =>
      if Operator.ofSpelling text ∈ allowed then .ok (.ofSpelling text)
      else .error (.unsupportedOperator (.string text) kind)
  | value => .error (.unsupportedOperator value kind)

/-- The branch of an `if` that may be missing. -/
def decodeAlternative (sub : Json.Value → Decoded Node) : Option Json.Value → Decoded (Option Node)
  | none => .ok none
  | some .null => .ok none
  | some value => return some (← decodeBlock sub value)

/-- The node that the members of an object describe, by the kind they name. Members are
looked at in the order in which a reader would write them. -/
def decodeKind (sub : Json.Value → Decoded Node) (kind : String) (members : Members) :
    Decoded Node :=
  let member := required members kind
  match kind with
  | "Program" => do return .program (← decodeNodes sub (← member "statements"))
  | "BlockStatement" => do return .blockStatement (← decodeNodes sub (← member "statements"))
  | "ExpressionStatement" => do return .expressionStatement (← sub (← member "expression"))
  | "LetStatement" => do
      let name ← decodeName sub (← member "name")
      return .letStatement name (← sub (← member "value"))
  | "ReturnStatement" => do return .returnStatement (← sub (← member "return_value"))
  | "Identifier" => do return .identifier (← decodeText kind (← member "value"))
  | "IntegerLiteral" => do return .integerLiteral (← decodeInteger (← member "value"))
  | "StringLiteral" => do return .stringLiteral (← decodeText kind (← member "value"))
  | "Boolean" => do return .booleanLiteral (← decodeBoolean (← member "value"))
  | "PrefixExpression" => do
      let operator ← decodeOperator kind Operator.unary (← member "operator")
      return .prefixExpression operator (← sub (← member "right"))
  | "InfixExpression" => do
      let left ← sub (← member "left")
      let operator ← decodeOperator kind Operator.all (← member "operator")
      return .infixExpression left operator (← sub (← member "right"))
  | "IfExpression" => do
      let condition ← sub (← member "condition")
      let consequence ← decodeBlock sub (← member "consequence")
      let alternative ← decodeAlternative sub (members.lookup "alternative")
      return .ifExpression condition consequence alternative
  | "FunctionLiteral" => do
      let parameters ← decodeNames sub (← member "parameters")
      return .functionLiteral parameters (← decodeBlock sub (← member "body"))
  | "CallExpression" => do
      let callee ← sub (← member "function")
      return .callExpression callee (← decodeNodes sub (← member "arguments"))
  | "ArrayLiteral" => do return .arrayLiteral (← decodeNodes sub (← member "elements"))
  | "IndexExpression" => do
      let left ← sub (← member "left")
      return .indexExpression left (← sub (← member "index"))
  | "HashLiteral" => do return .hashLiteral (← decodePairs sub (← member "pairs"))
  | _ => .error (.unknownKind (.string kind))

/-- One node, given a way to decode the values below it. -/
def decodeNode (sub : Json.Value → Decoded Node) : Json.Value → Decoded Node
  | .object members =>
      match members.lookup "node" with
      | some (.string kind) => decodeKind sub kind members
      | some (.array _) => .error (.compoundKey .array)
      | some (.object _) => .error (.compoundKey .object)
      | some value => .error (.unknownKind value)
      | none => .error (.unknownKind .null)
  | value => .error (.nodeExpected value.shape)

/-- Decoding of values nested at most `depth` deep. -/
def decodeWithin : Nat → Json.Value → Decoded Node
  | 0, value => .error (.nodeExpected value.shape)
  | depth + 1, value => decodeNode (decodeWithin depth) value

/-- The tree that a JSON value describes. -/
def decode (value : Json.Value) : Decoded Node :=
  decodeWithin (value.depth + 1) value

/-- The tree in a JSON text. -/
def ofText (text : String) : Decoded Node :=
  match Json.parse text with
  | .ok value => decode value
  | .error (.malformed complaint position) => .error (.malformed complaint position)
  | .error (.overlong digits) => .error (.overlongInteger digits)

/-- The tree in the bytes of a file: UTF-8, with line ends of any kind. -/
def ofBytes (bytes : List UInt8) : Decoded Node :=
  match Text.decodeUtf8 bytes with
  | .ok chars => ofText (String.ofList (Text.unifyLineEnds chars))
  | .error error => .error (.undecodable error)

end Document

end MonkeyLang
