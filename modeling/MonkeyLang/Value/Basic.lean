import MonkeyLang.Syntax.Node
import MonkeyLang.Value.Fault
import MonkeyLang.Value.HashKey

/-!
Runtime values. Arrays, hashes and functions never change, so a value holds its
parts directly; only scopes are shared, and a function refers to the scope it was
made in by number. Every value that is made carries a serial number, which is
its identity: `true`, `false`, `null` and the builtins exist once and need none.
-/

namespace MonkeyLang

/-- The number of a scope in the store. -/
abbrev ScopeId := Nat

inductive Value where
  | integer (serial : Nat) (value : Int)
  | string (serial : Nat) (text : String)
  | boolean (value : Bool)
  | null
  | array (serial : Nat) (elements : List Value)
  /-- Each entry is filed under the key of its own key object. -/
  | hash (serial : Nat) (entries : List (HashKey × Value × Value))
  | function (serial : Nat) (parameters : List String) (body : Node) (scope : ScopeId)
  | builtin (builtin : Builtin)
  /-- A host's own function under a name, every call of which fails. -/
  | failing (serial : Nat) (name detail : String)
  /-- The value of a return statement on its way to the enclosing call. -/
  | returned (serial : Nat) (value : Value)
  | error (serial : Nat) (fault : Fault)

instance : Inhabited Value := ⟨.null⟩

/-- What makes two values the same object. -/
inductive Identity where
  | made (serial : Nat)
  | boolean (value : Bool)
  | null
  | builtin (builtin : Builtin)
  deriving DecidableEq

namespace Value

def tag : Value → Tag
  | integer _ _ => .integer
  | string _ _ => .string
  | boolean _ => .boolean
  | null => .null
  | array _ _ => .array
  | hash _ _ => .hash
  | function _ _ _ _ => .function
  | builtin _ => .builtin
  | failing _ _ _ => .builtin
  | returned _ _ => .returned
  | error _ _ => .error

def identity : Value → Identity
  | integer serial _ => .made serial
  | string serial _ => .made serial
  | boolean value => .boolean value
  | null => .null
  | array serial _ => .made serial
  | hash serial _ => .made serial
  | function serial _ _ _ => .made serial
  | builtin callee => .builtin callee
  | failing serial _ _ => .made serial
  | returned serial _ => .made serial
  | error serial _ => .made serial

/-- Whether two values are one object, whatever they contain. -/
def same (left right : Value) : Bool :=
  left.identity = right.identity

def isError : Value → Bool
  | error _ _ => true
  | _ => false

/-- A returned value and an error both end a sequence of statements. -/
def isInterrupt : Value → Bool
  | returned _ _ => true
  | error _ _ => true
  | _ => false

/-- Only `false` and `null` are not truthy; zero and empty values are. -/
def isTruthy : Value → Bool
  | boolean value => value
  | null => false
  | _ => true

/-- The key under which a value is filed; integers, booleans and strings have one. -/
def hashKey? : Value → Option HashKey
  | integer _ value => some (.ofInteger value)
  | boolean value => some (.ofBoolean value)
  | string _ text => some (.ofString text)
  | _ => none

/-- What a call hands to its caller: one wrapper is taken off a returned value. -/
def unwrapped : Value → Value
  | returned _ value => value
  | value => value

end Value

namespace Hash

/-- The value that is filed under a key. -/
def find? (entries : List (HashKey × Value × Value)) (slot : HashKey) : Option Value :=
  (entries.lookup slot).map Prod.snd

/-- `get` of a hash. Where the default is no value of the language, `find?` is what it does. -/
def get (entries : List (HashKey × Value × Value)) (slot : HashKey) (default : Value) : Value :=
  (find? entries slot).getD default

end Hash

end MonkeyLang
