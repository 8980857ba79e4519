import MonkeyLang.Proofs.Positions
import MonkeyLang.Proofs.Steps

/-!
The meaning of programs as rules, without reference to an evaluator. An outcome is a value
together with a store: the scopes with their bindings and links, and the number that the next
object gets. There are one or more rules for each kind of node and one for each cause of an
error; order and exits are in the premises. There is no rule for a node that the language
does not define, nor for a function of a host.
-/

namespace MonkeyLang

/-- What evaluation reads and writes. -/
structure Store where
  scopes : Scopes
  nextSerial : Nat

def State.store (state : State) : Store :=
  ⟨state.scopes, state.nextSerial⟩

namespace Store

/-- The store after an object was made. -/
def made (store : Store) : Store :=
  { store with nextSerial := store.nextSerial + 1 }

def bound (store : Store) (scope : ScopeId) (name : String) (value : Value) : Store :=
  { store with scopes := store.scopes.bind scope name value }

/-- The store after a scope was opened inside another and names were bound in it in turn. -/
def entered (store : Store) (outer : ScopeId) (bindings : List (String × Value)) : Store :=
  { store with scopes := (store.scopes.create (some outer)).bindAll store.scopes.next bindings }

end Store

namespace Semantics

/-- The signed 64-bit integer that is congruent to another one. -/
def Wraps (exact result : Int) : Prop :=
  Word.InRange result ∧ (18446744073709551616 : Int) ∣ exact - result

/-- Division toward zero: what remains is smaller than the divisor and has the sign of the
dividend. -/
def Truncates (dividend divisor quotient : Int) : Prop :=
  ∃ remainder, dividend = divisor * quotient + remainder ∧
    remainder.natAbs < divisor.natAbs ∧ (remainder = 0 ∨ remainder.sign = dividend.sign)

/-- Whether an `if` takes its second branch. -/
def Falsy (value : Value) : Prop :=
  value = .boolean false ∨ value = .null

/-- What a name is bound to, here or further out. -/
inductive Finds (scopes : Scopes) (name : String) : ScopeId → Value → Prop where
  | here {scope value} : (scopes.bindings scope).lookup name = some value →
      Finds scopes name scope value
  | outside {scope around value} : (scopes.bindings scope).lookup name = none →
      scopes.outer? scope = some around → Finds scopes name around value →
        Finds scopes name scope value

inductive Unbound (scopes : Scopes) (name : String) : ScopeId → Prop where
  | outermost {scope} : (scopes.bindings scope).lookup name = none →
      scopes.outer? scope = none → Unbound scopes name scope
  | outside {scope around} : (scopes.bindings scope).lookup name = none →
      scopes.outer? scope = some around → Unbound scopes name around → Unbound scopes name scope

/-- What an operation on values answers: a value that is there already, a new object, or an
error. -/
inductive Answer where
  | plain (value : Value)
  | fresh (build : Nat → Value)
  | failure (fault : Fault)

namespace Answer

def integer (value : Int) : Answer :=
  .fresh fun serial => .integer serial value

def string (text : String) : Answer :=
  .fresh fun serial => .string serial text

def array (elements : List Value) : Answer :=
  .fresh fun serial => .array serial elements

def value (store : Store) : Answer → Value
  | plain value => value
  | fresh build => build store.nextSerial
  | failure fault => .error store.nextSerial fault

def after (store : Store) : Answer → Store
  | plain _ => store
  | fresh _ => store.made
  | failure _ => store.made

end Answer

/-- The operators there are between two operands of one type. -/
def operatorsOf : Tag → List Operator
  | .integer => [.plus, .minus, .times, .divide, .equal, .unequal, .less, .greater]
  | .string => [.plus]
  | _ => [.equal, .unequal]

inductive PrefixAnswer : Operator → Value → Answer → Prop where
  | negation {value truth} : (truth = true ↔ Falsy value) →
      PrefixAnswer .bang value (.plain (.boolean truth))
  | negative {serial number result} : Wraps (-number) result →
      PrefixAnswer .minus (.integer serial number) (.integer result)
  | unknown {value} : value.tag ≠ .integer →
      PrefixAnswer .minus value (.failure (.unknownPrefix .minus value.tag))

inductive InfixAnswer : Operator → Value → Value → Answer → Prop where
  | mismatch {operator left right} : left.tag ≠ right.tag →
      InfixAnswer operator left right (.failure (.typeMismatch left.tag operator right.tag))
  | unknown {operator left right} : left.tag = right.tag → operator ∉ operatorsOf left.tag →
      InfixAnswer operator left right (.failure (.unknownInfix left.tag operator right.tag))
  | sum {serial serial' left right result} : Wraps (left + right) result →
      InfixAnswer .plus (.integer serial left) (.integer serial' right) (.integer result)
  | difference {serial serial' left right result} : Wraps (left - right) result →
      InfixAnswer .minus (.integer serial left) (.integer serial' right) (.integer result)
  | product {serial serial' left right result} : Wraps (left * right) result →
      InfixAnswer .times (.integer serial left) (.integer serial' right) (.integer result)
  | quotient {serial serial' left right exact result} : Truncates left right exact →
      Wraps exact result →
        InfixAnswer .divide (.integer serial left) (.integer serial' right) (.integer result)
  | division_by_zero {serial serial' left} :
      InfixAnswer .divide (.integer serial left) (.integer serial' 0) (.failure .divisionByZero)
  | less {serial serial' left right truth} : (truth = true ↔ left < right) →
      InfixAnswer .less (.integer serial left) (.integer serial' right) (.plain (.boolean truth))
  | greater {serial serial' left right truth} : (truth = true ↔ right < left) →
      InfixAnswer .greater (.integer serial left) (.integer serial' right)
        (.plain (.boolean truth))
  | equal {serial serial' left right truth} : (truth = true ↔ left = right) →
      InfixAnswer .equal (.integer serial left) (.integer serial' right) (.plain (.boolean truth))
  | unequal {serial serial' left right truth} : (truth = true ↔ left ≠ right) →
      InfixAnswer .unequal (.integer serial left) (.integer serial' right)
        (.plain (.boolean truth))
  | concatenation {serial serial' left right} :
      InfixAnswer .plus (.string serial left) (.string serial' right) (.string (left ++ right))
  | identical {left right truth} : left.tag = right.tag → left.tag ≠ .integer →
      left.tag ≠ .string → (truth = true ↔ left.identity = right.identity) →
        InfixAnswer .equal left right (.plain (.boolean truth))
  | distinct {left right truth} : left.tag = right.tag → left.tag ≠ .integer →
      left.tag ≠ .string → (truth = true ↔ left.identity ≠ right.identity) →
        InfixAnswer .unequal left right (.plain (.boolean truth))

inductive IndexAnswer : Value → Value → Answer → Prop where
  | element {serial serial' elements value} {place : Nat} : elements[place]? = some value →
      IndexAnswer (.array serial elements) (.integer serial' place) (.plain value)
  | beyond {serial serial' elements} {place : Int} : place < 0 ∨ elements.length ≤ place →
      IndexAnswer (.array serial elements) (.integer serial' place) (.plain .null)
  | filed {serial entries index key own value} : index.hashKey? = some key →
      entries.lookup key = some (own, value) →
        IndexAnswer (.hash serial entries) index (.plain value)
  | absent {serial entries index key} : index.hashKey? = some key → entries.lookup key = none →
      IndexAnswer (.hash serial entries) index (.plain .null)
  | unsupported {left index} : (left.tag = .array → index.tag ≠ .integer) →
      (left.tag = .hash → index.hashKey? = none) →
        IndexAnswer left index (.failure (.notIndexable left.tag))

/-- How many arguments a builtin takes. -/
def arity : Builtin → Nat
  | .push => 2
  | _ => 1

inductive BuiltinAnswer : Builtin → List Value → Answer → Prop where
  | wrong_arity {callee arguments} : arguments.length ≠ arity callee →
      BuiltinAnswer callee arguments (.failure (.wrongArity arguments.length (arity callee)))
  | text_length {serial text} :
      BuiltinAnswer .len [.string serial text] (.integer text.utf8ByteSize)
  | array_length {serial elements} :
      BuiltinAnswer .len [.array serial elements] (.integer elements.length)
  | not_measurable {value} : value.tag ≠ .string → value.tag ≠ .array →
      BuiltinAnswer .len [value] (.failure (.notMeasurable value.tag))
  | first {serial value rest} :
      BuiltinAnswer .first [.array serial (value :: rest)] (.plain value)
  | last {serial front value} :
      BuiltinAnswer .last [.array serial (front ++ [value])] (.plain value)
  | rest {serial value rest} : BuiltinAnswer .rest [.array serial (value :: rest)] (.array rest)
  | empty {callee serial} : callee ∈ [Builtin.first, .last, .rest] →
      BuiltinAnswer callee [.array serial []] (.plain .null)
  | push {serial elements value} :
      BuiltinAnswer .push [.array serial elements, value] (.array (elements ++ [value]))
  | not_an_array {callee value more} : callee ≠ .len → (value :: more).length = arity callee →
      value.tag ≠ .array →
        BuiltinAnswer callee (value :: more) (.failure (.arrayExpected callee value.tag))

/-- The entries of a hash under construction. -/
abbrev Entries := List (HashKey × Value × Value)

mutual

/-- What a node evaluates to in a scope, and the store afterwards. -/
inductive Derives : Node → ScopeId → Store → Value → Store → Prop where
  | program_ends {statements home before value after} :
      Sequence statements home .null before value after → value.tag ≠ .returned →
        Derives (.program statements) home before value after
  | program_returns {statements home before serial value after} :
      Sequence statements home .null before (.returned serial value) after →
        Derives (.program statements) home before value after
  | block {statements home before value after} :
      Sequence statements home .null before value after →
        Derives (.blockStatement statements) home before value after
  | expression {expression home before value after} :
      Derives expression home before value after →
        Derives (.expressionStatement expression) home before value after
  | binding {name expression home before value after} :
      Derives expression home before value after → value.isError = false →
        Derives (.letStatement name expression) home before .null (after.bound home name value)
  | return_ {expression home before value after} :
      Derives expression home before value after → value.isError = false →
        Derives (.returnStatement expression) home before
          (.returned after.nextSerial value) after.made
  | bound {name home store value} : Finds store.scopes name home value →
      Derives (.identifier name) home store value store
  | builtin {callee home store} : Unbound store.scopes callee.name home →
      Derives (.identifier callee.name) home store (.builtin callee) store
  | unbound {name home store} : Unbound store.scopes name home →
      (∀ callee : Builtin, callee.name ≠ name) →
        Derives (.identifier name) home store
          (.error store.nextSerial (.unboundIdentifier name)) store.made
  | integer {number home store} : Derives (.integerLiteral number) home store
      (.integer store.nextSerial number) store.made
  | string {text home store} : Derives (.stringLiteral text) home store
      (.string store.nextSerial text) store.made
  | boolean {truth home store} : Derives (.booleanLiteral truth) home store (.boolean truth) store
  | function {parameters body home store} : Derives (.functionLiteral parameters body) home store
      (.function store.nextSerial parameters body home) store.made
  | prefixed {operator right home before value after answer} :
      Derives right home before value after → value.isError = false →
        PrefixAnswer operator value answer →
          Derives (.prefixExpression operator right) home before (answer.value after)
            (answer.after after)
  | infixed {left operator right home before first middle second after answer} :
      Derives left home before first middle → first.isError = false →
        Derives right home middle second after → second.isError = false →
          InfixAnswer operator first second answer →
            Derives (.infixExpression left operator right) home before (answer.value after)
              (answer.after after)
  | indexed {left index home before first middle second after answer} :
      Derives left home before first middle → first.isError = false →
        Derives index home middle second after → second.isError = false →
          IndexAnswer first second answer →
            Derives (.indexExpression left index) home before (answer.value after)
              (answer.after after)
  | consequence {condition consequence alternative home before truth middle value after} :
      Derives condition home before truth middle → truth.isError = false → ¬ Falsy truth →
        Derives consequence home middle value after →
          Derives (.ifExpression condition consequence alternative) home before value after
  | alternative {condition consequence alternative home before truth middle value after} :
      Derives condition home before truth middle → Falsy truth →
        Derives alternative home middle value after →
          Derives (.ifExpression condition consequence (some alternative)) home before value after
  | neither {condition consequence home before truth after} :
      Derives condition home before truth after → Falsy truth →
        Derives (.ifExpression condition consequence none) home before .null after
  | call {callee arguments home before function middle values ready value after} :
      Derives callee home before function middle → function.isError = false →
        Operands arguments home middle (.ok values) ready →
          Applies function values ready value after →
            Derives (.callExpression callee arguments) home before value after
  | array {elements home before values after} :
      Operands elements home before (.ok values) after →
        Derives (.arrayLiteral elements) home before (.array after.nextSerial values) after.made
  | hash {pairs home before entries after} : Pairs pairs home [] before (.ok entries) after →
      Derives (.hashLiteral pairs) home before (.hash after.nextSerial entries) after.made
  | hash_fails {pairs home before failure after} :
      Pairs pairs home [] before (.error failure) after →
        Derives (.hashLiteral pairs) home before failure after
  /-- The first error among the operands of a node is the value of the node. -/
  | operand_fails {node home before failure after} : (∀ pairs, node ≠ .hashLiteral pairs) →
      Operands node.operands home before (.error failure) after →
        Derives node home before failure after

/-- Operands from left to right: the values of all of them, or the first error. -/
inductive Operands : List Node → ScopeId → Store → Except Value (List Value) → Store → Prop where
  | nil {home store} : Operands [] home store (.ok []) store
  | cons {node rest home before value middle values after} :
      Derives node home before value middle → value.isError = false →
        Operands rest home middle (.ok values) after →
          Operands (node :: rest) home before (.ok (value :: values)) after
  | fails {node rest home before failure after} :
      Derives node home before failure after → failure.isError = true →
        Operands (node :: rest) home before (.error failure) after
  | fails_later {node rest home before value middle failure after} :
      Derives node home before value middle → value.isError = false →
        Operands rest home middle (.error failure) after →
          Operands (node :: rest) home before (.error failure) after

/-- Statements in turn, up to the first that ends in a returned value or an error. The value of
the statement before them is the value of none. -/
inductive Sequence : List Node → ScopeId → Value → Store → Value → Store → Prop where
  | nil {home last store} : Sequence [] home last store last store
  | cons {statement rest home last before value middle result after} :
      Derives statement home before value middle → value.tag ≠ .returned → value.tag ≠ .error →
        Sequence rest home value middle result after →
          Sequence (statement :: rest) home last before result after
  | ends {statement rest home last before value after} :
      Derives statement home before value after → value.tag = .returned ∨ value.tag = .error →
        Sequence (statement :: rest) home last before value after

/-- The pairs of a hash literal in turn. A key must be hashable before its value is evaluated. -/
inductive Pairs : List (Node × Node) → ScopeId → Entries → Store → Except Value Entries →
    Store → Prop where
  | nil {home entries store} : Pairs [] home entries store (.ok entries) store
  | cons {key item rest home entries before own keyed slot value valued outcome after} :
      Derives key home before own keyed → own.isError = false → own.hashKey? = some slot →
        Derives item home keyed value valued → value.isError = false →
          Pairs rest home (Assoc.insert slot (own, value) entries) valued outcome after →
            Pairs ((key, item) :: rest) home entries before outcome after
  | key_fails {key item rest home entries before failure after} :
      Derives key home before failure after → failure.isError = true →
        Pairs ((key, item) :: rest) home entries before (.error failure) after
  | not_hashable {key item rest home entries before own after} :
      Derives key home before own after → own.isError = false → own.hashKey? = none →
        Pairs ((key, item) :: rest) home entries before
          (.error (.error after.nextSerial (.notHashable own.tag))) after.made
  | value_fails {key item rest home entries before own keyed slot failure after} :
      Derives key home before own keyed → own.isError = false → own.hashKey? = some slot →
        Derives item home keyed failure after → failure.isError = true →
          Pairs ((key, item) :: rest) home entries before (.error failure) after

/-- A value that is called with arguments. The body of a function runs in a new scope inside of the
one that the function was made in. -/
inductive Applies : Value → List Value → Store → Value → Store → Prop where
  | wrong_arity {serial parameters body closure arguments store} :
      arguments.length ≠ parameters.length →
        Applies (.function serial parameters body closure) arguments store
          (.error store.nextSerial (.wrongArity arguments.length parameters.length)) store.made
  | body_ends {serial parameters body closure arguments before value after} :
      arguments.length = parameters.length →
        Derives body before.scopes.next (before.entered closure (parameters.zip arguments))
          value after →
          value.tag ≠ .returned →
            Applies (.function serial parameters body closure) arguments before value after
  | body_returns {serial parameters body closure arguments before serial' value after} :
      arguments.length = parameters.length →
        Derives body before.scopes.next (before.entered closure (parameters.zip arguments))
          (.returned serial' value) after →
          Applies (.function serial parameters body closure) arguments before value after
  | builtin {callee arguments store answer} : BuiltinAnswer callee arguments answer →
      Applies (.builtin callee) arguments store (answer.value store) (answer.after store)
  | not_a_function {value arguments store} : value.tag ≠ .function → value.tag ≠ .builtin →
      Applies value arguments store (.error store.nextSerial (.notCallable value.tag)) store.made

end

end Semantics

end MonkeyLang
