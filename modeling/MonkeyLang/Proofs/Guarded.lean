import MonkeyLang.Proofs.Answers
import MonkeyLang.Proofs.Parts
import MonkeyLang.Proofs.WellFormed

/-!
Operations that take nothing for granted. Here the parts of a value are asked for and may be
missing, a position may be outside of an array and a divisor may be zero; where this happens, the
host stops. The operations look at the types of their operands before they ask, in the order in
which the tests are made, so on no operands do they stop, and they are those of `Eval`.
-/

namespace MonkeyLang

/-- The faults of programs that come from documents. -/
def Fault.isForeseen : Fault → Bool
  | .builtinRaised _ => false
  | .unknownNode _ => false
  | .stated _ => false
  | _ => true

namespace Value

def number? : Value → Option Int
  | integer _ value => some value
  | _ => none

def text? : Value → Option String
  | string _ text => some text
  | _ => none

def elements? : Value → Option (List Value)
  | array _ elements => some elements
  | _ => none

def entries? : Value → Option (List (HashKey × Value × Value))
  | hash _ entries => some entries
  | _ => none

def isHashable (value : Value) : Bool :=
  value.tag ∈ [Tag.integer, .boolean, .string]

/-- No error and no function of a host; the body of a function is well-formed. -/
def IsRegular : Value → Prop
  | error _ _ => False
  | failing _ _ _ => False
  | function _ _ body _ => body.wellFormed = true
  | _ => True

theorem IsRegular.sound {value : Value} (regular : value.IsRegular) : value.isError = false := by
  cases value with
  | error serial fault => cases regular
  | _ => rfl

theorem eq_integer {value : Value} (integer : value.tag = .integer) :
    ∃ serial number, value = .integer serial number := by
  cases value with
  | integer serial number => exact ⟨serial, number, rfl⟩
  | _ => cases integer

theorem eq_string {value : Value} (string : value.tag = .string) :
    ∃ serial text, value = .string serial text := by
  cases value with
  | string serial text => exact ⟨serial, text, rfl⟩
  | _ => cases string

theorem isRegular_containers : HoldsOfContainers IsRegular :=
  ⟨fun _ _ => trivial, fun _ _ => trivial⟩

end Value

namespace Eval.Guarded

/-- What stops the host. -/
inductive Trap where
  /-- A part was asked of a value of a type without such parts. -/
  | missingPart (found : Tag)
  | missingElement
  | zeroDivisor
  | unknownNode (name : String)
  | unknownPrefix (operator : Operator)
  | builtinRaised (name : String)
  deriving DecidableEq, Repr

abbrev Checked := ExceptT Trap Eval

def given {α : Type} (trap : Trap) : Option α → Checked α
  | some found => return found
  | none => throw trap

def part {α : Type} (read : Value → Option α) (value : Value) : Checked α :=
  given (.missingPart value.tag) (read value)

def integerInfix (operator : Operator) (left right : Value) : Checked Value := do
  let first ← part Value.number? left
  let second ← part Value.number? right
  match operator with
  | .divide =>
      if second = 0 then fail .divisionByZero
      else do
        let quotient ← given .zeroDivisor (Word.quotient? first second)
        makeInteger (Word.wrap quotient)
  | operator => Eval.integerInfix operator first second

def stringInfix (operator : Operator) (left right : Value) : Checked Value :=
  match operator with
  | .plus => do
      let first ← part Value.text? left
      let second ← part Value.text? right
      makeString (first ++ second)
  | operator => fail (.unknownInfix left.tag operator right.tag)

def applyInfix (operator : Operator) (left right : Value) : Checked Value :=
  if left.tag ≠ right.tag then fail (.typeMismatch left.tag operator right.tag)
  else if left.tag = .integer then integerInfix operator left right
  else if left.tag = .string then stringInfix operator left right
  else
    match operator with
    | .equal => return .boolean (left.same right)
    | .unequal => return .boolean (!left.same right)
    | operator => fail (.unknownInfix left.tag operator right.tag)

/-- No other operator stands before an operand. -/
def applyPrefix (operator : Operator) (right : Value) : Checked Value :=
  match operator with
  | .bang => return .boolean (!right.isTruthy)
  | .minus =>
      if right.tag = .integer then do
        let number ← part Value.number? right
        makeInteger (Word.wrap (-number))
      else fail (.unknownPrefix .minus right.tag)
  | operator => throw (.unknownPrefix operator)

def applyIndex (left index : Value) : Checked Value :=
  if left.tag = .array ∧ index.tag = .integer then do
    let position ← part Value.number? index
    let elements ← part Value.elements? left
    if position < 0 ∨ (elements.length : Int) - 1 < position then return .null
    else given .missingElement elements[position.toNat]?
  else if left.tag = .hash ∧ index.isHashable then do
    let entries ← part Value.entries? left
    let key ← part Value.hashKey? index
    return ((entries.lookup key).map Prod.snd).getD .null
  else fail (.notIndexable left.tag)

def lengthOf (value : Value) : Checked Value :=
  if value.tag = .string then do
    let text ← part Value.text? value
    makeInteger text.utf8ByteSize
  else if value.tag = .array then do
    let elements ← part Value.elements? value
    makeInteger elements.length
  else fail (.notMeasurable value.tag)

def withElements (callee : Builtin) (argument : Value) (next : List Value → Checked Value) :
    Checked Value :=
  if argument.tag ≠ .array then fail (.arrayExpected callee argument.tag)
  else do
    let elements ← part Value.elements? argument
    next elements

/-- Whatever stops in here would be the failure of a builtin function. -/
def applyBuiltin (callee : Builtin) (arguments : List Value) : Checked Value :=
  if arguments.length ≠ Semantics.arity callee then
    fail (.wrongArity arguments.length (Semantics.arity callee))
  else do
    let argument ← given .missingElement arguments[0]?
    match callee with
    | .len => lengthOf argument
    | .first => withElements .first argument fun elements =>
        if elements.isEmpty then return .null else given .missingElement elements.head?
    | .last => withElements .last argument fun elements =>
        if elements.isEmpty then return .null else given .missingElement elements.getLast?
    | .rest => withElements .rest argument fun elements =>
        if elements.isEmpty then return .null else makeArray elements.tail
    | .push => withElements .push argument fun elements => do
        let item ← given .missingElement arguments[1]?
        makeArray (elements ++ [item])

/-- On the right the host does not stop, and all is as on the left, where an error is one of
those that are foreseen. -/
structure Safe (left : Eval Value) (right : Checked Value) (before : State) : Prop where
  same : right.run before = (left before).map fun result => (.ok result.1, result.2)
  foreseen : ∀ serial fault after, left before = some (.error serial fault, after) →
    fault.isForeseen = true

section Rules
variable {left : Eval Value} {right : Checked Value} {before : State}

theorem Safe.lift (foreseen : ∀ serial fault after,
    left before = some (.error serial fault, after) → fault.isForeseen = true) :
    Safe left (liftM left) before where
  same := by
    show (left before).bind _ = _
    cases left before <;> rfl
  foreseen := foreseen

/-- A value that was there before. -/
theorem Safe.known {value : Value}
    (foreseen : ∀ serial fault, value = .error serial fault → fault.isForeseen = true) :
    Safe (Pure.pure value) (Pure.pure value) before where
  same := rfl
  foreseen serial fault after run := by
    cases run
    exact foreseen serial fault rfl

theorem Safe.pure {value : Value} (sound : value.isError = false) :
    Safe (Pure.pure value) (Pure.pure value) before := by
  apply Safe.known
  rintro serial fault rfl
  cases sound

theorem Safe.make (build : Nat → Value) (sound : ∀ serial, (build serial).isError = false) :
    Safe (make build) (liftM (make build)) before := by
  apply Safe.lift
  intro serial fault after run
  rw [make_run] at run
  have same : build before.nextSerial = .error serial fault :=
    congrArg Prod.fst (Option.some.inj run)
  have failure := sound before.nextSerial
  rw [same] at failure
  cases failure

theorem Safe.fail {fault : Fault} (foreseen : fault.isForeseen = true) :
    Safe (fail fault) (liftM (fail fault)) before := by
  apply Safe.lift
  intro serial other after run
  rw [fail_run] at run
  cases run
  exact foreseen

theorem Safe.step {α : Type} {head : Eval α} {next : α → Eval Value} {next' : α → Checked Value}
    {value : α} {after : State} (run : head before = some (value, after))
    (tail : Safe (next value) (next' value) after) :
    Safe (head >>= next) (liftM head >>= next') before where
  same := by
    rw [run_bind_lift run, bind_run_of run]
    exact tail.same
  foreseen serial fault last ended := by
    rw [bind_run_of run] at ended
    exact tail.foreseen serial fault last ended

theorem Safe.bind {next : Value → Eval Value} {next' : Value → Checked Value}
    (head : Safe left right before)
    (tail : ∀ value after, left before = some (value, after) →
      Safe (next value) (next' value) after) :
    Safe (left >>= next) (right >>= next') before := by
  have same := head.same
  cases run : left before with
  | none =>
      rw [run] at same
      constructor
      · rw [bind_run_none run, run_bind_none same]
        rfl
      · intro serial fault after ended
        rw [bind_run_none run] at ended
        cases ended
  | some result =>
      obtain ⟨value, after⟩ := result
      rw [run] at same
      obtain ⟨same', foreseen⟩ := tail value after run
      constructor
      · rw [bind_run_of run, run_bind_ok same, same']
      · intro serial fault last ended
        rw [bind_run_of run] at ended
        exact foreseen serial fault last ended

end Rules

section Operations
variable {before : State}

theorem safe_integer (number : Int) :
    Safe (makeInteger number) (liftM (makeInteger number)) before :=
  .make _ fun _ => rfl

theorem safe_string (text : String) :
    Safe (makeString text) (liftM (makeString text)) before :=
  .make _ fun _ => rfl

theorem safe_array (elements : List Value) :
    Safe (makeArray elements) (liftM (makeArray elements)) before :=
  .make _ fun _ => rfl

theorem safe_hash (entries : List (HashKey × Value × Value)) :
    Safe (makeHash entries) (liftM (makeHash entries)) before :=
  .make _ fun _ => rfl

/-- The divisor is not zero once it has been compared with zero. -/
theorem safe_integerInfix (operator : Operator) (serial serial' : Nat) (first second : Int) :
    Safe (Eval.integerInfix operator first second)
      (integerInfix operator (.integer serial first) (.integer serial' second)) before := by
  cases operator with
  | divide =>
      show Safe (Eval.integerInfix .divide first second) (if second = 0 then _ else _) before
      unfold Eval.integerInfix Word.quotient?
      by_cases zero : second = 0
      · rw [if_pos zero, if_pos zero]
        exact .fail rfl
      · rw [if_neg zero, if_neg zero]
        exact safe_integer _
  | plus => exact safe_integer _
  | minus => exact safe_integer _
  | times => exact safe_integer _
  | bang => exact .fail rfl
  | other spelling => exact .fail rfl
  | _ => exact .lift fun _ _ _ run => nomatch run

theorem safe_stringInfix (operator : Operator) (serial serial' : Nat) (first second : String) :
    Safe (Eval.stringInfix operator first second)
      (stringInfix operator (.string serial first) (.string serial' second)) before := by
  cases operator with
  | plus => exact safe_string _
  | _ => exact Safe.fail rfl

theorem safe_infix (operator : Operator) (left right : Value) :
    Safe (Eval.applyInfix operator left right) (applyInfix operator left right) before := by
  unfold applyInfix
  by_cases same : left.tag = right.tag
  · rw [if_neg (not_not.mpr same)]
    by_cases integer : left.tag = .integer
    · rw [if_pos integer]
      obtain ⟨serial, first, rfl⟩ := Value.eq_integer integer
      obtain ⟨serial', second, rfl⟩ := Value.eq_integer same.symm
      exact safe_integerInfix operator serial serial' first second
    rw [if_neg integer]
    by_cases string : left.tag = .string
    · rw [if_pos string]
      obtain ⟨serial, first, rfl⟩ := Value.eq_string string
      obtain ⟨serial', second, rfl⟩ := Value.eq_string same.symm
      exact safe_stringInfix operator serial serial' first second
    rw [if_neg string, Semantics.applyInfix_other same integer string]
    cases operator with
    | equal => exact .pure rfl
    | unequal => exact .pure rfl
    | _ => exact .fail rfl
  · unfold Eval.applyInfix
    rw [if_pos same, if_pos same]
    exact .fail rfl

theorem safe_prefix {operator : Operator} (unary : operator ∈ Operator.unary) (right : Value) :
    Safe (Eval.applyPrefix operator right) (applyPrefix operator right) before := by
  simp only [Operator.unary, List.mem_cons, List.not_mem_nil, or_false] at unary
  rcases unary with rfl | rfl
  · exact .pure rfl
  · cases right with
    | integer serial number => exact safe_integer _
    | _ => exact Safe.fail rfl

/-- An element that is handed out is there, and is no error. -/
theorem safe_element {serial : Nat} {elements : List Value} {found : Option Value}
    (regular : (Value.array serial elements).Throughout Value.IsRegular)
    (present : ∃ value ∈ elements, found = some value) :
    Safe (Pure.pure (found.getD .null)) (given .missingElement found) before := by
  obtain ⟨value, member, rfl⟩ := present
  have clean := Value.isRegular_containers.array_iff.mp regular value member
  exact .pure clean.whole.sound

theorem safe_position {serial : Nat} {elements : List Value}
    (regular : (Value.array serial elements).Throughout Value.IsRegular) (serial' : Nat)
    (position : Int) :
    Safe (Eval.applyIndex (.array serial elements) (.integer serial' position))
      (applyIndex (.array serial elements) (.integer serial' position)) before := by
  show Safe (if position < 0 then _ else _)
    (if position < 0 ∨ (elements.length : Int) - 1 < position then _ else _) before
  by_cases negative : position < 0
  · rw [if_pos negative, if_pos (.inl negative)]
    exact .pure rfl
  rw [if_neg negative]
  by_cases beyond : (elements.length : Int) - 1 < position
  · have absent : elements[position.toNat]? = none := List.getElem?_eq_none (by omega)
    rw [if_pos (.inr beyond), absent]
    exact .pure rfl
  · have inside : position.toNat < elements.length := by omega
    rw [if_neg (by omega)]
    exact safe_element regular ⟨_, List.getElem_mem inside, List.getElem?_eq_getElem inside⟩

theorem safe_index {left : Value} (regular : left.Throughout Value.IsRegular) (index : Value) :
    Safe (Eval.applyIndex left index) (applyIndex left index) before := by
  cases left with
  | array serial elements =>
      cases index with
      | integer serial' position => exact safe_position regular serial' position
      | _ => exact Safe.fail rfl
  | hash serial entries =>
      have filed (key : HashKey) : ((entries.lookup key).map Prod.snd |>.getD .null).isError =
          false := by
        cases found : entries.lookup key with
        | none => rfl
        | some pair =>
            have member := Assoc.mem_of_lookup found
            exact (Value.isRegular_containers.hash_iff.mp regular _ member).2.whole.sound
      cases index with
      | integer _ _ => exact Safe.pure (filed _)
      | boolean _ => exact Safe.pure (filed _)
      | string _ _ => exact Safe.pure (filed _)
      | _ => exact Safe.fail rfl
  | _ => exact Safe.fail rfl

theorem safe_length (argument : Value) :
    Safe (Eval.lengthOf argument) (lengthOf argument) before := by
  cases argument with
  | string serial text => exact safe_integer _
  | array serial elements => exact safe_integer _
  | _ => exact Safe.fail rfl

theorem safe_withElements (callee : Builtin) {argument : Value}
    {next : List Value → Eval Value} {next' : List Value → Checked Value}
    (rest : ∀ serial elements, argument = .array serial elements →
      Safe (next elements) (next' elements) before) :
    Safe (Eval.withElements callee argument next) (withElements callee argument next') before := by
  cases argument with
  | array serial elements => exact rest serial elements rfl
  | _ => exact Safe.fail rfl

theorem safe_builtin (callee : Builtin) {arguments : List Value}
    (regular : ∀ argument ∈ arguments, argument.Throughout Value.IsRegular) :
    Safe (Eval.applyBuiltin callee arguments) (applyBuiltin callee arguments) before := by
  unfold applyBuiltin
  by_cases wrong : arguments.length ≠ Semantics.arity callee
  · rw [if_pos wrong, Semantics.applyBuiltin_arity wrong]
    exact .fail rfl
  rw [if_neg wrong]
  rw [not_not] at wrong
  cases callee with
  | len =>
      obtain ⟨argument, rfl⟩ := List.length_eq_one_iff.mp wrong
      exact safe_length argument
  | first =>
      obtain ⟨argument, rfl⟩ := List.length_eq_one_iff.mp wrong
      apply safe_withElements
      rintro serial elements rfl
      cases elements with
      | nil => exact .pure rfl
      | cons head rest =>
          exact safe_element (regular _ List.mem_cons_self) ⟨head, List.mem_cons_self, rfl⟩
  | last =>
      obtain ⟨argument, rfl⟩ := List.length_eq_one_iff.mp wrong
      apply safe_withElements
      rintro serial elements rfl
      cases elements with
      | nil => exact .pure rfl
      | cons head rest =>
          have member := List.getLast_mem (List.cons_ne_nil head rest)
          exact safe_element (regular _ List.mem_cons_self) ⟨_, member, rfl⟩
  | rest =>
      obtain ⟨argument, rfl⟩ := List.length_eq_one_iff.mp wrong
      apply safe_withElements
      rintro serial elements -
      cases elements with
      | nil => exact .pure rfl
      | cons head rest => exact safe_array rest
  | push =>
      obtain ⟨argument, item, rfl⟩ := List.length_eq_two.mp wrong
      apply safe_withElements
      intro serial elements _
      exact safe_array _

end Operations

end Eval.Guarded

end MonkeyLang
