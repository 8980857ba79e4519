import MonkeyLang.Proofs.Provenance
import MonkeyLang.Proofs.Simulation
import Mathlib.Order.Basic

/-!
Facts about a run that may grow with it. A `Growth` says what is true of the states, of the
values and of the nodes to be evaluated, each in a world; worlds get larger as objects are made
and scopes are opened, and what is true of a value or a node stays true in larger worlds. If each
elementary step keeps a growth, every evaluation does: the state it ends in and the value it
ends with, be it an error or not, are as they should be in some larger world.
-/

namespace MonkeyLang

/-- A new object that is no function and no error, with the values that it holds. -/
inductive Value.Built (held : Value → Prop) (serial : Nat) : Value → Prop where
  | integer (number : Int) : Built held serial (.integer serial number)
  | string (text : String) : Built held serial (.string serial text)
  | array {elements : List Value} : (∀ element ∈ elements, held element) →
      Built held serial (.array serial elements)
  | hash {entries : List (HashKey × Value × Value)} : Eval.Filed entries →
      (∀ entry ∈ entries, held entry.2.1 ∧ held entry.2.2) → Built held serial (.hash serial entries)
  | returned {value : Value} : held value → Built held serial (.returned serial value)

namespace Eval

structure Growth (World : Type) [Preorder World] where
  state : World → State → Prop
  value : World → Value → Prop
  /-- Whether a node may be evaluated in a scope. -/
  node : World → Node → ScopeId → Prop

namespace Growth

variable {World : Type} [Preorder World] (growth : Growth World)

/-- How a computation should end. -/
def Ends (world : World) (value : Value) (after : State) : Prop :=
  ∃ later, world ≤ later ∧ growth.state later after ∧ growth.value later value

/-- If the computation ends, it ends as it should. -/
def Keeps (world : World) (computation : Eval Value) (before : State) : Prop :=
  ∀ value after, computation before = some (value, after) → growth.Ends world value after

structure Lawful : Prop where
  grows {world later value} : world ≤ later → growth.value world value → growth.value later value
  node_grows {world later node scope} : world ≤ later → growth.node world node scope →
    growth.node later node scope
  noted {world state} (severity : Severity) (level : Level) (event : Event) :
    growth.state world state → growth.state world (state.noted severity level event)
  alarmed {world state} (event : Event) : growth.state world state →
    growth.state world (state.alarmed event)
  /-- The counts; the size of a block is compared below. -/
  counted {world state} {change : Counters → Counters} : Counters.IsGain change →
    (∀ counters, (change counters).largestBlock = counters.largestBlock) →
      growth.state world state → growth.state world (state.counted change)
  compared {world state statements scope} : growth.node world (.blockStatement statements) scope →
    growth.state world state → growth.state world (state.counted fun counters =>
      { counters with largestBlock := max counters.largestBlock statements.length })
  fails {world state} (fault : Fault) : growth.state world state →
    growth.Ends world (.error state.nextSerial fault) (state.failed fault)
  null {world} : growth.value world .null
  boolean {world} (truth : Bool) : growth.value world (.boolean truth)
  builtin {world} (builtin : Builtin) : growth.value world (.builtin builtin)
  built {world state value} : growth.state world state →
    value.Built (growth.value world) state.nextSerial → growth.Ends world value state.bumped
  literal {world state parameters body scope} :
    growth.node world (.functionLiteral parameters body) scope → growth.state world state →
      growth.Ends world (.function state.nextSerial parameters body scope) state.bumped
  child {world value} : growth.value world value → ∀ child ∈ value.children,
    growth.value world child
  operand {world node scope} : growth.node world node scope → ∀ child ∈ node.operands,
    growth.node world child scope
  step {world node scope} : growth.node world node scope → ∀ child ∈ node.steps,
    growth.node world child scope
  found {world state name scope value} : growth.node world (.identifier name) scope →
    growth.state world state → state.scopes.lookup? scope name = some value →
      growth.value world value
  bound {world state name node scope value} : growth.node world (.letStatement name node) scope →
    growth.value world value → growth.state world state →
      growth.state world (state.bound scope name value)
  entered {world state serial parameters body closure arguments} :
    growth.value world (.function serial parameters body closure) →
      (∀ argument ∈ arguments, growth.value world argument) → growth.state world state →
        ∃ later, world ≤ later ∧
          growth.state later (state.entered closure (parameters.zip arguments)) ∧
            growth.node later body state.scopes.next

section Rules
variable {growth} {world : World} {before : State}

theorem keeps_pure {value : Value} (held : growth.state world before)
    (holds : growth.value world value) : growth.Keeps world (pure value) before := by
  intro result after run
  cases run
  exact ⟨world, le_rfl, held, holds⟩

theorem keeps_run {computation : Eval Value} {value : Value} {after : State}
    (run : computation before = some (value, after)) (ends : growth.Ends world value after) :
    growth.Keeps world computation before := by
  intro result final run'
  rw [run] at run'
  cases run'
  exact ends

/-- A part that is known to finish, and what follows. -/
theorem keeps_step {α : Type} {head : Eval α} {next : α → Eval Value} {part : α} {middle : State}
    (run : head before = some (part, middle)) (tail : growth.Keeps world (next part) middle) :
    growth.Keeps world (head >>= next) before := by
  intro value after finished
  rw [bind_run_of run] at finished
  exact tail value after finished

theorem Ends.mono {later : World} {value : Value} {after : State} (le : world ≤ later)
    (ends : growth.Ends later value after) : growth.Ends world value after := by
  obtain ⟨last, further, held, holds⟩ := ends
  exact ⟨last, le.trans further, held, holds⟩

theorem keeps_bind {head : Eval Value} {next : Value → Eval Value}
    (first : growth.Keeps world head before)
    (rest : ∀ later value middle, world ≤ later → growth.state later middle →
      growth.value later value → growth.Keeps later (next value) middle) :
    growth.Keeps world (head >>= next) before := by
  intro value after run
  obtain ⟨part, middle, started, run⟩ := exists_of_bind_run run
  obtain ⟨later, le, held, holds⟩ := first part middle started
  exact (rest later part middle le held holds value after run).mono le

theorem keeps_operand {head : Eval Value} {next : Value → Eval Value}
    (first : growth.Keeps world head before)
    (rest : ∀ later value middle, world ≤ later → growth.state later middle →
      growth.value later value → growth.Keeps later (next value) middle) :
    growth.Keeps world (operand head next) before := by
  apply keeps_bind first
  intro later value middle le held holds
  split
  · exact keeps_pure held holds
  · exact rest later value middle le held holds

end Rules

section Operations
variable {growth} (law : growth.Lawful) {world : World} {before : State}
include law

theorem Lawful.keeps_fail (held : growth.state world before) (fault : Fault) :
    growth.Keeps world (fail fault) before :=
  keeps_run (fail_run fault before) (law.fails fault held)

theorem Lawful.keeps_make (build : Nat → Value) (held : growth.state world before)
    (built : (build before.nextSerial).Built (growth.value world) before.nextSerial) :
    growth.Keeps world (make build) before :=
  keeps_run (make_run build before) (law.built held built)

/-- An operation answers with what its operands contain, or makes an object of that. -/
theorem Lawful.keeps_answer {given : List Value} {answer : Semantics.Answer}
    (origin : answer.From given) (held : growth.state world before)
    (holds : ∀ value ∈ given, growth.value world value) :
    growth.Keeps world answer.run before := by
  cases origin with
  | boolean truth => exact keeps_pure held (law.boolean truth)
  | null => exact keeps_pure held law.null
  | part among inside => exact keeps_pure held (law.child (holds _ among) _ inside)
  | integer number => exact law.keeps_make (.integer · number) held (.integer number)
  | string text => exact law.keeps_make (.string · text) held (.string text)
  | @array elements parts =>
      refine law.keeps_make (.array · elements) held (.array ?_)
      intro element member
      rcases parts element member with direct | ⟨whole, among, inside⟩
      · exact holds element direct
      · exact law.child (holds whole among) element inside
  | failure fault => exact law.keeps_fail held fault

theorem Lawful.keeps_prefix (operator : Operator) {right : Value}
    (held : growth.state world before) (holds : growth.value world right) :
    growth.Keeps world (applyPrefix operator right) before := by
  obtain ⟨answer, origin, same⟩ := Semantics.applyPrefix_from operator right
  rw [same]
  exact law.keeps_answer origin held fun value member => List.mem_singleton.mp member ▸ holds

theorem Lawful.keeps_infix (operator : Operator) {left right : Value}
    (held : growth.state world before) (first : growth.value world left)
    (second : growth.value world right) :
    growth.Keeps world (applyInfix operator left right) before := by
  obtain ⟨answer, origin, same⟩ := Semantics.applyInfix_from operator left right
  rw [same]
  apply law.keeps_answer origin held
  intro value member
  rcases List.mem_pair.mp member with rfl | rfl
  · exact first
  · exact second

theorem Lawful.keeps_index {left index : Value} (held : growth.state world before)
    (first : growth.value world left) (second : growth.value world index) :
    growth.Keeps world (applyIndex left index) before := by
  obtain ⟨answer, origin, same⟩ := Semantics.applyIndex_from left index
  rw [same]
  apply law.keeps_answer origin held
  intro value member
  rcases List.mem_pair.mp member with rfl | rfl
  · exact first
  · exact second

theorem Lawful.keeps_builtin (callee : Builtin) {arguments : List Value}
    (held : growth.state world before)
    (holds : ∀ argument ∈ arguments, growth.value world argument) :
    growth.Keeps world (applyBuiltin callee arguments) before := by
  obtain ⟨answer, origin, same⟩ := Semantics.applyBuiltin_from callee arguments
  rw [same]
  exact law.keeps_answer origin held holds

theorem Lawful.keeps_unwrapped {value : Value} (holds : growth.value world value) :
    growth.value world value.unwrapped := by
  cases value with
  | returned serial inner => exact law.child holds inner List.mem_cons_self
  | _ => exact holds

end Operations

section Nodes
variable {growth} (law : growth.Lawful) {recur : Node → ScopeId → Eval Value}

/-- The nodes below are evaluated as they should be. -/
def Sound (growth : Growth World) (recur : Node → ScopeId → Eval Value) : Prop :=
  ∀ {world node scope before}, growth.node world node scope → growth.state world before →
    growth.Keeps world (recur node scope) before

include law

variable (sound : growth.Sound recur) {world : World} {scope : ScopeId} {before : State}
include sound

theorem Lawful.keeps_operands {nodes : List Node} {next : List Value → Eval Value}
    (allowed : ∀ node ∈ nodes, growth.node world node scope) (held : growth.state world before)
    (rest : ∀ later values middle, world ≤ later → growth.state later middle →
      (∀ value ∈ values, growth.value later value) → growth.Keeps later (next values) middle) :
    growth.Keeps world (operands (fun node => recur node scope) nodes next) before := by
  induction nodes generalizing world before next with
  | nil => exact rest world [] before le_rfl held (by simp)
  | cons node nodes ih =>
      apply keeps_operand (sound (allowed node List.mem_cons_self) held)
      intro later value middle le held holds
      apply ih (fun node member => law.node_grows le (allowed node (List.mem_cons_of_mem _ member)))
        held
      intro last values final further held all
      apply rest last (value :: values) final (le.trans further) held
      exact List.forall_mem_cons.mpr ⟨law.grows further holds, all⟩

theorem Lawful.keeps_pairs {pairs : List (Node × Node)} {entries : List (HashKey × Value × Value)}
    (allowed : ∀ pair ∈ pairs, growth.node world pair.1 scope ∧ growth.node world pair.2 scope)
    (held : growth.state world before) (filed : Filed entries)
    (holds : ∀ entry ∈ entries, growth.value world entry.2.1 ∧ growth.value world entry.2.2) :
    growth.Keeps world (evalPairs (fun node => recur node scope) pairs entries) before := by
  induction pairs generalizing world before entries with
  | nil => exact law.keeps_make (.hash · entries) held (.hash filed holds)
  | cons pair pairs ih =>
      obtain ⟨⟨key_allowed, value_allowed⟩, rest_allowed⟩ := List.forall_mem_cons.mp allowed
      apply keeps_operand (sound key_allowed held)
      intro later key middle le held key_holds
      cases own : key.hashKey? with
      | none => exact law.keeps_fail held _
      | some slot =>
          apply keeps_operand (sound (law.node_grows le value_allowed) held)
          intro last value final further held value_holds
          have grown := le.trans further
          refine ih (fun pair member => ?_) held (filed_insert filed own) fun entry member => ?_
          · exact (rest_allowed pair member).imp (law.node_grows grown) (law.node_grows grown)
          · rcases Assoc.mem_insert member with rfl | old
            · exact ⟨law.grows further key_holds, value_holds⟩
            · exact (holds entry old).imp (law.grows grown) (law.grows grown)

theorem Lawful.keeps_program {statements : List Node} {position : Nat} {result : Value}
    (allowed : ∀ statement ∈ statements, growth.node world statement scope)
    (held : growth.state world before) (holds : growth.value world result) :
    growth.Keeps world (runProgram (fun node => recur node scope) position result statements)
      before := by
  induction statements generalizing world before position result with
  | nil => exact keeps_step (trace_run _ _) (keeps_pure (law.noted _ _ _ held) holds)
  | cons statement statements ih =>
      apply keeps_step (trace_run _ _)
      apply keeps_bind (sound (allowed statement List.mem_cons_self) (law.noted _ _ _ held))
      intro later value middle le held holds
      apply keeps_step (countStatement_run _)
      have counted := law.counted Counters.IsGain.statement (fun _ => rfl) held
      split
      · exact keeps_step (trace_run _ _)
          (keeps_pure (law.noted _ _ _ counted) (law.child holds _ List.mem_cons_self))
      · exact keeps_step (trace_run _ _) (keeps_pure (law.noted _ _ _ counted) holds)
      · exact ih (fun node member => law.node_grows le (allowed node (List.mem_cons_of_mem _ member)))
          counted holds

theorem Lawful.keeps_block {statements : List Node} {result : Value}
    (allowed : ∀ statement ∈ statements, growth.node world statement scope)
    (held : growth.state world before) (holds : growth.value world result) :
    growth.Keeps world (runBlock (fun node => recur node scope) result statements) before := by
  induction statements generalizing world before result with
  | nil => exact keeps_pure held holds
  | cons statement statements ih =>
      apply keeps_bind (sound (allowed statement List.mem_cons_self) held)
      intro later value middle le held holds
      apply keeps_step (countStatement_run _)
      have counted := law.counted Counters.IsGain.statement (fun _ => rfl) held
      split
      · exact keeps_step (trace_run _ _) (keeps_pure (law.noted _ _ _ counted) holds)
      · exact ih (fun node member => law.node_grows le (allowed node (List.mem_cons_of_mem _ member)))
          counted holds

theorem Lawful.keeps_call {callee : Value} {arguments : List Value}
    (held : growth.state world before) (known : growth.value world callee)
    (holds : ∀ argument ∈ arguments, growth.value world argument) :
    growth.Keeps world (applyFunction recur callee arguments) before := by
  cases callee with
  | function serial parameters body closure =>
      apply keeps_step (count_run _ _)
      have counted := law.counted Counters.IsGain.functionCall (fun _ => rfl) held
      split
      · exact law.keeps_fail counted _
      · apply keeps_step (enter_run _ _ _)
        obtain ⟨later, le, entered, allowed⟩ := law.entered known holds counted
        apply keeps_step (trace_run _ _)
        intro value after run
        refine Ends.mono le (keeps_bind (sound allowed (law.noted _ _ _ entered)) ?_ value after run)
        intro last result final _ held holds
        exact keeps_pure held (law.keeps_unwrapped holds)
  | builtin builtin =>
      apply keeps_step (count_run _ _)
      apply keeps_step (trace_run _ _)
      have counted := law.counted Counters.IsGain.builtinCall (fun _ => rfl) held
      exact law.keeps_builtin builtin (law.noted _ _ _ counted) holds
  | failing serial name detail =>
      apply keeps_step (count_run _ _)
      apply keeps_step (trace_run _ _)
      apply keeps_step (alarm_run _ _)
      have counted := law.counted Counters.IsGain.builtinCall (fun _ => rfl) held
      exact law.keeps_fail (law.alarmed _ (law.noted _ _ _ counted)) _
  | _ => exact law.keeps_fail held _

omit sound in
theorem Lawful.keeps_identifier {name : String} (allowed : growth.node world (.identifier name) scope)
    (held : growth.state world before) : growth.Keeps world (evalIdentifier name scope) before := by
  apply keeps_step (trace_run _ _)
  apply keeps_step (lookup?_run _ _ _)
  have traced := law.noted .debug .debug (.lookupStarted name) held
  cases bound : (before.traced (.lookupStarted name)).scopes.lookup? scope name with
  | some value => exact keeps_pure traced (law.found allowed traced bound)
  | none =>
      cases Builtin.ofName? name with
      | some builtin =>
          exact keeps_step (trace_run _ _)
            (keeps_pure (law.noted _ _ _ traced) (law.builtin builtin))
      | none => exact law.keeps_fail traced _

theorem Lawful.keeps_node {node : Node} (allowed : growth.node world node scope)
    (held : growth.state world before) :
    growth.Keeps world (evalNode recur node scope) before := by
  have operand {child : Node} (member : child ∈ node.operands) {later : World} {state : State}
      (le : world ≤ later) (held : growth.state later state) :
      growth.Keeps later (recur child scope) state :=
    sound (law.node_grows le (law.operand allowed child member)) held
  have traced (event : Event) : growth.state world (before.traced event) :=
    law.noted _ _ event held
  cases node with
  | program statements =>
      apply keeps_step (trace_run _ _)
      exact law.keeps_program sound (law.step allowed) (traced _) law.null
  | letStatement name value =>
      apply keeps_step (trace_run _ _)
      apply keeps_operand (operand List.mem_cons_self le_rfl (traced _))
      intro later result middle le held holds
      apply keeps_step (bind_run _ _ _ _)
      exact keeps_pure (law.bound (law.node_grows le allowed) holds held) law.null
  | returnStatement value =>
      apply keeps_operand (operand List.mem_cons_self le_rfl held)
      intro later result middle _ held holds
      exact law.keeps_make (.returned · result) held (.returned holds)
  | expressionStatement expression =>
      exact sound (law.step allowed expression List.mem_cons_self) held
  | blockStatement statements =>
      apply keeps_step (trace_run _ _)
      apply keeps_step (count_run _ _)
      exact law.keeps_block sound (law.step allowed) (law.compared allowed (traced _)) law.null
  | identifier name => exact law.keeps_identifier allowed held
  | integerLiteral value => exact law.keeps_make (.integer · value) held (.integer value)
  | stringLiteral text => exact law.keeps_make (.string · text) held (.string text)
  | booleanLiteral value => exact keeps_pure held (law.boolean value)
  | prefixExpression operator right =>
      apply keeps_step (trace_run _ _)
      apply keeps_operand (operand List.mem_cons_self le_rfl (traced _))
      intro later value middle _ held holds
      exact law.keeps_prefix operator held holds
  | infixExpression left operator right =>
      apply keeps_step (trace_run _ _)
      apply keeps_operand (operand List.mem_cons_self le_rfl (traced _))
      intro later first middle le held first_holds
      apply keeps_operand (operand (List.mem_cons_of_mem _ List.mem_cons_self) le held)
      intro last second final further held second_holds
      exact law.keeps_infix operator held (law.grows further first_holds) second_holds
  | ifExpression condition consequence alternative =>
      apply keeps_step (trace_run _ _)
      apply keeps_operand (operand List.mem_cons_self le_rfl (traced _))
      intro later value middle le held _
      have branch {child : Node} (member : child ∈ consequence :: alternative.toList)
          (event : Event) : growth.Keeps later (recur child scope) (middle.traced event) :=
        sound (law.node_grows le (law.step allowed child member)) (law.noted _ _ event held)
      split
      · exact keeps_step (trace_run _ _) (branch List.mem_cons_self _)
      · cases alternative with
        | some alternative =>
            exact keeps_step (trace_run _ _)
              (branch (List.mem_cons_of_mem _ List.mem_cons_self) _)
        | none => exact keeps_step (trace_run _ _) (keeps_pure (law.noted _ _ _ held) law.null)
  | functionLiteral parameters body =>
      exact keeps_run (make_run (.function · parameters body scope) before)
        (law.literal allowed held)
  | callExpression callee arguments =>
      apply keeps_step (trace_run _ _)
      apply keeps_operand (operand List.mem_cons_self le_rfl (traced _))
      intro later function middle le held known
      refine law.keeps_operands sound (fun argument member => law.node_grows le
        (law.operand allowed argument (List.mem_cons_of_mem _ member))) held ?_
      intro last values final further held holds
      apply keeps_step (trace_run _ _)
      exact law.keeps_call sound (law.noted _ _ _ held) (law.grows further known) holds
  | arrayLiteral elements =>
      refine law.keeps_operands sound (law.operand allowed) held ?_
      intro later values middle _ held holds
      exact law.keeps_make (.array · values) held (.array holds)
  | indexExpression left index =>
      apply keeps_operand (operand List.mem_cons_self le_rfl held)
      intro later first middle le held first_holds
      apply keeps_operand (operand (List.mem_cons_of_mem _ List.mem_cons_self) le held)
      intro last second final further held second_holds
      exact law.keeps_index held (law.grows further first_holds) second_holds
  | hashLiteral pairs =>
      apply keeps_step (trace_run _ _)
      refine law.keeps_pairs sound (fun pair member => ?_) (traced _) filed_nil (by simp)
      have below := fun child inside => law.operand allowed child
        (List.mem_flatMap.mpr ⟨pair, member, inside⟩)
      exact ⟨below _ List.mem_cons_self, below _ (List.mem_cons_of_mem _ List.mem_cons_self)⟩
  | unknown name =>
      apply keeps_step (report_run _ _)
      exact law.keeps_fail (law.noted _ _ _ held) _

end Nodes

variable {growth}

theorem Lawful.sound (law : growth.Lawful) (depth : Nat) : growth.Sound (evalWithin depth) := by
  induction depth with
  | zero =>
      intro world node scope before _ _ value after run
      cases run
  | succ depth ih =>
      intro world node scope before allowed held
      exact law.keeps_node ih allowed held

end Growth

end Eval

end MonkeyLang
