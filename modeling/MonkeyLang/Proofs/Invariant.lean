import MonkeyLang.Proofs.Standard

/-!
Invariants of evaluation. An `Invariant` says what is true of the states between evaluations,
of every value that an operation is handed, of the state in which an error ends an
evaluation, and of the nodes that are evaluated in a scope. It is lawful if every elementary
step keeps it; then every evaluation keeps it, because it is the standard that relates each
such state to itself.
-/

namespace MonkeyLang.Eval

structure Invariant where
  state : State → Prop
  value : Value → Prop
  failed : Fault → State → Prop
  /-- The flag allows a node to hand a returned value to the statements around it. -/
  node : Bool → Node → ScopeId → Prop

namespace Invariant

variable (invariant : Invariant)

def standard : Standard Fixed where
  state _ first second := first = second ∧ invariant.state first
  value _ := invariant.value
  failed _ fault first second := first = second ∧ invariant.failed fault first
  node _ := invariant.node

/-- How a value that was there before may come out of an evaluation. -/
def Settles (state : State) : Value → Prop
  | .error _ fault => invariant.failed fault state
  | value => invariant.value value

structure Lawful : Prop where
  traced {state} (event : Event) : invariant.state state → invariant.state (state.traced event)
  counted {state} {change : Counters → Counters} (gain : Counters.IsGain change) :
    invariant.state state → invariant.state (state.counted change)
  bumped {state} : invariant.state state → invariant.state state.bumped
  fails {state} (fault : Fault) :
    invariant.state state → invariant.failed fault (state.failed fault)
  failed_stepped {fault state} : invariant.failed fault state → invariant.failed fault state.stepped
  failed_traced {fault state} (event : Event) :
    invariant.failed fault state → invariant.failed fault (state.traced event)
  raised {state serial name detail} : invariant.value (.failing serial name detail) →
    invariant.state state → invariant.failed (.builtinRaised detail)
      ((state.alarmed (.builtinRaised name)).failed (.builtinRaised detail))
  unknown {state returns name scope} : invariant.node returns (.unknown name) scope →
    invariant.state state → invariant.failed (.unknownNode name)
      ((state.noted .error .error (.unknownNodeReached name)).failed (.unknownNode name))
  null : invariant.value .null
  boolean (truth : Bool) : invariant.value (.boolean truth)
  string (serial : Nat) (text : String) : invariant.value (.string serial text)
  wrapped (serial : Nat) (number : Int) : invariant.value (.integer serial (Word.wrap number))
  measured (serial size : Nat) : invariant.value (.builtin .len) →
    invariant.value (.integer serial size)
  array {values} (serial : Nat) :
    (∀ value ∈ values, value.isError = false ∧ invariant.value value) →
      invariant.value (.array serial values)
  hash {entries} (serial : Nat) : Filed entries →
    (∀ entry ∈ entries, (entry.2.1.isError = false ∧ invariant.value entry.2.1) ∧
      entry.2.2.isError = false ∧ invariant.value entry.2.2) →
      invariant.value (.hash serial entries)
  element {state serial values} : invariant.value (.array serial values) →
    invariant.state state → ∀ value ∈ values, invariant.Settles state value
  tail {serial head values} (fresh : Nat) : invariant.value (.array serial (head :: values)) →
    invariant.value (.array fresh values)
  pushed {serial values item} (fresh : Nat) : invariant.value (.array serial values) →
    item.isError = false → invariant.value item → invariant.value (.array fresh (values ++ [item]))
  entry {state serial entries} : invariant.value (.hash serial entries) →
    invariant.state state → ∀ entry ∈ entries, invariant.Settles state entry.2.2
  inner {state serial value} : invariant.value (.returned serial value) →
    invariant.state state → invariant.Settles state value
  operand {returns node scope} : invariant.node returns node scope →
    ∀ child ∈ node.operands, invariant.node false child scope
  step {returns node scope} : invariant.node returns node scope →
    ∀ child ∈ node.steps, invariant.node returns child scope
  found {state returns name scope value} : invariant.node returns (.identifier name) scope →
    invariant.state state → state.scopes.lookup? scope name = some value →
      invariant.Settles state value
  builtin {returns scope} (builtin : Builtin) :
    invariant.node returns (.identifier builtin.name) scope → invariant.value (.builtin builtin)
  integer {returns number scope} (serial : Nat) :
    invariant.node returns (.integerLiteral number) scope → invariant.value (.integer serial number)
  function {returns parameters body scope} (serial : Nat) :
    invariant.node returns (.functionLiteral parameters body) scope →
      invariant.value (.function serial parameters body scope)
  returned {returns node scope value} (serial : Nat) :
    invariant.node returns (.returnStatement node) scope → value.isError = false →
      invariant.value value → returns = true ∨ invariant.value (.returned serial value)
  bound {state returns name node scope value} :
    invariant.node returns (.letStatement name node) scope → value.isError = false →
      invariant.value value → invariant.state state →
        invariant.state (state.bound scope name value)
  entered {state serial parameters body closure arguments} :
    invariant.value (.function serial parameters body closure) →
      (∀ value ∈ arguments, value.isError = false ∧ invariant.value value) →
        arguments.length = parameters.length → invariant.state state →
          invariant.state (state.entered closure (parameters.zip arguments)) ∧
            invariant.node true body state.scopes.next

variable {invariant}

theorem settles_of_value {state : State} {value : Value} (sound : value.isError = false)
    (holds : invariant.value value) : invariant.Settles state value := by
  cases value with
  | error serial fault => cases sound
  | _ => exact holds

theorem Settles.standard {state : State} {value : Value} (settles : invariant.Settles state value) :
    invariant.standard.Settles .world state state value := by
  cases value with
  | error serial fault => exact ⟨rfl, settles⟩
  | _ => exact settles

theorem Lawful.standard (law : invariant.Lawful) : invariant.standard.Lawful where
  grows _ holds := holds
  node_grows _ allowed := allowed
  serial held := by rw [held.1]
  next held := by rw [held.1]
  traced event held := ⟨by rw [held.1], law.traced event held.2⟩
  counted gain held := ⟨by rw [held.1], law.counted gain held.2⟩
  bumped held := ⟨by rw [held.1], law.bumped held.2⟩
  fails fault held := ⟨by rw [held.1], law.fails fault held.2⟩
  failed_stepped held := ⟨by rw [held.1], law.failed_stepped held.2⟩
  failed_traced event held := ⟨by rw [held.1], law.failed_traced event held.2⟩
  raised known held := ⟨by rw [held.1], law.raised known held.2⟩
  unknown allowed held := ⟨by rw [held.1], law.unknown allowed held.2⟩
  null := law.null
  boolean := law.boolean
  string := law.string
  wrapped := law.wrapped
  measured := law.measured
  array := law.array
  hash := law.hash
  element holds held value member := by
    rcases held with ⟨same, held⟩
    subst same
    exact (law.element holds held value member).standard
  tail := law.tail
  pushed := law.pushed
  entry holds held entry member := by
    rcases held with ⟨same, held⟩
    subst same
    exact (law.entry holds held entry member).standard
  inner holds held := by
    rcases held with ⟨same, held⟩
    subst same
    exact (law.inner holds held).standard
  operand := law.operand
  step := law.step
  found allowed held := by
    rcases held with ⟨same, held⟩
    subst same
    exact ⟨rfl, fun value bound => (law.found allowed held bound).standard⟩
  builtin := law.builtin
  integer := law.integer
  function := law.function
  returned := law.returned
  bound allowed sound holds held := ⟨by rw [held.1], law.bound allowed sound holds held.2⟩
  entered known holds arity held := by
    rcases held with ⟨same, held⟩
    subst same
    obtain ⟨inside, allowed⟩ := law.entered known holds arity held
    exact ⟨.world, le_rfl, ⟨rfl, inside⟩, allowed⟩

section Ends
variable {depth : Nat} {returns : Bool} {scope : ScopeId} {value : Value} {before after : State}

/-- How an evaluation ends that began well. -/
theorem Lawful.finished (law : invariant.Lawful) {node : Node}
    (allowed : invariant.node returns node scope) (held : invariant.state before)
    (run : evalWithin depth node scope before = some (value, after)) :
    (∃ serial fault, value = .error serial fault ∧ invariant.failed fault after) ∨
      value.isError = false ∧ invariant.state after ∧
        (invariant.value value ∨ returns = true ∧ ∃ serial inner,
          value = .returned serial inner ∧ inner.isError = false ∧ invariant.value inner) := by
  have start : invariant.standard.state .world before before := ⟨rfl, held⟩
  have begins : invariant.standard.node .world returns node scope := allowed
  -- the run is compared with itself, so no depth is added
  obtain ⟨_, _, -, -, ⟨serial, fault, same, -, failed⟩ | ⟨⟨-, sound, passed⟩, -, held⟩⟩ :=
    law.standard.finished 0 begins start run
  · exact .inl ⟨serial, fault, same, failed⟩
  · exact .inr ⟨sound, held, passed⟩

/-- A program never ends with a returned value that only statements may be handed. -/
theorem Lawful.finished_program (law : invariant.Lawful) {statements : List Node}
    (allowed : invariant.node returns (.program statements) scope) (held : invariant.state before)
    (run : evalWithin depth (.program statements) scope before = some (value, after)) :
    (∃ serial fault, value = .error serial fault ∧ invariant.failed fault after) ∨
      value.isError = false ∧ invariant.state after ∧ invariant.value value := by
  have start : invariant.standard.state .world before before := ⟨rfl, held⟩
  have begins : invariant.standard.node .world returns (.program statements) scope := allowed
  obtain ⟨_, _, _, -, -, meets⟩ := law.standard.agrees_program depth 0 begins start value after run
  rcases meets with ⟨-, -, -, serial, fault, same, -, failed⟩ | ⟨sound, -, ⟨-, -, holds⟩, -, held⟩
  · exact .inl ⟨serial, fault, same, failed⟩
  · exact .inr ⟨sound, held, holds⟩

end Ends

end Invariant

/-- What is true of a state stays true whatever an evaluation does to it. -/
structure Stable (good : State → Prop) : Prop where
  noted {state} (severity : Severity) (level : Level) (event : Event) :
    good state → good (state.noted severity level event)
  alarmed {state} (event : Event) : good state → good (state.alarmed event)
  counted {state} (change : Counters → Counters) : good state → good (state.counted change)
  bumped {state} : good state → good state.bumped
  bound {state} (scope : ScopeId) (name : String) (value : Value) :
    good state → good (state.bound scope name value)
  entered {state} (outer : ScopeId) (bindings : List (String × Value)) :
    good state → good (state.entered outer bindings)

namespace Stable

variable {good : State → Prop}

def invariant (good : State → Prop) : Invariant where
  state := good
  value _ := True
  failed _ := good
  node _ _ _ := True

theorem settles {state : State} (holds : good state) (value : Value) :
    (invariant good).Settles state value := by
  cases value with
  | error serial fault => exact holds
  | _ => trivial

theorem failed (stable : Stable good) {state : State} (holds : good state) (fault : Fault) :
    good (state.failed fault) :=
  stable.bumped (stable.noted _ _ _ (stable.counted _ holds))

theorem lawful (stable : Stable good) : (invariant good).Lawful where
  traced event holds := stable.noted _ _ event holds
  counted _ holds := stable.counted _ holds
  bumped holds := stable.bumped holds
  fails fault holds := stable.failed holds fault
  failed_stepped holds := stable.counted _ holds
  failed_traced event holds := stable.noted _ _ event holds
  raised _ holds := stable.failed (stable.alarmed _ holds) _
  unknown _ holds := stable.failed (stable.noted _ _ _ holds) _
  null := trivial
  boolean _ := trivial
  string _ _ := trivial
  wrapped _ _ := trivial
  measured _ _ _ := trivial
  array _ _ := trivial
  hash _ _ _ := trivial
  element _ holds value _ := settles holds value
  tail _ _ := trivial
  pushed _ _ _ _ := trivial
  entry _ holds entry _ := settles holds entry.2.2
  inner _ holds := settles holds _
  operand _ _ _ := trivial
  step _ _ _ := trivial
  found _ holds _ := settles holds _
  builtin _ _ := trivial
  integer _ _ := trivial
  function _ _ := trivial
  returned _ _ _ _ := .inr trivial
  bound _ _ _ holds := stable.bound _ _ _ holds
  entered _ _ _ holds := ⟨stable.entered _ _ holds, trivial⟩

theorem evalWithin (stable : Stable good) {depth : Nat} {node : Node} {scope : ScopeId}
    {before after : State} {value : Value} (holds : good before)
    (run : Eval.evalWithin depth node scope before = some (value, after)) : good after := by
  have held : (invariant good).state before := holds
  have allowed : (invariant good).node false node scope := trivial
  rcases stable.lawful.finished allowed held run with ⟨_, _, -, ends⟩ | ⟨-, ends, -⟩
  · exact ends
  · exact ends

end Stable

/-- No serial number is handed out twice. -/
theorem evalWithin_nextSerial_le {depth : Nat} {node : Node} {scope : ScopeId}
    {before after : State} {value : Value}
    (run : evalWithin depth node scope before = some (value, after)) :
    before.nextSerial ≤ after.nextSerial := by
  have stable : Stable fun state => before.nextSerial ≤ state.nextSerial :=
    { noted := fun _ _ _ le => by rwa [State.noted_nextSerial]
      alarmed := fun _ le => le
      counted := fun _ le => le
      bumped := fun le => Nat.le_succ_of_le le
      bound := fun _ _ _ le => le
      entered := fun _ _ le => le }
  exact stable.evalWithin (Nat.le_refl _) run

end MonkeyLang.Eval
