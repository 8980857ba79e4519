import MonkeyLang.Eval.Evaluator

/-!
Elementary computations as functions of the state. Each of them finishes in every
state, with the value and the new state that its equation here names; proofs about
the evaluator go through these equations and not through the definitions.
-/

namespace MonkeyLang

/-- A change that adds to some counters and raises the size of the largest block, each by an
amount that does not depend on what was counted before. No error is counted in this way. -/
def Counters.IsGain (change : Counters → Counters) : Prop :=
  ∃ statements functionCalls builtinCalls block, ∀ counters, change counters =
    { counters with
      statements := counters.statements + statements
      functionCalls := counters.functionCalls + functionCalls
      builtinCalls := counters.builtinCalls + builtinCalls
      largestBlock := max counters.largestBlock block }

namespace Counters.IsGain

theorem errors {change : Counters → Counters} (gain : IsGain change) (counters : Counters) :
    (change counters).errors = counters.errors := by
  obtain ⟨_, _, _, _, gains⟩ := gain
  rw [gains]

theorem statement :
    IsGain fun counters => { counters with statements := counters.statements + 1 } :=
  ⟨1, 0, 0, 0, by simp⟩

theorem functionCall :
    IsGain fun counters => { counters with functionCalls := counters.functionCalls + 1 } :=
  ⟨0, 1, 0, 0, by simp⟩

theorem builtinCall :
    IsGain fun counters => { counters with builtinCalls := counters.builtinCalls + 1 } :=
  ⟨0, 0, 1, 0, by simp⟩

theorem block (size : Nat) :
    IsGain fun counters => { counters with largestBlock := max counters.largestBlock size } :=
  ⟨0, 0, 0, size, by simp⟩

end Counters.IsGain

namespace State

/-- The state after an event of a level was offered to the log. -/
def noted (state : State) (severity : Severity) (level : Level) (event : Event) : State :=
  if state.level.admits level then { state with log := state.log.push ⟨severity, event⟩ } else state

def traced (state : State) (event : Event) : State :=
  state.noted .debug .debug event

/-- The state after a host's function failed, which is logged at every level. -/
def alarmed (state : State) (event : Event) : State :=
  { state with log := state.log.push ⟨.error, event⟩ }

def counted (state : State) (change : Counters → Counters) : State :=
  { state with counters := change state.counters }

/-- The state after a statement was counted. -/
def stepped (state : State) : State :=
  state.counted fun counters => { counters with statements := counters.statements + 1 }

/-- The state after an object was made. -/
def bumped (state : State) : State :=
  { state with nextSerial := state.nextSerial + 1 }

/-- The state after an error arose. -/
def failed (state : State) (fault : Fault) : State :=
  ((state.counted fun counters => { counters with errors := counters.errors + 1 }).noted
    .error .error (.errorCreated fault)).bumped

def bound (state : State) (scope : ScopeId) (name : String) (value : Value) : State :=
  { state with scopes := state.scopes.bind scope name value }

/-- The state after a scope was opened and filled. -/
def entered (state : State) (outer : ScopeId) (bindings : List (String × Value)) : State :=
  { state with scopes := (state.scopes.create (some outer)).bindAll state.scopes.next bindings }

/-- The state in which the body of a called function starts. -/
def called (state : State) (closure : ScopeId) (parameters : List String)
    (arguments : List Value) : State :=
  (((state.counted fun counters =>
    { counters with functionCalls := counters.functionCalls + 1 }).entered closure
      (parameters.zip arguments)).traced (.parametersBound parameters))

section Fields
variable (state : State) (severity : Severity) (level : Level) (event : Event) (fault : Fault)

@[simp] theorem noted_scopes : (state.noted severity level event).scopes = state.scopes := by
  unfold noted
  split <;> rfl

@[simp] theorem noted_nextSerial :
    (state.noted severity level event).nextSerial = state.nextSerial := by
  unfold noted
  split <;> rfl

@[simp] theorem noted_counters : (state.noted severity level event).counters = state.counters := by
  unfold noted
  split <;> rfl

@[simp] theorem noted_level : (state.noted severity level event).level = state.level := by
  unfold noted
  split <;> rfl

theorem noted_log : (state.noted severity level event).log =
    if state.level.admits level then state.log.push ⟨severity, event⟩ else state.log := by
  unfold noted
  split <;> rfl

@[simp] theorem failed_scopes : (state.failed fault).scopes = state.scopes := by
  simp [failed, bumped, counted]

@[simp] theorem failed_counters :
    (state.failed fault).counters =
      { state.counters with errors := state.counters.errors + 1 } := by
  simp [failed, bumped, counted]

@[simp] theorem failed_nextSerial : (state.failed fault).nextSerial = state.nextSerial + 1 := by
  simp [failed, bumped, counted]

end Fields

end State

namespace Eval

theorem bind_run_of {α β : Type} {head : Eval α} {next : α → Eval β} {before after : State}
    {value : α} (run : head before = some (value, after)) :
    (head >>= next) before = next value after := by
  show (head before).bind _ = _
  rw [run]
  rfl

theorem bind_run_none {α β : Type} {head : Eval α} {next : α → Eval β} {before : State}
    (stuck : head before = none) : (head >>= next) before = none := by
  show (head before).bind _ = _
  rw [stuck]
  rfl

/-- How a computation in two parts has run. -/
theorem exists_of_bind_run {α β : Type} {head : Eval α} {next : α → Eval β} {before : State}
    {result : β × State} (run : (head >>= next) before = some result) :
    ∃ value middle, head before = some (value, middle) ∧ next value middle = some result := by
  cases started : head before with
  | none =>
      rw [bind_run_none started] at run
      cases run
  | some middle =>
      rw [bind_run_of started] at run
      exact ⟨middle.1, middle.2, rfl, run⟩

theorem exists_of_operand_run {head : Eval Value} {next : Value → Eval Value}
    {before after : State} {value : Value} (run : operand head next before = some (value, after)) :
    (head before = some (value, after) ∧ value.isError = true) ∨ ∃ result middle,
      head before = some (result, middle) ∧ result.isError = false ∧
        next result middle = some (value, after) := by
  obtain ⟨result, middle, started, rest⟩ := exists_of_bind_run run
  cases failed : result.isError with
  | true =>
      rw [if_pos failed] at rest
      cases rest
      exact .inl ⟨started, failed⟩
  | false =>
      rw [if_neg (by simp [failed])] at rest
      exact .inr ⟨result, middle, started, failed, rest⟩

theorem operand_run {head : Eval Value} {next : Value → Eval Value} {before after : State}
    {value : Value} (run : head before = some (value, after)) (sound : value.isError = false) :
    operand head next before = next value after := by
  rw [operand, bind_run_of run, if_neg (by simp [sound])]

theorem operand_failed {head : Eval Value} {next : Value → Eval Value} {before after : State}
    {value : Value} (run : head before = some (value, after)) (failed : value.isError = true) :
    operand head next before = some (value, after) := by
  rw [operand, bind_run_of run, if_pos failed]
  rfl

theorem trace_run (event : Event) (state : State) :
    trace event state = some ((), state.traced event) :=
  rfl

theorem report_run (event : Event) (state : State) :
    report event state = some ((), state.noted .error .error event) :=
  rfl

theorem alarm_run (event : Event) (state : State) :
    alarm event state = some ((), state.alarmed event) :=
  rfl

theorem count_run (change : Counters → Counters) (state : State) :
    count change state = some ((), state.counted change) :=
  rfl

theorem countStatement_run (state : State) : countStatement state = some ((), state.stepped) :=
  rfl

theorem make_run (build : Nat → Value) (state : State) :
    make build state = some (build state.nextSerial, state.bumped) :=
  rfl

theorem fail_run (fault : Fault) (state : State) :
    fail fault state = some (.error state.nextSerial fault, state.failed fault) := by
  have serial : (((state.counted fun counters =>
      { counters with errors := counters.errors + 1 }).noted .error .error
        (.errorCreated fault)).nextSerial) = state.nextSerial := State.noted_nextSerial ..
  rw [← serial]
  rfl

theorem lookup?_run (scope : ScopeId) (name : String) (state : State) :
    lookup? scope name state = some (state.scopes.lookup? scope name, state) :=
  rfl

theorem bind_run (scope : ScopeId) (name : String) (value : Value) (state : State) :
    bind scope name value state = some ((), state.bound scope name value) :=
  rfl

theorem enter_run (outer : ScopeId) (bindings : List (String × Value)) (state : State) :
    enter outer bindings state = some (state.scopes.next, state.entered outer bindings) :=
  rfl

section Calls
variable {depth : Nat} {serial : Nat} {parameters : List String} {body : Node}
  {closure : ScopeId} {arguments : List Value} {before : State}

theorem call_of_arity_ne (arity : arguments.length ≠ parameters.length) :
    call depth (.function serial parameters body closure) arguments before =
      fail (.wrongArity arguments.length parameters.length) (before.counted fun counters =>
        { counters with functionCalls := counters.functionCalls + 1 }) := by
  rw [call, applyFunction, if_pos arity]
  rfl

/-- A call runs the body in a new scope and unwraps what the body returned. -/
theorem call_of_arity_eq (arity : arguments.length = parameters.length) :
    call depth (.function serial parameters body closure) arguments before =
      (evalWithin depth body before.scopes.next
        (before.called closure parameters arguments)).map fun result =>
          (result.1.unwrapped, result.2) := by
  rw [call, applyFunction, if_neg (fun apart => apart arity)]
  show Option.bind (evalWithin depth body before.scopes.next
    (before.called closure parameters arguments)) _ = _
  rw [Option.map_eq_bind]
  rfl

end Calls

/-! Computations that can be left before their end, with what they are left with. -/

section Leaving
variable {Exit α β : Type} {right : ExceptT Exit Eval α} {next : α → ExceptT Exit Eval β}
  {before after : State}

theorem run_bind_ok {value : α} (run : right.run before = some (.ok value, after)) :
    (right >>= next).run before = (next value).run after := by
  show (right.run before).bind _ = _
  rw [run]
  rfl

theorem run_bind_none (run : right.run before = none) : (right >>= next).run before = none := by
  show (right.run before).bind _ = _
  rw [run]
  rfl

theorem run_bind_lift {head : Eval α} {value : α} (run : head before = some (value, after)) :
    ((liftM head : ExceptT Exit Eval α) >>= next).run before = (next value).run after := by
  apply run_bind_ok
  show (head before).bind _ = _
  rw [run]
  rfl

theorem run_bind_stuck {head : Eval α} (stuck : head before = none) :
    ((liftM head : ExceptT Exit Eval α) >>= next).run before = none := by
  apply run_bind_none
  show (head before).bind _ = _
  rw [stuck]
  rfl

end Leaving

end Eval

end MonkeyLang
