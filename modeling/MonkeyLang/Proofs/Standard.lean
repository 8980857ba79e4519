import MonkeyLang.Proofs.Simulation

/-!
Simulations in which both sides compute the very same values. A `Standard` says which
pairs of states evaluation may go through, what is true of every value that an
operation is handed, how an error may end an evaluation, and which nodes may be
evaluated in which scopes. If the standard is lawful, every evaluation keeps it.

With states that are related only to themselves this is an invariant of evaluation.
-/

namespace MonkeyLang.Eval

/-- The one world there is where nothing that is true of a value depends on the world. -/
inductive Fixed where
  | world

instance : Preorder Fixed where
  le _ _ := True
  le_refl _ := trivial
  le_trans _ _ _ _ _ := trivial

variable {World : Type} [Preorder World]

structure Standard (World : Type) [Preorder World] where
  state : World → State → State → Prop
  value : World → Value → Prop
  failed : World → Fault → State → State → Prop
  /-- Whether a node may be evaluated in a scope. The flag allows it to hand a returned
  value to the statements around it. -/
  node : World → Bool → Node → ScopeId → Prop

namespace Standard

variable (standard : Standard World)

/-- The simulation whose two sides compute the same values. -/
def simulation : Simulation World where
  state := standard.state
  value world value other := value = other ∧ value.isError = false ∧ standard.value world value
  failed world value first other second :=
    value = other ∧ ∃ serial fault, value = .error serial fault ∧
      standard.failed world fault first second

/-- What the value of a node may be. -/
def Passed (returns : Bool) (world : World) (value other : Value) : Prop :=
  value = other ∧ value.isError = false ∧
    (standard.value world value ∨
      returns = true ∧ ∃ serial inner, value = .returned serial inner ∧ inner.isError = false ∧
        standard.value world inner)

/-- How a value that was there before may come out of an evaluation. -/
def Settles (world : World) (first second : State) : Value → Prop
  | .error _ fault => standard.failed world fault first second
  | value => standard.value world value

structure Lawful : Prop where
  grows {world later value} : world ≤ later → standard.value world value →
    standard.value later value
  node_grows {world later returns node scope} : world ≤ later →
    standard.node world returns node scope → standard.node later returns node scope
  serial {world first second} : standard.state world first second →
    first.nextSerial = second.nextSerial
  next {world first second} : standard.state world first second →
    first.scopes.next = second.scopes.next
  traced {world first second} (event : Event) : standard.state world first second →
    standard.state world (first.traced event) (second.traced event)
  counted {world first second} {change : Counters → Counters} (gain : Counters.IsGain change) :
    standard.state world first second →
      standard.state world (first.counted change) (second.counted change)
  bumped {world first second} : standard.state world first second →
    standard.state world first.bumped second.bumped
  fails {world first second} (fault : Fault) : standard.state world first second →
    standard.failed world fault (first.failed fault) (second.failed fault)
  failed_stepped {world fault first second} : standard.failed world fault first second →
    standard.failed world fault first.stepped second.stepped
  failed_traced {world fault first second} (event : Event) :
    standard.failed world fault first second →
      standard.failed world fault (first.traced event) (second.traced event)
  raised {world first second serial name detail} :
    standard.value world (.failing serial name detail) → standard.state world first second →
      standard.failed world (.builtinRaised detail)
        ((first.alarmed (.builtinRaised name)).failed (.builtinRaised detail))
        ((second.alarmed (.builtinRaised name)).failed (.builtinRaised detail))
  unknown {world first second returns name scope} :
    standard.node world returns (.unknown name) scope → standard.state world first second →
      standard.failed world (.unknownNode name)
        ((first.noted .error .error (.unknownNodeReached name)).failed (.unknownNode name))
        ((second.noted .error .error (.unknownNodeReached name)).failed (.unknownNode name))
  null {world} : standard.value world .null
  boolean {world} (truth : Bool) : standard.value world (.boolean truth)
  string {world} (serial : Nat) (text : String) : standard.value world (.string serial text)
  wrapped {world} (serial : Nat) (number : Int) :
    standard.value world (.integer serial (Word.wrap number))
  measured {world} (serial size : Nat) : standard.value world (.builtin .len) →
    standard.value world (.integer serial size)
  array {world values} (serial : Nat) :
    (∀ value ∈ values, value.isError = false ∧ standard.value world value) →
      standard.value world (.array serial values)
  hash {world entries} (serial : Nat) : Filed entries →
    (∀ entry ∈ entries, (entry.2.1.isError = false ∧ standard.value world entry.2.1) ∧
      entry.2.2.isError = false ∧ standard.value world entry.2.2) →
      standard.value world (.hash serial entries)
  element {world first second serial values} : standard.value world (.array serial values) →
    standard.state world first second → ∀ value ∈ values, standard.Settles world first second value
  tail {world serial head values} (fresh : Nat) :
    standard.value world (.array serial (head :: values)) →
      standard.value world (.array fresh values)
  pushed {world serial values item} (fresh : Nat) : standard.value world (.array serial values) →
    item.isError = false → standard.value world item →
      standard.value world (.array fresh (values ++ [item]))
  entry {world first second serial entries} : standard.value world (.hash serial entries) →
    standard.state world first second →
      ∀ entry ∈ entries, standard.Settles world first second entry.2.2
  inner {world first second serial value} : standard.value world (.returned serial value) →
    standard.state world first second → standard.Settles world first second value
  operand {world returns node scope} : standard.node world returns node scope →
    ∀ child ∈ node.operands, standard.node world false child scope
  step {world returns node scope} : standard.node world returns node scope →
    ∀ child ∈ node.steps, standard.node world returns child scope
  found {world first second returns name scope} :
    standard.node world returns (.identifier name) scope → standard.state world first second →
      first.scopes.lookup? scope name = second.scopes.lookup? scope name ∧
        ∀ value, first.scopes.lookup? scope name = some value →
          standard.Settles world first second value
  builtin {world returns scope} (builtin : Builtin) :
    standard.node world returns (.identifier builtin.name) scope →
      standard.value world (.builtin builtin)
  integer {world returns number scope} (serial : Nat) :
    standard.node world returns (.integerLiteral number) scope →
      standard.value world (.integer serial number)
  function {world returns parameters body scope} (serial : Nat) :
    standard.node world returns (.functionLiteral parameters body) scope →
      standard.value world (.function serial parameters body scope)
  returned {world returns node scope value} (serial : Nat) :
    standard.node world returns (.returnStatement node) scope → value.isError = false →
      standard.value world value → returns = true ∨ standard.value world (.returned serial value)
  bound {world first second returns name node scope value} :
    standard.node world returns (.letStatement name node) scope → value.isError = false →
      standard.value world value → standard.state world first second →
        standard.state world (first.bound scope name value) (second.bound scope name value)
  entered {world first second serial parameters body closure arguments} :
    standard.value world (.function serial parameters body closure) →
      (∀ value ∈ arguments, value.isError = false ∧ standard.value world value) →
        arguments.length = parameters.length → standard.state world first second →
          ∃ later, world ≤ later ∧
            standard.state later (first.entered closure (parameters.zip arguments))
              (second.entered closure (parameters.zip arguments)) ∧
            standard.node later true body first.scopes.next

section Operations
variable {standard} {world : World} {first second : State}

theorem forall₂_same {values others : List Value}
    (related : List.Forall₂ (standard.simulation.value world) values others) :
    values = others ∧ ∀ value ∈ values, value.isError = false ∧ standard.value world value := by
  induction related with
  | nil => exact ⟨rfl, by simp⟩
  | cons head _ ih => exact ⟨by rw [head.1, ih.1], List.forall_mem_cons.mpr ⟨head.2, ih.2⟩⟩

theorem forall₂_entries {entries others : List (HashKey × Value × Value)}
    (related : List.Forall₂ (standard.simulation.Entry world) entries others) :
    entries = others ∧ ∀ entry ∈ entries,
      (entry.2.1.isError = false ∧ standard.value world entry.2.1) ∧
        entry.2.2.isError = false ∧ standard.value world entry.2.2 := by
  induction related with
  | nil => exact ⟨rfl, by simp⟩
  | cons head _ ih =>
      rcases head with ⟨slot, key, value⟩
      refine ⟨?_, List.forall_mem_cons.mpr ⟨⟨key.2, value.2⟩, ih.2⟩⟩
      rw [ih.1, Prod.ext slot (Prod.ext key.1 value.1)]

theorem Settles.meets {value : Value} (settles : standard.Settles world first second value)
    (held : standard.state world first second) :
    standard.simulation.Meets standard.simulation.value world value first value second := by
  cases value with
  | error serial fault => exact .inl ⟨rfl, rfl, rfl, serial, fault, rfl, settles⟩
  | _ => exact .inr ⟨rfl, rfl, ⟨rfl, rfl, settles⟩, held⟩

theorem settles_of_value {value : Value} (sound : value.isError = false)
    (holds : standard.value world value) : standard.Settles world first second value := by
  cases value with
  | error serial fault => cases sound
  | _ => exact holds

abbrev Agrees (standard : Standard World) (world : World) (left right : Eval Value)
    (first second : State) : Prop :=
  standard.simulation.Matches standard.simulation.value world left right first second

theorem agrees_pure {value : Value} (settles : standard.Settles world first second value)
    (held : standard.state world first second) :
    standard.Agrees world (pure value) (pure value) first second :=
  Simulates.done rfl rfl (settles.meets held)

theorem agrees_fail_of {fault : Fault} (serial : first.nextSerial = second.nextSerial)
    (failed : standard.failed world fault (first.failed fault) (second.failed fault)) :
    standard.Agrees world (fail fault) (fail fault) first second := by
  refine Simulates.done (fail_run _ _) (fail_run _ _) (.inl ⟨rfl, rfl, ?_⟩)
  rw [serial]
  exact ⟨rfl, _, fault, rfl, failed⟩

theorem Lawful.agrees_fail (law : standard.Lawful) (fault : Fault)
    (held : standard.state world first second) :
    standard.Agrees world (fail fault) (fail fault) first second :=
  agrees_fail_of (law.serial held) (law.fails fault held)

theorem Lawful.agrees_make (law : standard.Lawful) {build : Nat → Value}
    (sound : ∀ serial, (build serial).isError = false)
    (holds : ∀ serial, standard.value world (build serial))
    (held : standard.state world first second) :
    standard.Agrees world (make build) (make build) first second := by
  apply Simulates.done (make_run _ _) (make_run _ _)
  rw [law.serial held]
  exact (settles_of_value (sound _) (holds _)).meets (law.bumped held)

theorem Lawful.agrees_integerInfix (law : standard.Lawful) (operator : Operator)
    (left right : Int) (held : standard.state world first second) :
    standard.Agrees world (integerInfix operator left right) (integerInfix operator left right)
      first second := by
  have wraps (number : Int) : standard.Agrees world (makeInteger (Word.wrap number))
      (makeInteger (Word.wrap number)) first second :=
    law.agrees_make (fun _ => rfl) (fun serial => law.wrapped serial number) held
  have answers (truth : Bool) : standard.Agrees world (pure (.boolean truth))
      (pure (.boolean truth)) first second := agrees_pure (law.boolean truth) held
  cases operator with
  | plus => exact wraps _
  | minus => exact wraps _
  | times => exact wraps _
  | divide =>
      simp only [integerInfix]
      cases Word.quotient? left right with
      | some quotient => exact wraps quotient
      | none => exact law.agrees_fail _ held
  | less => exact answers _
  | greater => exact answers _
  | equal => exact answers _
  | unequal => exact answers _
  | bang => exact law.agrees_fail _ held
  | other spelling => exact law.agrees_fail _ held

theorem Lawful.agrees_stringInfix (law : standard.Lawful) (operator : Operator)
    (left right : String) (held : standard.state world first second) :
    standard.Agrees world (stringInfix operator left right) (stringInfix operator left right)
      first second := by
  cases operator with
  | plus => exact law.agrees_make (fun _ => rfl) (fun serial => law.string serial _) held
  | _ => exact law.agrees_fail _ held

theorem Lawful.agrees_infix (law : standard.Lawful) (operator : Operator) (left right : Value)
    (held : standard.state world first second) :
    standard.Agrees world (applyInfix operator left right) (applyInfix operator left right)
      first second := by
  unfold applyInfix
  split
  · exact law.agrees_fail _ held
  · split
    · exact law.agrees_integerInfix operator _ _ held
    · exact law.agrees_stringInfix operator _ _ held
    · split
      · exact agrees_pure (law.boolean _) held
      · exact agrees_pure (law.boolean _) held
      · exact law.agrees_fail _ held

theorem Lawful.agrees_prefix (law : standard.Lawful) (operator : Operator) (right : Value)
    (held : standard.state world first second) :
    standard.Agrees world (applyPrefix operator right) (applyPrefix operator right)
      first second := by
  unfold applyPrefix
  split
  · exact agrees_pure (law.boolean _) held
  · exact law.agrees_make (fun _ => rfl) (fun serial => law.wrapped serial _) held
  · exact law.agrees_fail _ held

theorem Lawful.agrees_index (law : standard.Lawful) {left index : Value}
    (holds : standard.value world left) (held : standard.state world first second) :
    standard.Agrees world (applyIndex left index) (applyIndex left index) first second := by
  have absent : standard.Agrees world (pure .null) (pure .null) first second :=
    agrees_pure law.null held
  unfold applyIndex
  split
  · next elements _ position =>
    split
    -- a position before the first element
    · exact absent
    · cases place : elements[position.toNat]? with
      | none => exact absent
      | some value =>
          exact agrees_pure (law.element holds held value (List.mem_of_getElem? place)) held
  · next entries =>
    split
    · next key _ =>
      rw [Hash.get, Hash.find?]
      cases filed : entries.lookup key with
      | none => exact absent
      | some pair => exact agrees_pure (law.entry holds held _ (Assoc.mem_of_lookup filed)) held
    · exact law.agrees_fail _ held
  · exact law.agrees_fail _ held

theorem Lawful.agrees_elements (law : standard.Lawful) (callee : Builtin) {argument : Value}
    {next : List Value → Eval Value} (holds : standard.value world argument)
    (held : standard.state world first second)
    (goes : ∀ serial elements, standard.value world (.array serial elements) →
      standard.Agrees world (next elements) (next elements) first second) :
    standard.Agrees world (withElements callee argument next) (withElements callee argument next)
      first second := by
  cases argument with
  | array serial elements => exact goes serial elements holds
  | _ => exact law.agrees_fail _ held

theorem Lawful.agrees_builtin (law : standard.Lawful) {callee : Builtin} {arguments : List Value}
    (known : standard.value world (.builtin callee))
    (holds : ∀ value ∈ arguments, value.isError = false ∧ standard.value world value)
    (held : standard.state world first second) :
    standard.Agrees world (applyBuiltin callee arguments) (applyBuiltin callee arguments)
      first second := by
  have absent : standard.Agrees world (pure .null) (pure .null) first second :=
    agrees_pure law.null held
  unfold applyBuiltin
  split
  -- the length
  · next argument =>
    cases argument with
    | string serial text =>
        exact law.agrees_make (fun _ => rfl) (fun serial => law.measured serial _ known) held
    | array serial elements =>
        exact law.agrees_make (fun _ => rfl) (fun serial => law.measured serial _ known) held
    | _ => exact law.agrees_fail _ held
  -- the first element
  · next argument =>
    apply law.agrees_elements _ (holds argument (by simp)).2 held
    intro serial elements sound
    cases elements with
    | nil => exact absent
    | cons head rest => exact agrees_pure (law.element sound held head (by simp)) held
  -- the last element
  · next argument =>
    apply law.agrees_elements _ (holds argument (by simp)).2 held
    intro serial elements sound
    cases last : elements.getLast? with
    | none => exact absent
    | some value =>
        exact agrees_pure (law.element sound held value (List.mem_of_getLast? last)) held
  -- all but the first
  · next argument =>
    apply law.agrees_elements _ (holds argument (by simp)).2 held
    intro serial elements sound
    cases elements with
    | nil => exact absent
    | cons head rest =>
        exact law.agrees_make (fun _ => rfl) (fun fresh => law.tail fresh sound) held
  -- the elements and one more
  · next argument item =>
    apply law.agrees_elements _ (holds argument (by simp)).2 held
    intro serial elements sound
    obtain ⟨item_sound, item_holds⟩ := holds item (by simp)
    exact law.agrees_make (fun _ => rfl) (fun fresh => law.pushed fresh sound item_sound item_holds)
      held
  · exact law.agrees_fail _ held
  · exact law.agrees_fail _ held

end Operations

section Evaluation
variable {standard} {world : World} {first second : State}

theorem Lawful.simulation_lawful (law : standard.Lawful) : standard.simulation.Lawful where
  grows le related := ⟨related.1, related.2.1, law.grows le related.2.2⟩
  tag related := by rw [related.1]
  truth related := by rw [related.1]
  key related := by rw [related.1]
  sound related := related.2.1
  null := ⟨rfl, rfl, law.null⟩
  boolean truth := ⟨rfl, rfl, law.boolean truth⟩
  traced event held := law.traced event held
  finished related held := by
    rw [related.1]
    exact law.traced _ held
  returned meets := by
    rcases meets with ⟨failure, failure', same, serial, fault, is_error, failed⟩ |
      ⟨sound, sound', ⟨same, holds⟩, held⟩
    · subst same
      exact .inl ⟨failure, failure', rfl, serial, fault, is_error, law.failed_traced _ failed⟩
    · subst same
      exact .inr ⟨sound, sound', ⟨rfl, holds⟩, law.traced _ held⟩
  counted gain held := law.counted gain held
  failed_stepped failed := by
    rcases failed with ⟨same, serial, fault, is_error, failed⟩
    exact ⟨same, serial, fault, is_error, law.failed_stepped failed⟩
  failed_interrupted failed := by
    rcases failed with ⟨same, serial, fault, is_error, failed⟩
    exact ⟨same, serial, fault, is_error, law.failed_traced _ failed⟩
  failed_shown failed := by
    rcases failed with ⟨same, serial, fault, is_error, failed⟩
    cases same
    exact ⟨rfl, serial, fault, is_error, law.failed_traced _ failed⟩
  fails fault held := law.agrees_fail fault held
  string text held := law.agrees_make (fun _ => rfl) (fun serial => law.string serial text) held
  array relateds held := by
    obtain ⟨same, holds⟩ := forall₂_same relateds
    subst same
    exact law.agrees_make (fun _ => rfl) (fun serial => law.array serial holds) held
  hash relateds filed held := by
    obtain ⟨same, holds⟩ := forall₂_entries relateds
    subst same
    exact law.agrees_make (fun _ => rfl) (fun serial => law.hash serial filed holds) held
  prefixed operator related held := by
    rw [related.1]
    exact law.agrees_prefix operator _ held
  infixed operator related related' held := by
    rw [related.1, related'.1]
    exact law.agrees_infix operator _ _ held
  indexed related related' held := by
    rw [← related.1, ← related'.1]
    exact law.agrees_index related.2.2 held

theorem Lawful.passes (law : standard.Lawful) (returns : Bool) :
    standard.simulation.Passes (standard.Passed returns) where
  operand related := ⟨related.1, related.2.1, .inl related.2.2⟩
  tag related := by rw [related.1]
  sound related := related.2.1
  unwrapped related held := by
    rename_i value other first second
    rcases related with ⟨same, sound, holds | ⟨-, serial, inner, wrapped, inner_sound, holds⟩⟩
    · subst same
      refine Settles.meets ?_ held
      cases value with
      | returned serial inner => exact law.inner holds held
      | error serial fault => cases sound
      | _ => exact holds
    · subst same wrapped
      exact (settles_of_value inner_sound holds).meets held

theorem agrees_of_passed {left right : Eval Value}
    (run : standard.simulation.Matches (standard.Passed false) world left right first second) :
    standard.Agrees world left right first second := by
  apply Simulates.mono run
  rintro later value after other final - (failure | ⟨sound, sound', ⟨same, -, holds⟩, held⟩)
  · exact .inl failure
  · rcases holds with holds | ⟨impossible, -⟩
    · exact .inr ⟨sound, sound', ⟨same, sound, holds⟩, held⟩
    · cases impossible

theorem Lawful.agrees_identifier (law : standard.Lawful) {returns : Bool} {name : String}
    {scope : ScopeId} (allowed : standard.node world returns (.identifier name) scope)
    (held : standard.state world first second) :
    standard.Agrees world (evalIdentifier name scope) (evalIdentifier name scope)
      first second := by
  have held := law.traced (.lookupStarted name) held
  obtain ⟨same, settles⟩ := law.found allowed held
  apply Simulates.step (trace_run _ _) (trace_run _ _)
  apply Simulates.step (lookup?_run _ _ _) (lookup?_run _ _ _)
  rw [← same]
  cases bound : (first.traced (.lookupStarted name)).scopes.lookup? scope name with
  | some value => exact agrees_pure (settles value bound) held
  | none =>
      cases named : Builtin.ofName? name with
      | none => exact law.agrees_fail _ held
      | some builtin =>
          have spelled := (Builtin.ofName?_eq_some_iff name builtin).mp named
          rw [← spelled] at allowed
          exact Simulates.step (trace_run _ _) (trace_run _ _)
            (agrees_pure (law.builtin builtin allowed) (law.traced _ held))

theorem Lawful.admits (law : standard.Lawful) {returns : Bool} {node : Node} {scope : ScopeId}
    (allowed : standard.node world returns node scope) :
    standard.simulation.Admits (standard.Passed returns) world scope scope node := by
  cases node with
  | letStatement name node =>
      intro later value other first second le related held
      rw [← related.1]
      exact law.bound (law.node_grows le allowed) related.2.1 related.2.2 held
  | returnStatement node =>
      intro later value other first second le related held
      apply Simulates.done (make_run _ _) (make_run _ _)
      rw [law.serial held, ← related.1]
      refine .inr ⟨rfl, rfl, ⟨rfl, rfl, ?_⟩, law.bumped held⟩
      rcases law.returned second.nextSerial (law.node_grows le allowed) related.2.1 related.2.2
        with returns | holds
      · exact .inr ⟨returns, _, value, rfl, related.2.1, related.2.2⟩
      · exact .inl holds
  | identifier name =>
      intro later first second le held
      exact law.agrees_identifier (law.node_grows le allowed) held
  | integerLiteral number =>
      intro later first second le held
      exact law.agrees_make (fun _ => rfl)
        (fun serial => law.integer serial (law.node_grows le allowed)) held
  | functionLiteral parameters body =>
      intro later first second le held
      exact law.agrees_make (fun _ => rfl)
        (fun serial => law.function serial (law.node_grows le allowed)) held
  | unknown name =>
      intro later first second le held
      apply Simulates.step (report_run _ _) (report_run _ _)
      refine agrees_fail_of ?_ (law.unknown (law.node_grows le allowed) held)
      rw [State.noted_nextSerial, State.noted_nextSerial, law.serial held]
  | _ => trivial

/-- A call. The body of a function may hand it a returned value, which is unwrapped. -/
theorem Lawful.agrees_call (law : standard.Lawful) {left right : Node → ScopeId → Eval Value}
    {callee : Value} {arguments : List Value}
    (bodies : ∀ later serial parameters body closure scope after final, world ≤ later →
      standard.value world (.function serial parameters body closure) →
        standard.node later true body scope → standard.state later after final →
          standard.simulation.Matches (standard.Passed true) later (left body scope)
            (right body scope) after final)
    (known : standard.value world callee)
    (holds : ∀ value ∈ arguments, value.isError = false ∧ standard.value world value)
    (held : standard.state world first second) :
    standard.Agrees world (applyFunction left callee arguments)
      (applyFunction right callee arguments) first second := by
  cases callee with
  | function serial parameters body closure =>
      have held := law.counted .functionCall held
      apply Simulates.step (count_run _ _) (count_run _ _)
      by_cases arity : arguments.length ≠ parameters.length
      · rw [if_pos arity, if_pos arity]
        exact law.agrees_fail _ held
      · rw [if_neg arity, if_neg arity]
        obtain ⟨later, le, inside, allowed⟩ := law.entered known holds (not_not.mp arity) held
        apply Simulates.step (enter_run _ _ _) (enter_run _ _ _)
        apply Simulates.step (trace_run _ _) (trace_run _ _)
        -- the body is evaluated in a world that knows the new scope
        rw [← law.next held]
        refine Simulates.of_later le (Simulates.bind (Simulates.mono
          (bodies later serial parameters body closure _ _ _ le known allowed
            (law.traced _ inside)) ?_))
        rintro last value after other final - (⟨failure, failure', failed⟩ | ⟨-, -, passed, held⟩)
        · obtain ⟨serial, fault, rfl⟩ := Value.eq_error failure
          obtain ⟨serial', fault', rfl⟩ := Value.eq_error failure'
          exact Simulates.done rfl rfl (.inl ⟨rfl, rfl, failed⟩)
        -- only here may a returned value be handed on: the call unwraps it
        · exact Simulates.done rfl rfl ((law.passes true).unwrapped passed held)
  | builtin builtin =>
      have held := law.traced (.builtinCalled builtin.name) (law.counted .builtinCall held)
      apply Simulates.step (count_run _ _) (count_run _ _)
      apply Simulates.step (trace_run _ _) (trace_run _ _)
      exact law.agrees_builtin known holds held
  | failing serial name detail =>
      have held := law.traced (.builtinCalled name) (law.counted .builtinCall held)
      apply Simulates.step (count_run _ _) (count_run _ _)
      apply Simulates.step (trace_run _ _) (trace_run _ _)
      apply Simulates.step (alarm_run _ _) (alarm_run _ _)
      have serials := law.serial held
      exact agrees_fail_of serials (law.raised known held)
  | _ => exact law.agrees_fail _ held

/-- Evaluators that agree on the parts of a node, and on the bodies of functions, agree
on the node. -/
theorem Lawful.matches_node (law : standard.Lawful)
    {left right : Node → ScopeId → Eval Value} {returns : Bool} {node : Node} {scope : ScopeId}
    (operands : ∀ child ∈ node.operands, ∀ later after final, world ≤ later →
      standard.node later false child scope → standard.state later after final →
        standard.Agrees later (left child scope) (right child scope) after final)
    (steps : ∀ child ∈ node.steps, ∀ later after final, world ≤ later →
      standard.node later returns child scope → standard.state later after final →
        standard.simulation.Matches (standard.Passed returns) later (left child scope)
          (right child scope) after final)
    (bodies : ∀ later serial parameters body closure inner after final, world ≤ later →
      standard.value later (.function serial parameters body closure) →
        standard.node later true body inner → standard.state later after final →
          standard.simulation.Matches (standard.Passed true) later (left body inner)
            (right body inner) after final)
    (allowed : standard.node world returns node scope) (held : standard.state world first second) :
    standard.simulation.Matches (standard.Passed returns) world (evalNode left node scope)
      (evalNode right node scope) first second := by
  refine Simulation.Matches.node law.simulation_lawful (law.passes returns) (law.admits allowed)
    ?_ ?_ ?_ held
  · intro child member later after final le held
    exact operands child member later after final le
      (law.operand (law.node_grows le allowed) child member) held
  · intro child member later after final le held
    exact steps child member later after final le
      (law.step (law.node_grows le allowed) child member) held
  · intro later callee other arguments others after final le related relateds held
    obtain ⟨same, holds⟩ := forall₂_same relateds
    rw [← same, ← related.1]
    refine law.agrees_call ?_ related.2.2 holds held
    intro last serial parameters body closure inner after final le' known allowed held
    exact bodies last serial parameters body closure inner after final (le_trans le le')
      (law.grows le' known) allowed held

/-- Evaluation keeps a lawful standard, and goes the same way when more depth is allowed. -/
theorem Lawful.matches_evalWithin (law : standard.Lawful) (depth extra : Nat) {returns : Bool}
    {node : Node} {scope : ScopeId} (allowed : standard.node world returns node scope)
    (held : standard.state world first second) :
    standard.simulation.Matches (standard.Passed returns) world (evalWithin depth node scope)
      (evalWithin (depth + extra) node scope) first second := by
  -- the body of a called function is as much less deep as the parts of the node are
  induction depth generalizing world returns node scope first second with
  | zero =>
      intro value after finished
      cases finished
  | succ depth ih =>
      rw [Nat.add_right_comm]
      refine law.matches_node ?_ ?_ ?_ allowed held
      · intro child _ later after final _ allowed held
        exact agrees_of_passed (ih allowed held)
      · intro child _ later after final _ allowed held
        exact ih allowed held
      · intro later _ _ body _ inner after final _ _ allowed held
        exact ih allowed held

/-- The value of a program is one that operations may be handed. -/
theorem Lawful.agrees_program (law : standard.Lawful) (depth extra : Nat) {returns : Bool}
    {statements : List Node} {scope : ScopeId}
    (allowed : standard.node world returns (.program statements) scope)
    (held : standard.state world first second) :
    standard.Agrees world (evalWithin depth (.program statements) scope)
      (evalWithin (depth + extra) (.program statements) scope) first second := by
  cases depth with
  | zero =>
      intro value after finished
      cases finished
  | succ depth =>
      rw [Nat.add_right_comm]
      apply Simulates.step (trace_run _ _) (trace_run _ _)
      apply Simulation.Matches.program law.simulation_lawful (law.passes returns) _
        ⟨rfl, rfl, law.null⟩ (law.traced _ held)
      intro statement member later after final le held
      exact law.matches_evalWithin depth extra
        (law.step (law.node_grows le allowed) statement member) held

/-- What is known when an evaluation finishes that kept a lawful standard. -/
theorem Lawful.finished (law : standard.Lawful) {depth : Nat} (extra : Nat) {returns : Bool}
    {node : Node} {scope : ScopeId} {value : Value} {after : State}
    (allowed : standard.node world returns node scope) (held : standard.state world first second)
    (run : evalWithin depth node scope first = some (value, after)) :
    ∃ final later, evalWithin (depth + extra) node scope second = some (value, final) ∧
      world ≤ later ∧
        ((∃ serial fault, value = .error serial fault ∧ standard.failed later fault after final) ∨
          standard.Passed returns later value value ∧ standard.state later after final) := by
  obtain ⟨other, final, later, other_run, le, meets⟩ :=
    law.matches_evalWithin depth extra allowed held value after run
  rcases meets with ⟨-, -, same, serial, fault, is_error, failed⟩ | ⟨-, -, ⟨same, passed⟩, held⟩
  · exact ⟨final, later, same ▸ other_run, le, .inl ⟨serial, fault, is_error, failed⟩⟩
  · exact ⟨final, later, same ▸ other_run, le, .inr ⟨⟨rfl, passed⟩, held⟩⟩

end Evaluation

end Standard

end MonkeyLang.Eval
