import MonkeyLang.Proofs.Batches
import MonkeyLang.Proofs.Counting
import MonkeyLang.Proofs.Forest
import MonkeyLang.Proofs.Passages

/-!
Lists of statements. A program, a block and the body of a function go through their statements in
the same way. A block counts its size and leaves a returned value wrapped; a program takes the
wrapper off, and so does a call, which runs the body in a scope of its own.
-/

namespace MonkeyLang

namespace Scopes

/-- A scope inside another one, with names that were bound in turn: they stand in the order in which
they came first, and of a repeated one the last value stays. -/
structure IsFilled (scopes : Scopes) (scope outer : ScopeId) (bindings : List (String × Value)) :
    Prop where
  link : scopes.outer? scope = some outer
  names : scopes.names scope = (bindings.map Prod.fst).eraseDups
  values : ∀ name, (scopes.bindings scope).lookup name = bindings.reverse.lookup name

theorem isFilled_entered (scopes : Scopes) (outer : ScopeId) (bindings : List (String × Value)) :
    ((scopes.create (some outer)).bindAll scopes.next bindings).IsFilled scopes.next outer
      bindings := by
  have empty : (scopes.create (some outer)).bindings scopes.next = [] := by
    rw [bindings_create, bindings_of_next_le scopes (Nat.le_refl _)]
  induction bindings using List.reverseRecOn with
  | nil =>
      exact
        { link := by rw [bindAll, outer?_create, if_pos rfl]
          names := by
            rw [names, bindAll, empty]
            rfl
          values := fun name => by
            rw [bindAll, empty]
            rfl }
  | append_singleton earlier binding filled =>
      obtain ⟨name, value⟩ := binding
      have present :
          scopes.next < ((scopes.create (some outer)).bindAll scopes.next earlier).next := by
        rw [next_bindAll, next_create]
        exact Nat.lt_succ_self _
      rw [bindAll_append]
      exact
        { link := by rw [outer?_bindAll, filled.link]
          names := by
            rw [bindAll, bindAll, names_bind present, if_pos rfl, filled.names, List.map_append,
              List.map_singleton, Assoc.eraseDups_concat]
            simp only [List.mem_eraseDups]
          values := fun other => by
            rw [bindAll, bindAll, bindings_bind, if_pos ⟨rfl, present⟩, Assoc.lookup_insert,
              filled.values, List.reverse_append, List.reverse_singleton, List.singleton_append,
              List.lookup_cons]
            by_cases same : other = name
            · simp [same]
            · have apart : (other == name) = false := beq_eq_false_iff_ne.mpr same
              rw [if_neg same, apart] }

namespace IsFilled

variable {scopes : Scopes} {scope outer : ScopeId} {bindings : List (String × Value)}
  {name : String}

theorem own (filled : scopes.IsFilled scope outer bindings) {value : Value}
    (bound : bindings.reverse.lookup name = some value) :
    scopes.lookup? scope name = some value :=
  scopes.lookup?_of_bound ((filled.values name).trans bound)

theorem around (filled : scopes.IsFilled scope outer bindings) (nested : scopes.IsNested)
    (absent : bindings.reverse.lookup name = none) :
    scopes.lookup? scope name = scopes.lookup? outer name := by
  rw [nested.lookup?_step, filled.values, absent, filled.link, Option.none_or, Option.bind_some]

/-- One name is bound in it after the others. -/
theorem bound (filled : scopes.IsFilled scope outer bindings) (present : scope < scopes.next)
    (added : String) (value : Value) (other : String) :
    ((scopes.bind scope added value).bindings scope).lookup other =
      if other = added then some value else bindings.reverse.lookup other := by
  rw [Scopes.bindings_bind, if_pos ⟨rfl, present⟩, Assoc.lookup_insert, filled.values]

end IsFilled

end Scopes

theorem Counters.IsGain.plus_left {change : Counters → Counters} (gains : IsGain change)
    (start gain : Counters) : change (start.plus gain) = (change start).plus gain := by
  obtain ⟨statements, functionCalls, builtinCalls, block, gains⟩ := gains
  rw [gains, gains]
  simp only [Counters.plus, Nat.add_right_comm, max_right_comm]

namespace Eval

/-- The state after a block of a size was counted. -/
def sized (size : Nat) (state : State) : State :=
  state.counted fun counters => { counters with largestBlock := max counters.largestBlock size }

/-- What is counted before an evaluation may as well be counted after it. -/
theorem evalWithin_counted {change : Counters → Counters} (gains : Counters.IsGain change)
    (depth : Nat) (node : Node) (scope : ScopeId) (before : State) :
    evalWithin depth node scope (before.counted change) =
      (evalWithin depth node scope before).map fun (value, after) =>
        (value, after.counted change) := by
  have sooner : evalWithin depth node scope (before.counted change) = _ :=
    Counting.evalWithin_from depth node scope before (change before.counters)
  have later : evalWithin depth node scope before = _ :=
    Counting.evalWithin_from depth node scope before before.counters
  rw [sooner, later, Option.map_map]
  congr
  funext ⟨value, after⟩
  simp only [Function.comp_apply, State.counted, gains.plus_left]

section Lists
variable {sub : Node → Eval Value} (each : ∀ child, Unlogged (sub child) (sub child))
include each

/-- A program goes through its statements as a block does. -/
theorem unlogged_runBlock (position : Nat) {result : Value} (calm : result.isInterrupt = false)
    (statements : List Node) :
    Unlogged (runProgram sub position result statements) (do
      let value ← runBlock sub result statements
      return value.unwrapped) := by
  induction statements generalizing position result with
  | nil =>
      show Unlogged (do trace (.programFinished result); return result) (return result.unwrapped)
      rw [Value.unwrapped_of_calm calm]
      exact (Unlogged.pure result).traced _
  | cons statement rest ih =>
      apply (unlogged_cons (each statement) fun value calm => ih (position + 1) calm).trans
      simp only [runBlock, bind_assoc]
      apply (each statement).bind
      intro value
      apply (Unlogged.counted _).bind
      intro _
      cases interrupt : value.isInterrupt with
      | true => exact ((Unlogged.pure value.unwrapped).traced _).symm
      | false =>
          have block := ih (position + 1) interrupt
          exact block.symm.trans block

end Lists

/-- A block comes to what a program of the same statements comes to, but for the wrapper of a
returned value, and it counts the same and its own size besides. -/
theorem block_alike (depth : Nat) (statements : List Node) (scope : ScopeId) (before : State) :
    ((evalWithin depth (.blockStatement statements) scope before).map fun (value, after) =>
      (value.unwrapped, after.silenced)) =
      (evalWithin depth (.program statements) scope before).map fun (value, after) =>
        (value, sized statements.length after.silenced) := by
  cases depth with
  | zero => rfl
  | succ depth =>
      let sub := fun child => evalWithin depth child scope
      let size := statements.length
      -- a block counts its size first, and what is counted first may as well be counted last
      have program : Unlogged (evalWithin (depth + 1) (.program statements) scope) (do
          let value ← runBlock sub .null statements
          return value.unwrapped) :=
        (unlogged_runBlock (fun child => .evalWithin depth child scope) 1 rfl statements).traced _
      have starts : (sized size before).silenced =
          (sized size (before.traced (.blockStarted size))).silenced :=
        congrArg (sized size) (State.silenced_traced before _).symm
      have same := program _ _ starts
      rw [sized, evalWithin_counted (.block size), Option.map_map] at same
      calc (runBlock sub .null statements (sized size (before.traced (.blockStarted size)))).map
              (fun (value, after) => (value.unwrapped, after.silenced))
          = ((do
              let value ← runBlock sub .null statements
              return value.unwrapped : Eval Value)
                (sized size (before.traced (.blockStarted size)))).map silence := by
            cases run : runBlock sub .null statements
                (sized size (before.traced (.blockStarted size))) with
            | none => rw [bind_run_none run]; rfl
            | some ended => rw [bind_run_of run]; rfl
        _ = _ := same.symm

/-- A call whose body is a block comes to what a program of the same statements comes to in the
scope of the call, and it counts itself besides. -/
theorem call_alike (depth : Nat) (statements : List Node) (before : State) (serial : Nat)
    (closure : ScopeId) {parameters : List String} {arguments : List Value}
    (arity : arguments.length = parameters.length) :
    (call depth (.function serial parameters (.blockStatement statements) closure) arguments
      before).map silence =
      (evalWithin depth (.program statements) before.scopes.next
        (before.entered closure (parameters.zip arguments))).map fun (value, after) =>
          (value, sized statements.length (after.silenced.counted fun counters =>
            { counters with functionCalls := counters.functionCalls + 1 })) := by
  let entered := before.entered closure (parameters.zip arguments)
  let call := fun state : State => state.counted fun counters =>
    { counters with functionCalls := counters.functionCalls + 1 }
  have starts : (before.called closure parameters arguments).silenced = (call entered).silenced :=
    State.silenced_traced (call entered) _
  have program := Unlogged.evalWithin depth (.program statements) before.scopes.next _ _ starts
  rw [evalWithin_counted .functionCall, Option.map_map] at program
  rw [call_of_arity_eq arity, Option.map_map]
  calc (evalWithin depth (.blockStatement statements) before.scopes.next
          (before.called closure parameters arguments)).map
            (fun (value, after) => (value.unwrapped, after.silenced))
      = (evalWithin depth (.program statements) before.scopes.next
          (before.called closure parameters arguments)).map
            (fun (value, after) => (value, sized statements.length after.silenced)) :=
        block_alike depth statements _ _
    _ = ((evalWithin depth (.program statements) before.scopes.next
          (before.called closure parameters arguments)).map silence).map
            (fun (value, after) => (value, sized statements.length after)) := by
        rw [Option.map_map]
        rfl
    _ = _ := by
        rw [program, Option.map_map]
        rfl

/-- Programs, blocks and calls run their lists of statements alike: none of them has a result where
another one has none, and the values and the states after them are the same, but for the wrapper of
a returned value and for what a block and a call count of themselves. The log is left aside. -/
theorem statement_lists_run_alike (depth : Nat) (statements : List Node) (before : State) :
    (∀ scope,
      (evalWithin depth (.blockStatement statements) scope before).map
          (fun (value, after) => (value.unwrapped, after.silenced)) =
        (evalWithin depth (.program statements) scope before).map
          fun (value, after) => (value, sized statements.length after.silenced)) ∧
    ∀ serial parameters closure arguments, arguments.length = parameters.length →
      (before.entered closure (parameters.zip arguments)).scopes.IsFilled before.scopes.next
        closure (parameters.zip arguments) ∧
      (call depth (.function serial parameters (.blockStatement statements) closure) arguments
          before).map silence =
        (evalWithin depth (.program statements) before.scopes.next
          (before.entered closure (parameters.zip arguments))).map
            fun (value, after) => (value, sized statements.length (after.silenced.counted
              fun counters => { counters with functionCalls := counters.functionCalls + 1 })) :=
  ⟨fun scope => block_alike depth statements scope before,
    fun serial _ closure _ arity =>
      ⟨before.scopes.isFilled_entered closure _,
        call_alike depth statements before serial closure arity⟩⟩

/-- `return a; 5` -/
def returningEarly : List Node :=
  [.returnStatement (.identifier "a"), .integerLiteral 5]

/-- A function of two parameters with one name is called with `10` and `20`. -/
theorem statement_lists_run_alike_repeatedParameter :
    [Value.integer 7 10, .integer 8 20].length = ["a", "a"].length ∧
    ∃ last,
      evalWithin 3 (.program returningEarly) 1
        (State.initial.entered 0 [("a", .integer 7 10), ("a", .integer 8 20)]) =
          some (.integer 8 20, last) ∧
      (call 3 (.function 6 ["a", "a"] (.blockStatement returningEarly) 0)
        [.integer 7 10, .integer 8 20] State.initial).map silence =
          some (.integer 8 20, sized 2 (last.silenced.counted fun counters =>
            { counters with functionCalls := counters.functionCalls + 1 })) := by
  have arity : [Value.integer 7 10, .integer 8 20].length = ["a", "a"].length := rfl
  obtain ⟨last, run⟩ : ∃ last, evalWithin 3 (.program returningEarly) 1
      (State.initial.entered 0 [("a", .integer 7 10), ("a", .integer 8 20)]) =
        some (.integer 8 20, last) := ⟨_, rfl⟩
  obtain ⟨-, calls⟩ := statement_lists_run_alike 3 returningEarly State.initial
  obtain ⟨-, alike⟩ := calls 6 ["a", "a"] 0 _ arity
  refine ⟨arity, last, run, alike.trans ?_⟩
  show (evalWithin 3 (.program returningEarly) 1
    (State.initial.entered 0 [("a", .integer 7 10), ("a", .integer 8 20)])).map _ = _
  rw [run]
  rfl

end Eval

end MonkeyLang
