import MonkeyLang.Proofs.Logging

/-!
Programs in pieces. A program that is evaluated piece by piece does what it does as a whole,
and after a statement that ends it nothing more is looked at. What differs is the log only: it
tells how many statements a piece has and where in it a statement stands.
-/

namespace MonkeyLang

/-- The state without its log. -/
def State.silenced (state : State) : State :=
  { state with level := .none, log := #[] }

theorem State.silenced_traced (state : State) (event : Event) :
    (state.traced event).silenced = state.silenced := by
  rw [traced, noted]
  split <;> rfl

namespace Eval

section Unlogged
variable {α β : Type}

def silence (result : α × State) : α × State :=
  (result.1, result.2.silenced)

/-- From states that differ in their logs only, both computations have the same result, or
neither has one, and the states after them differ in their logs only. -/
def Unlogged (left right : Eval α) : Prop :=
  ∀ first second, first.silenced = second.silenced →
    (left first).map silence = (right second).map silence

namespace Unlogged

variable {left middle right : Eval α}

theorem symm (same : Unlogged left right) : Unlogged right left :=
  fun first second starts => (same second first starts.symm).symm

theorem trans (same : Unlogged left middle) (also : Unlogged middle right) :
    Unlogged left right :=
  fun first second starts => (same first second starts).trans (also second second rfl)

theorem pure (value : α) : Unlogged (Pure.pure value) (Pure.pure value) := by
  intro first second starts
  show some (value, first.silenced) = some (value, second.silenced)
  rw [starts]

theorem bind {next next' : α → Eval β} (same : Unlogged left right)
    (later : ∀ value, Unlogged (next value) (next' value)) :
    Unlogged (left >>= next) (right >>= next') := by
  intro first second starts
  have here := same first second starts
  cases run : left first with
  | none =>
      rw [run, Option.map_none, eq_comm, Option.map_eq_none_iff] at here
      rw [bind_run_none run, bind_run_none here]
  | some result =>
      rw [run, Option.map_some, eq_comm, Option.map_eq_some_iff] at here
      obtain ⟨⟨value, after⟩, run', silent⟩ := here
      cases result
      cases (Prod.ext_iff.mp silent).1
      rw [bind_run_of run, bind_run_of run']
      exact later _ _ _ (Prod.ext_iff.mp silent).2.symm

theorem counted (change : Counters → Counters) : Unlogged (count change) (count change) := by
  intro first second starts
  show some ((), first.silenced.counted change) = some ((), second.silenced.counted change)
  rw [starts]

/-- An event that is logged on the way makes no difference. -/
theorem traced (same : Unlogged left right) (event : Event) :
    Unlogged (do trace event; left) right := by
  intro first second starts
  rw [bind_run_of (trace_run event first)]
  exact same _ _ ((State.silenced_traced first event).trans starts)

theorem evalWithin (depth : Nat) (node : Node) (scope : ScopeId) :
    Unlogged (evalWithin depth node scope) (evalWithin depth node scope) := by
  intro first second starts
  -- both runs are the fully logged run from the same state, as far as they can be compared
  have full (state : State) : (Eval.evalWithin depth node scope state).map silence =
      (Eval.evalWithin depth node scope { state.silenced with level := .debug }).map silence := by
    rw [show state = { state with level := state.level } from rfl, Logging.evalWithin_at,
      Option.map_map]
    rfl
  rw [full first, full second, starts]

theorem evaluate (depth : Nat) (node : Node) (scope : ScopeId) (verbose : Bool) :
    Unlogged (evaluate depth node scope verbose) (Eval.evalWithin depth node scope) := by
  intro first second starts
  have start : (if verbose then { first with level := .debug } else first).silenced =
      second.silenced := by
    rw [← starts]
    cases verbose <;> rfl
  rw [evaluate_run, Option.map_map, ← evalWithin depth node scope _ second start]
  rfl

end Unlogged

end Unlogged

/-- The statements of a program up to the one that ends it, if there is one: the value so far,
and whether the program has ended. -/
def advance (sub : Node → Eval Value) : Value → List Node → Eval (Value × Bool)
  | result, [] => return (result, false)
  | _, statement :: rest => do
      let value ← sub statement
      countStatement
      if value.isInterrupt then return (value.unwrapped, true) else advance sub value rest

/-- What is done once some statements are through. -/
def followUp (sub : Node → Eval Value) (position : Nat) (rest : List Node) :
    Value × Bool → Eval Value
  | (value, true) => return value
  | (value, false) => runProgram sub position value rest

section Sequences
variable {sub : Node → Eval Value} (each : ∀ child, Unlogged (sub child) (sub child))

/-- A statement either ends its program or not. -/
theorem unlogged_settle {position : Nat} {rest : List Node} {value : Value} {next : Eval Value}
    (calm : value.isInterrupt = false → Unlogged (runProgram sub (position + 1) value rest) next) :
    Unlogged (settle sub position rest value)
      (if value.isInterrupt then return value.unwrapped else next) := by
  cases value with
  | returned serial inner => exact (Unlogged.pure inner).traced _
  | error serial fault => exact (Unlogged.pure _).traced _
  | _ => exact calm rfl

theorem unlogged_cons {position : Nat} {result : Value} {statement : Node} {rest : List Node}
    {next : Value → Eval Value} (head : Unlogged (sub statement) (sub statement))
    (calm : ∀ value, value.isInterrupt = false →
      Unlogged (runProgram sub (position + 1) value rest) (next value)) :
    Unlogged (runProgram sub position result (statement :: rest)) (do
      let value ← sub statement
      countStatement
      if value.isInterrupt then return value.unwrapped else next value) := by
  rw [runProgram_cons]
  apply Unlogged.traced
  apply head.bind
  intro value
  apply (Unlogged.counted _).bind
  intro _
  exact unlogged_settle (calm value)

include each

/-- Neither the position of statements in their program matters, nor what came before them. -/
theorem unlogged_runProgram {statements : List Node} (position position' : Nat)
    {result result' : Value} (same : statements = [] → result = result') :
    Unlogged (runProgram sub position result statements)
      (runProgram sub position' result' statements) := by
  induction statements generalizing position position' result result' with
  | nil =>
      rw [same rfl]
      exact ((Unlogged.pure result').traced _).trans ((Unlogged.pure result').traced _).symm
  | cons statement rest ih =>
      have head (position : Nat) (result : Value) :
          Unlogged (runProgram sub position result (statement :: rest)) (do
            let value ← sub statement
            countStatement
            if value.isInterrupt then return value.unwrapped else runProgram sub 0 value rest) :=
        unlogged_cons (each statement) fun value _ => ih (position + 1) 0 fun _ => rfl
      exact (head position result).trans (head position' result').symm

/-- What came before some statements is the result only if there are none. -/
theorem unlogged_result (position : Nat) (value : Value) (statements : List Node)
    (before : State) :
    (runProgram sub position value statements before).map silence =
      ((runProgram sub position .null statements before).map silence).map fun (result, last) =>
        (if statements.isEmpty then value else result, last) := by
  cases statements with
  | nil =>
      show some (value, (before.traced (.programFinished value)).silenced) =
        some (value, (before.traced (.programFinished .null)).silenced)
      rw [State.silenced_traced, State.silenced_traced]
  | cons statement rest =>
      have same : Unlogged (runProgram sub position value (statement :: rest))
          (runProgram sub position .null (statement :: rest)) :=
        unlogged_runProgram each position position fun empty => nomatch empty
      rw [same before before rfl]
      exact Option.map_id'.symm

omit each in
theorem advance_cons (position : Nat) (result : Value) (statement : Node)
    (passed rest : List Node) :
    advance sub result (statement :: passed) >>= followUp sub position rest = (do
      let value ← sub statement
      countStatement
      if value.isInterrupt then return value.unwrapped
      else advance sub value passed >>= followUp sub position rest) := by
  simp only [advance, bind_assoc]
  congr
  funext value
  congr
  funext _
  cases value.isInterrupt <;> rfl

/-- How a program goes on after some of its statements. -/
theorem unlogged_runProgram_append (position position' : Nat) (result : Value)
    (passed rest : List Node) :
    Unlogged (runProgram sub position result (passed ++ rest))
      (advance sub result passed >>= followUp sub position' rest) := by
  induction passed generalizing position result with
  | nil => exact unlogged_runProgram each position position' fun _ => rfl
  | cons statement passed ih =>
      rw [advance_cons]
      exact unlogged_cons (each statement) fun value _ => ih (position + 1) value

end Sequences

/-- Some statement of a program, come to in order, yields a returned value or an error. -/
inductive Interrupted (scope : ScopeId) : List Node → State → Prop where
  | here {statement rest before value after} :
      Yields statement scope before value after → value.isInterrupt = true →
        Interrupted scope (statement :: rest) before
  | later {statement rest before value after} :
      Yields statement scope before value after → value.isInterrupt = false →
        Interrupted scope rest after.stepped → Interrupted scope (statement :: rest) before

section Programs
variable {depth : Nat} {scope : ScopeId} {before after : State}

theorem ended_iff_interrupted {statements : List Node} {result value : Value} {ended : Bool}
    (run : advance (fun child => evalWithin depth child scope) result statements before =
      some ((value, ended), after)) :
    ended = true ↔ Interrupted scope statements before := by
  induction statements generalizing result before with
  | nil =>
      cases run
      constructor
      · intro ended
        cases ended
      · intro interrupted
        cases interrupted
  | cons statement rest ih =>
      obtain ⟨answer, middle, head, tail⟩ := exists_of_bind_run run
      rw [bind_run_of (countStatement_run _)] at tail
      have yields : Yields statement scope before answer middle := ⟨depth, head⟩
      cases calm : answer.isInterrupt with
      | true =>
          rw [if_pos calm] at tail
          cases tail
          exact iff_of_true rfl (.here yields calm)
      | false =>
          rw [if_neg (by simp [calm])] at tail
          rw [ih tail]
          constructor
          · exact .later yields calm
          · intro interrupted
            cases interrupted with
            | here other interrupts =>
                rw [(other.unique yields).1, calm] at interrupts
                cases interrupts
            | later other _ interrupted =>
                rw [(other.unique yields).2] at interrupted
                exact interrupted

/-- A program is what its first statements come to, and what is done after them. -/
theorem unlogged_program (depth : Nat) (scope : ScopeId) (passed rest : List Node)
    (verbose : Bool) :
    Unlogged (evaluate (depth + 1) (.program (passed ++ rest)) scope verbose)
      (advance (fun child => evalWithin depth child scope) .null passed >>=
        followUp (fun child => evalWithin depth child scope) 1 rest) := by
  apply (Unlogged.evaluate (depth + 1) _ scope verbose).trans
  apply Unlogged.traced
  exact unlogged_runProgram_append (fun child => .evalWithin depth child scope) 1 1 .null passed
    rest

theorem followUp_nil {sub : Node → Eval Value} {position : Nat} {value answer : Value}
    {ended : Bool} (run : followUp sub position [] (value, ended) before = some (answer, after)) :
    answer = value ∧ after.silenced = before.silenced := by
  cases ended with
  | true =>
      cases run
      exact ⟨rfl, rfl⟩
  | false =>
      cases run
      exact ⟨rfl, State.silenced_traced before _⟩

/-- How far a program came by its statements. -/
theorem exists_advance {statements : List Node} {verbose : Bool} {value : Value}
    (run : evaluate (depth + 1) (.program statements) scope verbose before = some (value, after)) :
    ∃ ended middle, advance (fun child => evalWithin depth child scope) .null statements before =
      some ((value, ended), middle) ∧ middle.silenced = after.silenced := by
  have same := unlogged_program depth scope statements [] verbose before before rfl
  rw [List.append_nil, run, Option.map_some, eq_comm, Option.map_eq_some_iff] at same
  obtain ⟨⟨answer, last⟩, pieces, silent⟩ := same
  obtain ⟨⟨reached, ended⟩, middle, head, tail⟩ := exists_of_bind_run pieces
  obtain ⟨rfl, still⟩ := followUp_nil tail
  obtain ⟨rfl, silent⟩ := Prod.ext_iff.mp silent
  exact ⟨ended, middle, head, still.symm.trans silent⟩

/-- If a statement of the first piece ends it, the second piece is not looked at. Otherwise the
whole is the one piece and after it the other, and its value that of the last piece that has
statements. The log may be fully on or not in each of the evaluations. -/
theorem program_in_pieces {passed : List Node} {verbose : Bool} {value : Value}
    (run : evaluate depth (.program passed) scope verbose before = some (value, after)) :
    (Interrupted scope passed before → ∀ rest verbose,
      (evaluate depth (.program (passed ++ rest)) scope verbose before).map silence =
        some (value, after.silenced)) ∧
    (¬ Interrupted scope passed before → ∀ rest verbose verbose',
      (evaluate depth (.program (passed ++ rest)) scope verbose before).map silence =
        (evaluate depth (.program rest) scope verbose' after).map fun (result, last) =>
          (if rest.isEmpty then value else result, last.silenced)) := by
  cases depth with
  | zero =>
      rw [evaluate_run] at run
      cases run
  | succ depth =>
      obtain ⟨ended, middle, head, silent⟩ := exists_advance run
      -- whatever comes after the first piece, its statements run as they did by themselves
      have whole (rest : List Node) (verbose : Bool) :=
        unlogged_program depth scope passed rest verbose before before rfl
      simp only [bind_run_of head] at whole
      constructor
      · intro interrupted rest verbose
        obtain rfl := (ended_iff_interrupted head).mpr interrupted
        rw [whole, ← silent]
        rfl
      · intro calm rest verbose verbose'
        have going : ended = false := by
          rw [Bool.eq_false_iff, ne_eq, ended_iff_interrupted head]
          exact calm
        subst going
        have second :=
          unlogged_program depth scope [] rest verbose' after middle silent.symm
        calc (evaluate (depth + 1) (.program (passed ++ rest)) scope verbose before).map silence
            = (runProgram (fun child => evalWithin depth child scope) 1 value rest middle).map
                silence := whole rest verbose
          _ = ((evaluate (depth + 1) (.program rest) scope verbose' after).map silence).map
                fun (result, last) => (if rest.isEmpty then value else result, last) := by
              rw [unlogged_result fun child => .evalWithin depth child scope]
              exact congrArg _ second.symm
          _ = _ := Option.map_map ..

end Programs

/-- `let a = [1];` -/
def bindingPiece : List Node :=
  [.letStatement "a" (.arrayLiteral [.integerLiteral 1])]

/-- `return push(a, 2);` -/
def returningPiece : List Node :=
  [.returnStatement (.callExpression (.identifier "push") [.identifier "a", .integerLiteral 2])]

/-- The first piece goes on to the second, which ends the program before the third. -/
theorem program_in_pieces_boundThenReturned :
    ∃ value after result last,
      evaluate 9 (.program bindingPiece) 0 false State.initial = some (value, after) ∧
      ¬ Interrupted 0 bindingPiece State.initial ∧
      evaluate 9 (.program returningPiece) 0 true after = some (result, last) ∧
      Interrupted 0 returningPiece after ∧
      (evaluate 9 (.program (bindingPiece ++ returningPiece)) 0 false State.initial).map silence =
        some (result, last.silenced) ∧
      (evaluate 9 (.program (returningPiece ++ [.identifier "b"])) 0 false after).map silence =
        some (result, last.silenced) := by
  obtain ⟨value, after, result, last, first, second, reached, middle, goes⟩ :
      ∃ value after result last,
        evaluate 9 (.program bindingPiece) 0 false State.initial = some (value, after) ∧
        evaluate 9 (.program returningPiece) 0 true after = some (result, last) ∧
        ∃ reached middle, advance (fun child => evalWithin 8 child 0) .null returningPiece after =
          some ((reached, true), middle) :=
    ⟨_, _, _, _, rfl, rfl, _, _, rfl⟩
  have calm : ¬ Interrupted 0 bindingPiece State.initial := by
    obtain ⟨reached, middle, goes⟩ : ∃ reached middle,
        advance (fun child => evalWithin 8 child 0) .null bindingPiece State.initial =
          some ((reached, false), middle) := ⟨_, _, rfl⟩
    rw [← ended_iff_interrupted goes]
    exact Bool.false_ne_true
  have ends : Interrupted 0 returningPiece after := (ended_iff_interrupted goes).mp rfl
  have joined := (program_in_pieces first).2 calm returningPiece false true
  rw [second] at joined
  have left := (program_in_pieces second).1 ends [.identifier "b"] false
  exact ⟨value, after, result, last, first, calm, second, ends, joined, left⟩

end Eval

end MonkeyLang
