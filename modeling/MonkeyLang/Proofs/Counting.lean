import MonkeyLang.Proofs.Depth
import MonkeyLang.Proofs.Everywhere
import MonkeyLang.Proofs.Reachable

/-!
The counters only count. No run depends on what was counted before: started with other
counters, it ends in the same way and has added the same numbers. The largest block that a run
comes by is a block of its tree, or of the body of a function that could be reached when it
started.
-/

namespace MonkeyLang

namespace Counters

/-- What is counted when more is counted; of two block sizes the larger one stays. -/
def plus (start gain : Counters) : Counters where
  statements := start.statements + gain.statements
  errors := start.errors + gain.errors
  functionCalls := start.functionCalls + gain.functionCalls
  builtinCalls := start.builtinCalls + gain.builtinCalls
  largestBlock := max start.largestBlock gain.largestBlock

theorem plus_zero (start : Counters) : start.plus {} = start := by
  simp [plus]

theorem zero_plus (gain : Counters) : plus {} gain = gain := by
  simp [plus]

theorem IsGain.plus {change : Counters → Counters} (gains : IsGain change)
    (start gain : Counters) : change (start.plus gain) = start.plus (change gain) := by
  obtain ⟨statements, functionCalls, builtinCalls, block, gains⟩ := gains
  rw [gains, gains]
  simp only [Counters.plus, Nat.add_assoc, Nat.max_assoc]

theorem plus_error (start gain : Counters) :
    { start.plus gain with errors := (start.plus gain).errors + 1 } =
      start.plus { gain with errors := gain.errors + 1 } :=
  rfl

end Counters

namespace Eval.Counting

/-- The states of two runs that have counted the same since each of them started. -/
structure Parallel (start start' : Counters) (first second : State) : Prop where
  scopes : first.scopes = second.scopes
  serial : first.nextSerial = second.nextSerial
  level : first.level = second.level
  log : first.log = second.log
  counters : ∃ gain, first.counters = start.plus gain ∧ second.counters = start'.plus gain

variable {start start' : Counters} {first second : State}

theorem Parallel.symm (parallel : Parallel start start' first second) :
    Parallel start' start second first where
  scopes := parallel.scopes.symm
  serial := parallel.serial.symm
  level := parallel.level.symm
  log := parallel.log.symm
  counters := by
    obtain ⟨gain, counted, counted'⟩ := parallel.counters
    exact ⟨gain, counted', counted⟩

theorem Parallel.noted (parallel : Parallel start start' first second) (severity : Severity)
    (level : Level) (event : Event) : Parallel start start' (first.noted severity level event)
      (second.noted severity level event) where
  scopes := by rw [State.noted_scopes, State.noted_scopes, parallel.scopes]
  serial := by rw [State.noted_nextSerial, State.noted_nextSerial, parallel.serial]
  level := by rw [State.noted_level, State.noted_level, parallel.level]
  log := by rw [State.noted_log, State.noted_log, parallel.level, parallel.log]
  counters := by rw [State.noted_counters, State.noted_counters]; exact parallel.counters

theorem Parallel.counted (parallel : Parallel start start' first second)
    {change : Counters → Counters}
    (commutes : ∀ start gain : Counters, change (start.plus gain) = start.plus (change gain)) :
    Parallel start start' (first.counted change) (second.counted change) :=
  { parallel with
    counters := by
      obtain ⟨gain, counted, counted'⟩ := parallel.counters
      refine ⟨change gain, ?_, ?_⟩
      · rw [State.counted, counted, commutes]
      · rw [State.counted, counted', commutes] }

theorem Parallel.bumped (parallel : Parallel start start' first second) :
    Parallel start start' first.bumped second.bumped :=
  { parallel with serial := congrArg (· + 1) parallel.serial }

theorem Parallel.failed (parallel : Parallel start start' first second) (fault : Fault) :
    Parallel start start' (first.failed fault) (second.failed fault) :=
  ((parallel.counted Counters.plus_error).noted _ _ _).bumped

theorem Parallel.alarmed (parallel : Parallel start start' first second) (event : Event) :
    Parallel start start' (first.alarmed event) (second.alarmed event) :=
  { parallel with log := by rw [State.alarmed, State.alarmed, parallel.log] }

/-- Nothing is asked of values and nodes. -/
def standard (start start' : Counters) : Standard Fixed where
  state _ := Parallel start start'
  value _ _ := True
  failed _ _ := Parallel start start'
  node _ _ _ _ := True

theorem settles (parallel : Parallel start start' first second) (value : Value) :
    (standard start start').Settles .world first second value := by
  cases value with
  | error serial fault => exact parallel
  | _ => trivial

theorem lawful : (standard start start').Lawful where
  grows _ _ := trivial
  node_grows _ _ := trivial
  serial parallel := parallel.serial
  next parallel := congrArg Scopes.next parallel.scopes
  traced event parallel := parallel.noted _ _ event
  counted gain parallel := parallel.counted gain.plus
  bumped parallel := parallel.bumped
  fails fault parallel := parallel.failed fault
  failed_stepped parallel := parallel.counted Counters.IsGain.statement.plus
  failed_traced event parallel := parallel.noted _ _ event
  raised _ parallel := (parallel.alarmed _).failed _
  unknown _ parallel := (parallel.noted _ _ _).failed _
  null := trivial
  boolean _ := trivial
  string _ _ := trivial
  wrapped _ _ := trivial
  measured _ _ _ := trivial
  array _ _ := trivial
  hash _ _ _ := trivial
  element _ parallel value _ := settles parallel value
  tail _ _ := trivial
  pushed _ _ _ _ := trivial
  entry _ parallel entry _ := settles parallel entry.2.2
  inner _ parallel := settles parallel _
  operand _ _ _ := trivial
  step _ _ _ := trivial
  found _ parallel := ⟨by rw [parallel.scopes], fun value _ => settles parallel value⟩
  builtin _ _ := trivial
  integer _ _ := trivial
  function _ _ := trivial
  returned _ _ _ _ := .inr trivial
  bound _ _ _ parallel := { parallel with scopes := by simp only [State.bound, parallel.scopes] }
  entered _ _ _ parallel := by
    refine ⟨.world, le_rfl, { parallel with scopes := ?_ }, trivial⟩
    simp only [State.entered, parallel.scopes]

/-- A run ends if it does with other counters, and has counted the same. -/
theorem finished {depth : Nat} {node : Node} {scope : ScopeId} {value : Value} {after : State}
    (parallel : Parallel start start' first second)
    (run : evalWithin depth node scope first = some (value, after)) :
    ∃ final, evalWithin depth node scope second = some (value, final) ∧
      Parallel start start' after final := by
  have law : (standard start start').Lawful := lawful
  have allowed : (standard start start').node .world true node scope := trivial
  obtain ⟨final, _, run', -, ⟨_, _, -, parallel⟩ | ⟨-, parallel⟩⟩ :=
    law.finished 0 allowed parallel run
  · exact ⟨final, run', parallel⟩
  · exact ⟨final, run', parallel⟩

/-- The run with any counters, as the run in which nothing was counted before. -/
theorem evalWithin_from (depth : Nat) (node : Node) (scope : ScopeId) (before : State)
    (start : Counters) :
    evalWithin depth node scope { before with counters := start } =
      (evalWithin depth node scope { before with counters := {} }).map fun (value, after) =>
        (value, { after with counters := start.plus after.counters }) := by
  have begins : Parallel {} start { before with counters := {} }
      { before with counters := start } :=
    ⟨rfl, rfl, rfl, rfl, {}, rfl, (Counters.plus_zero start).symm⟩
  cases zeroed : evalWithin depth node scope { before with counters := {} } with
  | some run =>
      obtain ⟨value, after⟩ := run
      obtain ⟨final, run', same⟩ := finished begins zeroed
      obtain ⟨gain, counted, counted'⟩ := same.counters
      rw [Counters.zero_plus] at counted
      rw [run', Option.map_some]
      simp only [same.scopes, same.serial, same.level, same.log, counted, ← counted']
  | none =>
      cases run : evalWithin depth node scope { before with counters := start } with
      | none => rfl
      | some ended =>
          obtain ⟨_, zeroed', -⟩ := finished begins.symm run
          rw [zeroed] at zeroed'
          cases zeroed'

end Eval.Counting

/-- A block of this size is in the tree, or in the body of a function that can be reached. -/
def Scopes.BlockSize (scopes : Scopes) (node : Node) (home : ScopeId) (size : Nat) : Prop :=
  ∃ root, (root = node ∨ ∃ serial parameters closure,
      scopes.Offers home (.function serial parameters root closure)) ∧
    ∃ path statements, root.Occurs path (.blockStatement statements) ∧ statements.length = size

namespace Eval

namespace Counting

/-- No block is of a size that is not allowed. -/
def FitsIn (allowed : Nat → Prop) (node : Node) : Prop :=
  node.Everywhere fun part => ∀ statements, part = .blockStatement statements →
    allowed statements.length

def terms (allowed : Nat → Prop) : Terms where
  fine := FitsIn allowed
  callable := FitsIn allowed
  block size := size = 0 ∨ allowed size

theorem terms_lawful (allowed : Nat → Prop) : (terms allowed).Lawful where
  operand fits := Node.Everywhere.operand fits
  step fits := Node.Everywhere.step fits
  literal fits := Node.Everywhere.body fits
  body fits := fits
  compared fits before := by
    rcases Nat.le_total _ _ with larger | larger
    · rw [Nat.max_eq_right larger]
      exact .inr (fits.here _ rfl)
    · rw [Nat.max_eq_left larger]
      exact before

theorem largestBlock_of_run {depth : Nat} {node : Node} {home : ScopeId} {before after : State}
    {value : Value} (zero : before.counters.largestBlock = 0)
    (run : evalWithin depth node home before = some (value, after)) :
    after.counters.largestBlock = 0 ∨
      before.scopes.BlockSize node home after.counters.largestBlock := by
  have law := terms_lawful (before.scopes.BlockSize node home)
  have starts : (terms (before.scopes.BlockSize node home)).Confines
      {scope | before.scopes.Reaches home scope} before := by
    refine Terms.confines_reached (.inl zero) ?_
    rintro serial parameters body closure offered path _ occurs statements rfl
    exact ⟨body, .inr ⟨serial, parameters, closure, offered⟩, path, statements, occurs, rfl⟩
  have fits : FitsIn (before.scopes.BlockSize node home) node := by
    rintro path _ occurs statements rfl
    exact ⟨node, .inl rfl, path, statements, occurs, rfl⟩
  obtain ⟨later, -, ends, -⟩ := law.growth.sound depth ⟨.home, fits⟩ starts value after run
  exact ends.block

/-- An evaluation with any counters, as the run of its tree with none. -/
theorem evaluate_from (depth : Nat) (node : Node) (scope : ScopeId) (verbose : Bool)
    (before : State) (start : Counters) :
    evaluate depth node scope verbose { before with counters := start } =
      (evalWithin depth node scope { before with
        level := if verbose then .debug else before.level, counters := {} }).map
          fun (value, after) => (value, { after with
            level := before.level, counters := start.plus after.counters }) := by
  have ready : (if verbose then { before with level := .debug, counters := start }
      else { before with counters := start } : State) =
        { before with level := if verbose then .debug else before.level, counters := start } := by
    cases verbose <;> rfl
  have run := evalWithin_from depth node scope
    { before with level := if verbose then .debug else before.level } start
  rw [evaluate_run, ready, run, Option.map_map]
  rfl

end Counting

/-- Whatever the counters are at the start, an evaluation ends in the same way, or does not end,
and it adds the same numbers to them. The largest block it comes by is one of its tree or of the
body of a function that can be reached. -/
theorem counters_only_add (depth : Nat) (node : Node) (scope : ScopeId) (verbose : Bool)
    (before : State) :
    ∃ gain : Counters,
      (∀ start, evaluate depth node scope verbose { before with counters := start } =
        (evaluate depth node scope verbose before).map fun (value, after) =>
          (value, { after with counters := start.plus gain })) ∧
      (gain.largestBlock = 0 ∨ before.scopes.BlockSize node scope gain.largestBlock) := by
  have same : evaluate depth node scope verbose before = _ :=
    Counting.evaluate_from depth node scope verbose before before.counters
  cases zeroed : evalWithin depth node scope { before with
      level := if verbose then .debug else before.level, counters := {} } with
  | none =>
      refine ⟨{}, fun start => ?_, .inl rfl⟩
      rw [same, Counting.evaluate_from, zeroed]
      rfl
  | some run =>
      obtain ⟨value, after⟩ := run
      have ends := Counting.largestBlock_of_run rfl zeroed
      refine ⟨after.counters, fun start => ?_, ends⟩
      rw [same, Counting.evaluate_from, zeroed]
      rfl

end Eval

end MonkeyLang
