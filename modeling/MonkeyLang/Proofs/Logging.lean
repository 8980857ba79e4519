import MonkeyLang.Proofs.Depth

/-!
The log only observes. Runs at different levels, or with the log fully on for a while, go
through the same values, scopes and counters, and either all of them end or none does. What
they log differs, but each log is a part of the full one: the records of its level, in order.
-/

namespace MonkeyLang

/-- Whether the event tells of a host's function that failed. -/
def Event.isAlarm : Event → Bool
  | .builtinRaised _ => true
  | _ => false

namespace LogRecord

/-- Whether a record of the full log is in the log of a level as well. -/
def shownAt : Level → LogRecord → Bool
  | .debug, _ => true
  | .error, record => record.severity = .error
  | .none, record => record.severity = .error && record.event.isAlarm

theorem shownAt_debug (level : Level) (event : Event) :
    shownAt level ⟨.debug, event⟩ = level.admits .debug := by
  cases level <;> rfl

theorem shownAt_error (level : Level) {event : Event} (calm : event.isAlarm = false) :
    shownAt level ⟨.error, event⟩ = level.admits .error := by
  cases level with
  | none => simp [shownAt, calm, Level.admits, Level.rank]
  | _ => rfl

theorem shownAt_alarm (level : Level) (name : String) :
    shownAt level ⟨.error, .builtinRaised name⟩ = true := by
  cases level <;> rfl

end LogRecord

namespace Eval.Logging

/-- The states of two runs, at one level each, that have logged the same `records` as far as
their levels show them. -/
structure Parallel (level level' : Level) (log log' : Array LogRecord) (first second : State) :
    Prop where
  scopes : first.scopes = second.scopes
  serial : first.nextSerial = second.nextSerial
  counters : first.counters = second.counters
  levels : first.level = level ∧ second.level = level'
  records : ∃ records : Array LogRecord,
    first.log = log ++ records.filter (·.shownAt level) ∧
      second.log = log' ++ records.filter (·.shownAt level')

variable {level level' : Level} {log log' : Array LogRecord} {first second : State}

theorem Parallel.symm (parallel : Parallel level level' log log' first second) :
    Parallel level' level log' log second first where
  scopes := parallel.scopes.symm
  serial := parallel.serial.symm
  counters := parallel.counters.symm
  levels := parallel.levels.symm
  records := by
    obtain ⟨records, shown, shown'⟩ := parallel.records
    exact ⟨records, shown', shown⟩

theorem append_filter_push (level : Level) (log records : Array LogRecord) (record : LogRecord) :
    log ++ (records.push record).filter (·.shownAt level) =
      if record.shownAt level then (log ++ records.filter (·.shownAt level)).push record
      else log ++ records.filter (·.shownAt level) := by
  rw [Array.filter_push]
  split
  · exact Array.append_push
  · rfl

theorem Parallel.noted (parallel : Parallel level level' log log' first second)
    {severity : Severity} {message : Level} {event : Event}
    (shown : ∀ level, LogRecord.shownAt level ⟨severity, event⟩ = level.admits message) :
    Parallel level level' log log' (first.noted severity message event)
      (second.noted severity message event) where
  scopes := by rw [State.noted_scopes, State.noted_scopes, parallel.scopes]
  serial := by rw [State.noted_nextSerial, State.noted_nextSerial, parallel.serial]
  counters := by rw [State.noted_counters, State.noted_counters, parallel.counters]
  levels := by rw [State.noted_level, State.noted_level]; exact parallel.levels
  records := by
    obtain ⟨records, logged, logged'⟩ := parallel.records
    refine ⟨records.push ⟨severity, event⟩, ?_, ?_⟩
    · rw [append_filter_push, shown, State.noted_log, parallel.levels.1, logged]
    · rw [append_filter_push, shown, State.noted_log, parallel.levels.2, logged']

theorem Parallel.traced (parallel : Parallel level level' log log' first second) (event : Event) :
    Parallel level level' log log' (first.traced event) (second.traced event) :=
  parallel.noted fun level => LogRecord.shownAt_debug level event

theorem Parallel.counted (parallel : Parallel level level' log log' first second)
    (change : Counters → Counters) :
    Parallel level level' log log' (first.counted change) (second.counted change) :=
  { parallel with counters := congrArg change parallel.counters }

theorem Parallel.bumped (parallel : Parallel level level' log log' first second) :
    Parallel level level' log log' first.bumped second.bumped :=
  { parallel with serial := congrArg (· + 1) parallel.serial }

theorem Parallel.failed (parallel : Parallel level level' log log' first second) (fault : Fault) :
    Parallel level level' log log' (first.failed fault) (second.failed fault) :=
  ((parallel.counted _).noted fun level => LogRecord.shownAt_error level rfl).bumped

/-- The failure of a host's function is in the log of every level. -/
theorem Parallel.alarmed (parallel : Parallel level level' log log' first second)
    (name : String) : Parallel level level' log log' (first.alarmed (.builtinRaised name))
      (second.alarmed (.builtinRaised name)) :=
  { parallel with
    records := by
      obtain ⟨records, logged, logged'⟩ := parallel.records
      refine ⟨records.push ⟨.error, .builtinRaised name⟩, ?_, ?_⟩
      · rw [append_filter_push, if_pos (LogRecord.shownAt_alarm _ _), ← logged]
        rfl
      · rw [append_filter_push, if_pos (LogRecord.shownAt_alarm _ _), ← logged']
        rfl }

/-- Nothing is asked of values and nodes. -/
def standard (level level' : Level) (log log' : Array LogRecord) : Standard Fixed where
  state _ := Parallel level level' log log'
  value _ _ := True
  failed _ _ := Parallel level level' log log'
  node _ _ _ _ := True

theorem settles (parallel : Parallel level level' log log' first second) (value : Value) :
    (standard level level' log log').Settles .world first second value := by
  cases value with
  | error serial fault => exact parallel
  | _ => trivial

theorem lawful : (standard level level' log log').Lawful where
  grows _ _ := trivial
  node_grows _ _ := trivial
  serial parallel := parallel.serial
  next parallel := congrArg Scopes.next parallel.scopes
  traced event parallel := parallel.traced event
  counted _ parallel := parallel.counted _
  bumped parallel := parallel.bumped
  fails fault parallel := parallel.failed fault
  failed_stepped parallel := parallel.counted _
  failed_traced event parallel := parallel.traced event
  raised _ parallel := (parallel.alarmed _).failed _
  unknown _ parallel := (parallel.noted fun level => LogRecord.shownAt_error level rfl).failed _
  null := trivial
  boolean _ := trivial
  string _ _ := trivial
  wrapped _ _ := trivial
  measured _ _ _ := trivial
  array _ _ := trivial
  hash _ _ _ := trivial
  element _ parallel value _ := settles parallel value
  tail _ _ := trivial
  pushed _ _ _ _ := trivial
  entry _ parallel entry _ := settles parallel entry.2.2
  inner _ parallel := settles parallel _
  operand _ _ _ := trivial
  step _ _ _ := trivial
  found _ parallel := by
    refine ⟨by rw [parallel.scopes], fun value _ => settles parallel value⟩
  builtin _ _ := trivial
  integer _ _ := trivial
  function _ _ := trivial
  returned _ _ _ _ := .inr trivial
  bound _ _ _ parallel :=
    { parallel with scopes := by simp only [State.bound, parallel.scopes] }
  entered _ _ _ parallel := by
    refine ⟨.world, le_rfl, { parallel with scopes := ?_ }, trivial⟩
    simp only [State.entered, parallel.scopes]

/-- A run at one level ends if it does at another, with the same value. -/
theorem finished {depth : Nat} {node : Node} {scope : ScopeId} {value : Value} {after : State}
    (parallel : Parallel level level' log log' first second)
    (run : evalWithin depth node scope first = some (value, after)) :
    ∃ final, evalWithin depth node scope second = some (value, final) ∧
      Parallel level level' log log' after final := by
  have law : (standard level level' log log').Lawful := lawful
  have allowed : (standard level level' log log').node .world true node scope := trivial
  obtain ⟨final, _, run', -, ⟨_, _, -, parallel⟩ | ⟨-, parallel⟩⟩ :=
    law.finished 0 allowed parallel run
  · exact ⟨final, run', parallel⟩
  · exact ⟨final, run', parallel⟩

theorem evalWithin_at (depth : Nat) (node : Node) (scope : ScopeId) (before : State)
    (level : Level) :
    evalWithin depth node scope { before with level } =
      (evalWithin depth node scope { before with level := .debug, log := #[] }).map
        fun (value, after) =>
          (value, { after with
            level, log := before.log ++ after.log.filter (·.shownAt level) }) := by
  have start : Parallel .debug level #[] before.log { before with level := .debug, log := #[] }
      { before with level } :=
    ⟨rfl, rfl, rfl, ⟨rfl, rfl⟩, #[], by simp, by simp⟩
  cases full : evalWithin depth node scope { before with level := .debug, log := #[] } with
  | some run =>
      rcases run with ⟨value, after⟩
      obtain ⟨final, run', same⟩ := finished start full
      obtain ⟨records, logged, logged'⟩ := same.records
      -- the full log is the list of all records
      have everything : after.log = records := by
        rw [logged, Array.empty_append]
        exact Array.filter_eq_self.mpr fun _ _ => rfl
      rw [← everything] at logged'
      rw [run', Option.map_some]
      simp only [same.scopes, same.serial, same.counters, ← logged']
      rw [← same.levels.2]
  | none =>
      cases run : evalWithin depth node scope { before with level } with
      | none => rfl
      | some ended =>
          obtain ⟨_, full', -⟩ := finished start.symm run
          rw [full] at full'
          cases full'

end Eval.Logging

namespace Eval

/-- At every level, and with the log fully on or not, a run is the fully logged run as far as
its value, the scopes, the counters and its end go. It adds to the log those records of the full
log that its level shows, and leaves the level as it was. -/
theorem logging_only_observes (depth : Nat) (node : Node) (scope : ScopeId) (before : State)
    (level : Level) (verbose : Bool) :
    evaluate depth node scope verbose { before with level } =
      (evaluate depth node scope false { before with level := .debug, log := #[] }).map
        fun (value, after) =>
          (value, { after with
            level
            log := before.log ++
              after.log.filter (·.shownAt (if verbose then .debug else level)) }) := by
  have start : (if verbose then { before with level := .debug } else { before with level }) =
      { before with level := if verbose then Level.debug else level } := by
    cases verbose <;> rfl
  rw [evaluate_run, evaluate_run]
  simp only [if_neg Bool.false_ne_true]
  rw [start, Logging.evalWithin_at, Option.map_map, Option.map_map]
  rfl

end Eval

end MonkeyLang
