import MonkeyLang.Event
import MonkeyLang.Value.Scopes

/-!
The state of a run: the store of scopes, the next serial number, the counters,
and the log with its level. `Eval` is the type of computations over it; a
computation has no result when the depth it was allowed did not suffice.
-/

namespace MonkeyLang

structure Counters where
  statements : Nat := 0
  errors : Nat := 0
  functionCalls : Nat := 0
  builtinCalls : Nat := 0
  largestBlock : Nat := 0
  deriving DecidableEq, Repr

structure State where
  scopes : Scopes
  nextSerial : Nat := 0
  counters : Counters := {}
  level : Level := .none
  log : Array LogRecord := #[]

/-- Nothing has run; the one scope has number zero and no bindings. -/
def State.initial : State :=
  { scopes := Scopes.empty.create none }

abbrev Eval := StateT State Option

namespace Eval

/-- No result: the allowed depth is used up. -/
def exhausted {α : Type} : Eval α :=
  fun _ => none

/-- Add an event to the log if events of its level are admitted. -/
def note (severity : Severity) (level : Level) (event : Event) : Eval Unit :=
  modify fun state =>
    if state.level.admits level then { state with log := state.log.push ⟨severity, event⟩ }
    else state

/-- A step of the evaluation, logged in full only. -/
def trace (event : Event) : Eval Unit :=
  note .debug .debug event

/-- A failure, logged unless the log is off. -/
def report (event : Event) : Eval Unit :=
  note .error .error event

/-- A failure of a host's function, logged whatever the level. -/
def alarm (event : Event) : Eval Unit :=
  modify fun state => { state with log := state.log.push ⟨.error, event⟩ }

/-- A host's own message. It is admitted by the name of its level, and every level but
that of errors counts as debugging. -/
def remark (level message : String) (data : Option String) : Eval Unit :=
  modify fun state =>
    if state.level.admitsNamed level then
      let severity := if Level.ofName? level = some .error then Severity.error else .debug
      { state with log := state.log.push ⟨severity, .remark message data⟩ }
    else state

def count (change : Counters → Counters) : Eval Unit :=
  modify fun state => { state with counters := change state.counters }

/-- Make an object: its serial number was never used before. -/
def make (build : Nat → Value) : Eval Value :=
  modifyGet fun state =>
    (build state.nextSerial, { state with nextSerial := state.nextSerial + 1 })

def makeInteger (value : Int) : Eval Value :=
  make fun serial => .integer serial value

def makeString (text : String) : Eval Value :=
  make fun serial => .string serial text

def makeArray (elements : List Value) : Eval Value :=
  make fun serial => .array serial elements

def makeHash (entries : List (HashKey × Value × Value)) : Eval Value :=
  make fun serial => .hash serial entries

/-- An error is counted and reported when it arises, and not again on its way up. -/
def fail (fault : Fault) : Eval Value := do
  count fun counters => { counters with errors := counters.errors + 1 }
  report (.errorCreated fault)
  make fun serial => .error serial fault

/-- The value bound to a name in the chain of a scope. -/
def lookup? (scope : ScopeId) (name : String) : Eval (Option Value) := do
  return (← get).scopes.lookup? scope name

def bind (scope : ScopeId) (name : String) (value : Value) : Eval Unit :=
  modify fun state => { state with scopes := state.scopes.bind scope name value }

/-- Open a scope inside another and bind names in it. -/
def enter (outer : ScopeId) (bindings : List (String × Value)) : Eval ScopeId :=
  modifyGet fun state =>
    let inner := state.scopes.next
    (inner, { state with scopes := (state.scopes.create (some outer)).bindAll inner bindings })

end Eval

end MonkeyLang
