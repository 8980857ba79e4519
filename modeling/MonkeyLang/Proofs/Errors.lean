import MonkeyLang.Proofs.Invariant
import MonkeyLang.Proofs.Parts
import MonkeyLang.Proofs.WellFormed

/-!
Errors are values, and yet no scope, array, hash or returned value ever holds one: each
construct hands the first error on at once. So an evaluation that ends in an error has
made exactly one, and one that ends in another value has made none; the counter of
errors and the log say the same.
-/

namespace MonkeyLang

/-- Whether a value is none of a host's failing functions. -/
def Value.isNative : Value → Bool
  | failing _ _ _ => false
  | _ => true

/-- If the value is a function, some document describes its body. -/
def Value.HasDescribableBody (value : Value) : Prop :=
  ∀ serial parameters body scope, value = .function serial parameters body scope →
    Document.Describable body

def Value.ErrorFree (value : Value) : Prop :=
  value.Throughout fun part => part.isError = false

def State.ErrorFree (state : State) : Prop :=
  state.Throughout fun part => part.isError = false

namespace Eval.Errors

/-- What is true of every part of a value. Under `strict` the log is predicted too, which
takes well-formed function bodies and no failing functions of a host. -/
def Sound (strict : Prop) (part : Value) : Prop :=
  part.isError = false ∧
    (strict → part.isNative = true ∧ ∀ serial parameters body scope,
      part = .function serial parameters body scope → body.wellFormed = true)

/-- The state before an error: `count` errors have arisen and the log is `log`. -/
structure Clean (strict : Prop) (count : Nat) (log : Array LogRecord) (state : State) : Prop where
  scopes : state.Throughout (Sound strict)
  errors : state.counters.errors = count
  silent : strict → state.level = .error ∧ state.log = log

/-- One error has arisen, and nothing is bound to it. -/
structure Failed (strict : Prop) (count : Nat) (log : Array LogRecord) (fault : Fault)
    (state : State) : Prop where
  scopes : state.Throughout (Sound strict)
  errors : state.counters.errors = count + 1
  logged : strict → state.level = .error ∧ state.log = log.push ⟨.error, .errorCreated fault⟩

variable {strict : Prop} {count : Nat} {log : Array LogRecord} {state : State} {fault : Fault}

theorem Clean.traced (clean : Clean strict count log state) (event : Event) :
    Clean strict count log (state.traced event) where
  scopes := clean.scopes.of_scopes (State.noted_scopes ..)
  errors := by rw [State.traced, State.noted_counters, clean.errors]
  silent strictly := by
    obtain ⟨level, same⟩ := clean.silent strictly
    simp [State.traced, State.noted, level, same, Level.admits, Level.rank]

theorem Failed.traced (failed : Failed strict count log fault state) (event : Event) :
    Failed strict count log fault (state.traced event) where
  scopes := failed.scopes.of_scopes (State.noted_scopes ..)
  errors := by rw [State.traced, State.noted_counters, failed.errors]
  logged strictly := by
    obtain ⟨level, same⟩ := failed.logged strictly
    simp [State.traced, State.noted, level, same, Level.admits, Level.rank]

/-- An error is counted and logged when it arises. -/
theorem Clean.failed (clean : Clean strict count log state) (fault : Fault) :
    Failed strict count log fault (state.failed fault) where
  scopes := clean.scopes.of_scopes (State.failed_scopes ..)
  errors := by rw [State.failed_counters, clean.errors]
  logged strictly := by
    obtain ⟨level, same⟩ := clean.silent strictly
    simp [State.failed, State.counted, State.bumped, State.noted, level, same, Level.admits,
      Level.rank]

theorem sound_atom {value : Value} (atom : value.IsAtom) (sound : value.isError = false)
    (native : value.isNative = true) (plain : value.tag ≠ .function) :
    value.Throughout (Sound strict) := by
  refine (Value.throughout_atom atom).mpr ⟨sound, fun _ => ⟨native, ?_⟩⟩
  rintro serial parameters body scope rfl
  exact absurd rfl plain

theorem containers : Value.HoldsOfContainers (Sound strict) where
  array _ _ := ⟨rfl, fun _ => ⟨rfl, by simp⟩⟩
  hash _ _ := ⟨rfl, fun _ => ⟨rfl, by simp⟩⟩

theorem sound_returned {serial : Nat} {value : Value} :
    (Value.returned serial value).Throughout (Sound strict) ↔
      value.Throughout (Sound strict) := by
  rw [Value.throughout_returned]
  exact and_iff_right ⟨rfl, fun _ => ⟨rfl, by simp⟩⟩

/-- Errors are counted once and never stored. -/
def invariant (strict : Prop) (count : Nat) (log : Array LogRecord) : Invariant where
  state := Clean strict count log
  value value := value.Throughout (Sound strict)
  failed := Failed strict count log
  node _ node _ := strict → node.wellFormed = true

theorem settles {value : Value} (sound : value.Throughout (Sound strict)) :
    (invariant strict count log).Settles state value :=
  Invariant.settles_of_value sound.whole.1 sound

theorem lawful : (invariant strict count log).Lawful where
  traced event clean := clean.traced event
  counted gain clean := ⟨clean.scopes, (gain.errors _).trans clean.errors, clean.silent⟩
  bumped clean := ⟨clean.scopes, clean.errors, clean.silent⟩
  fails fault clean := clean.failed fault
  failed_stepped failed := ⟨failed.scopes, failed.errors, failed.logged⟩
  failed_traced event failed := failed.traced event
  raised sound clean := by
    refine ⟨clean.scopes.of_scopes (State.failed_scopes ..), ?_, ?_⟩
    · rw [State.failed_counters]
      exact congrArg (· + 1) clean.errors
    -- a host's function logs an error of its own before the one it is turned into
    · intro strictly
      cases (sound.whole.2 strictly).1
  unknown allowed clean := by
    refine ⟨clean.scopes.of_scopes (by simp), ?_, ?_⟩
    · simp [clean.errors]
    -- no document describes an unknown node, so its report is never in the way
    · intro strictly
      cases allowed strictly
  null := sound_atom trivial rfl rfl (by simp [Value.tag])
  boolean _ := sound_atom trivial rfl rfl (by simp [Value.tag])
  string _ _ := sound_atom trivial rfl rfl (by simp [Value.tag])
  wrapped _ _ := sound_atom trivial rfl rfl (by simp [Value.tag])
  measured _ _ _ := sound_atom trivial rfl rfl (by simp [Value.tag])
  array _ holds := containers.array_iff.mpr fun value member => (holds value member).2
  hash _ _ holds := containers.hash_iff.mpr fun entry member =>
    ⟨(holds entry member).1.2, (holds entry member).2.2⟩
  element sound _ value member := settles (containers.array_iff.mp sound value member)
  tail fresh sound := containers.tail sound fresh
  pushed fresh sound _ item := containers.pushed sound item fresh
  entry sound _ entry member := settles (containers.hash_iff.mp sound entry member).2
  inner sound _ := settles (sound_returned.mp sound)
  operand allowed child member strictly :=
    Node.wellFormed_operand (allowed strictly) child member
  step allowed child member strictly := Node.wellFormed_step (allowed strictly) child member
  found _ clean bound := settles (clean.scopes.lookup? bound)
  builtin _ _ := sound_atom trivial rfl rfl (by simp [Value.tag])
  integer _ _ := sound_atom trivial rfl rfl (by simp [Value.tag])
  function serial allowed := by
    refine (Value.throughout_atom ?_).mpr ⟨rfl, fun strictly => ⟨rfl, ?_⟩⟩
    · trivial
    · intro serial parameters body scope same
      cases same
      exact Node.wellFormed_body (allowed strictly)
  returned _ _ _ holds := .inr (sound_returned.mpr holds)
  bound _ _ holds clean := ⟨clean.scopes.bound holds _ _, clean.errors, clean.silent⟩
  entered callee holds _ clean := by
    refine ⟨⟨clean.scopes.entered _ ?_, clean.errors, clean.silent⟩, ?_⟩
    · intro binding member
      exact (holds binding.2 (List.of_mem_zip member).2).2
    · intro strictly
      exact (callee.whole.2 strictly).2 _ _ _ _ rfl

/-- How an evaluation ends that starts without errors. -/
theorem finished {depth : Nat} {node : Node} {scope : ScopeId} {before after : State}
    {value : Value} (clean : Clean strict count log before)
    (formed : strict → node.wellFormed = true)
    (run : evalWithin depth node scope before = some (value, after)) :
    (∃ serial fault, value = .error serial fault ∧ Failed strict count log fault after) ∨
      value.Throughout (Sound strict) ∧ Clean strict count log after := by
  have allowed : (invariant strict count log).node false node scope := formed
  rcases lawful.finished allowed clean run with failure | ⟨-, clean, sound | ⟨impossible, -⟩⟩
  · exact .inl failure
  · exact .inr ⟨sound, clean⟩
  · cases impossible

end Eval.Errors

namespace Eval

/-- The record that a new error leaves in the log. -/
def ErrorRecord (fault : Fault) (record : LogRecord) : Prop :=
  record.severity = .error ∧ record.event.message = "  Error created: " ++ fault.message

/-- `push([1], len(true))` -/
def lengthAsArgument : Node :=
  .callExpression (.identifier "push")
    [.arrayLiteral [.integerLiteral 1],
      .callExpression (.identifier "len") [.booleanLiteral true]]

theorem lengthAsArgument_describable : Document.Describable lengthAsArgument := by
  refine ⟨.object [("node", .string "CallExpression"),
    ("function", .object [("node", .string "Identifier"), ("value", .string "push")]),
    ("arguments", .array [
      .object [("node", .string "ArrayLiteral"), ("elements", .array [
        .object [("node", .string "IntegerLiteral"), ("value", .integer 1)]])],
      .object [("node", .string "CallExpression"),
        ("function", .object [("node", .string "Identifier"), ("value", .string "len")]),
        ("arguments", .array [
          .object [("node", .string "Boolean"), ("value", .boolean true)]])]])], ?_⟩
  rfl

end Eval

end MonkeyLang
