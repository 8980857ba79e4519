import MonkeyLang.Proofs.Parts
import MonkeyLang.Proofs.Standard

/-!
What all values of a run have in common. A property is hereditary if each object that is made
has it, given that the values it is made from have it and that the tree is `fine`. Then it is
true of every part of every value that a run comes by, in one run or in two runs whose states
are related in any way that the elementary steps carry along.
-/

namespace MonkeyLang

namespace Eval

/-- What is made is good where it is made from what is good, in a tree that is fine. Wherever a
function is called, its body is fine in turn. -/
structure Hereditary (good : Value → Prop) (fine : Node → Prop) : Prop where
  containers : Value.HoldsOfContainers good
  returned (serial : Nat) (value : Value) : good (.returned serial value)
  null : good .null
  boolean (truth : Bool) : good (.boolean truth)
  string (serial : Nat) (text : String) : good (.string serial text)
  wrapped (serial : Nat) (number : Int) : good (.integer serial (Word.wrap number))
  measured (serial size : Nat) : good (.builtin .len) → good (.integer serial size)
  integer {number} (serial : Nat) : fine (.integerLiteral number) → good (.integer serial number)
  builtin (builtin : Builtin) : fine (.identifier builtin.name) → good (.builtin builtin)
  function {parameters body} (serial : Nat) (scope : ScopeId) :
    fine (.functionLiteral parameters body) → good (.function serial parameters body scope)
  body {serial parameters body scope} : good (.function serial parameters body scope) → fine body
  operand {node} : fine node → ∀ child ∈ node.operands, fine child
  step {node} : fine node → ∀ child ∈ node.steps, fine child

/-- A relation of the states of two runs that the elementary steps carry along. -/
structure Carries (good : Value → Prop) (fine : Node → Prop) (related : State → State → Prop) :
    Prop where
  serial {first second} : related first second → first.nextSerial = second.nextSerial
  next {first second} : related first second → first.scopes.next = second.scopes.next
  noted {first second} (severity : Severity) (level : Level) (event : Event) :
    related first second →
      related (first.noted severity level event) (second.noted severity level event)
  alarmed {first second} (event : Event) : related first second →
    related (first.alarmed event) (second.alarmed event)
  counted {first second} (change : Counters → Counters) : related first second →
    related (first.counted change) (second.counted change)
  bumped {first second} : related first second → related first.bumped second.bumped
  found {first second name} (scope : ScopeId) : fine (.identifier name) → related first second →
    first.scopes.lookup? scope name = second.scopes.lookup? scope name ∧
      ∀ value, first.scopes.lookup? scope name = some value → value.Throughout good
  bound {first second name node value} (scope : ScopeId) : fine (.letStatement name node) →
    value.Throughout good → related first second →
      related (first.bound scope name value) (second.bound scope name value)
  entered {first second serial parameters body closure arguments} :
    good (.function serial parameters body closure) →
      (∀ value ∈ arguments, value.Throughout good) → related first second →
        related (first.entered closure (parameters.zip arguments))
          (second.entered closure (parameters.zip arguments))

namespace Hereditary

variable {good : Value → Prop} {fine : Node → Prop} {related : State → State → Prop}

def standard (good : Value → Prop) (fine : Node → Prop) (related : State → State → Prop) :
    Standard Fixed where
  state _ := related
  value _ value := value.Throughout good
  failed _ _ := related
  node _ _ node _ := fine node

theorem settles {first second : State} {value : Value} (held : related first second)
    (holds : value.Throughout good) :
    (standard good fine related).Settles .world first second value := by
  cases value with
  | error serial fault => exact held
  | _ => exact holds

variable (hereditary : Hereditary good fine)

include hereditary

theorem throughout_returned {serial : Nat} {value : Value} :
    (Value.returned serial value).Throughout good ↔ value.Throughout good := by
  rw [Value.throughout_returned]
  exact and_iff_right (hereditary.returned serial value)

theorem lawful (carries : Carries good fine related) :
    (standard good fine related).Lawful where
  grows _ holds := holds
  node_grows _ allowed := allowed
  serial held := carries.serial held
  next held := carries.next held
  traced event held := carries.noted _ _ event held
  counted _ held := carries.counted _ held
  bumped held := carries.bumped held
  fails fault held := carries.bumped (carries.noted _ _ _ (carries.counted _ held))
  failed_stepped held := carries.counted _ held
  failed_traced event held := carries.noted _ _ event held
  raised _ held :=
    carries.bumped (carries.noted _ _ _ (carries.counted _ (carries.alarmed _ held)))
  unknown _ held :=
    carries.bumped (carries.noted _ _ _ (carries.counted _ (carries.noted _ _ _ held)))
  null := .of_atom hereditary.null trivial
  boolean truth := .of_atom (hereditary.boolean truth) trivial
  string serial text := .of_atom (hereditary.string serial text) trivial
  wrapped serial number := .of_atom (hereditary.wrapped serial number) trivial
  measured serial size known := .of_atom (hereditary.measured serial size known.whole) trivial
  array _ holds := hereditary.containers.array_iff.mpr fun value member => (holds value member).2
  hash _ _ holds := hereditary.containers.hash_iff.mpr fun entry member =>
    ⟨(holds entry member).1.2, (holds entry member).2.2⟩
  element holds held value member :=
    settles held (hereditary.containers.array_iff.mp holds value member)
  tail fresh holds := hereditary.containers.tail holds fresh
  pushed fresh holds _ item := hereditary.containers.pushed holds item fresh
  entry holds held entry member :=
    settles held (hereditary.containers.hash_iff.mp holds entry member).2
  inner holds held := settles held (hereditary.throughout_returned.mp holds)
  operand allowed := hereditary.operand allowed
  step allowed := hereditary.step allowed
  found allowed held := by
    obtain ⟨same, holds⟩ := carries.found _ allowed held
    exact ⟨same, fun value bound => settles held (holds value bound)⟩
  builtin builtin allowed := .of_atom (hereditary.builtin builtin allowed) trivial
  integer serial allowed := .of_atom (hereditary.integer serial allowed) trivial
  function serial allowed := .of_atom (hereditary.function serial _ allowed) trivial
  returned _ _ _ holds := .inr (hereditary.throughout_returned.mpr holds)
  bound allowed _ holds held := carries.bound _ allowed holds held
  entered known holds _ held :=
    ⟨.world, le_rfl, carries.entered known.whole (fun value member => (holds value member).2) held,
      hereditary.body known.whole⟩

/-- How two runs end whose states were related at the start. -/
theorem finished (carries : Carries good fine related) {depth : Nat} {node : Node}
    {scope : ScopeId} {first second after : State} {value : Value} (allowed : fine node)
    (held : related first second) (run : evalWithin depth node scope first = some (value, after)) :
    ∃ final, evalWithin depth node scope second = some (value, final) ∧ related after final ∧
      (value.isError = true ∨ value.Throughout good) := by
  have law := hereditary.lawful carries
  have begins : (standard good fine related).node .world true node scope := allowed
  obtain ⟨final, _, run', -, ends⟩ := law.finished 0 begins held run
  refine ⟨final, run', ?_⟩
  rcases ends with ⟨serial, fault, rfl, held⟩ | ⟨⟨-, -, holds⟩, held⟩
  · exact ⟨held, .inl rfl⟩
  · rcases holds with holds | ⟨-, serial, inner, rfl, -, holds⟩
    · exact ⟨held, .inr holds⟩
    · exact ⟨held, .inr (hereditary.throughout_returned.mpr holds)⟩

omit hereditary in
/-- One run, in whose scopes all values have the property. -/
theorem carries_itself :
    Carries good fine fun first second => first = second ∧ first.Throughout good where
  serial held := by rw [held.1]
  next held := by rw [held.1]
  noted _ _ _ held := ⟨by rw [held.1], held.2.of_scopes (State.noted_scopes ..)⟩
  alarmed event held := ⟨by rw [held.1], held.2.alarmed event⟩
  counted change held := ⟨by rw [held.1], held.2.counted change⟩
  bumped held := ⟨by rw [held.1], held.2⟩
  found scope _ held := by
    obtain ⟨rfl, holds⟩ := held
    exact ⟨rfl, fun value bound => holds.lookup? bound⟩
  bound scope _ fresh held := ⟨by rw [held.1], held.2.bound fresh scope _⟩
  entered _ fresh held := by
    obtain ⟨rfl, holds⟩ := held
    refine ⟨rfl, holds.entered _ ?_⟩
    intro binding member
    exact fresh binding.2 (List.of_mem_zip member).2

theorem finished_run {depth : Nat} {node : Node} {scope : ScopeId} {before after : State}
    {value : Value} (allowed : fine node) (holds : before.Throughout good)
    (run : evalWithin depth node scope before = some (value, after)) :
    (value.isError = true ∨ value.Throughout good) ∧ after.Throughout good := by
  obtain ⟨_, -, ⟨-, holds⟩, ends⟩ :=
    hereditary.finished carries_itself allowed ⟨rfl, holds⟩ run
  exact ⟨ends, holds⟩

end Hereditary

end Eval

end MonkeyLang
