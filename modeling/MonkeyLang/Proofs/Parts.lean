import MonkeyLang.Proofs.Scoping

/-!
Values inside of values. An array contains its elements, a hash its keys and values, and
a returned value what it wraps; a function contains nothing, since the scope it was made
in belongs to the state. `Throughout good` holds of a value all whose parts are good, and
of a state in which every bound value is good throughout.
-/

namespace MonkeyLang

inductive Value.Within (part : Value) : Value → Prop where
  | self : Within part part
  | element {serial elements value} : value ∈ elements → Within part value →
      Within part (.array serial elements)
  | key {serial entries entry} : entry ∈ entries → Within part entry.2.1 →
      Within part (.hash serial entries)
  | item {serial entries entry} : entry ∈ entries → Within part entry.2.2 →
      Within part (.hash serial entries)
  | wrapped {serial value} : Within part value → Within part (.returned serial value)

def Value.Throughout (good : Value → Prop) (value : Value) : Prop :=
  ∀ part, part.Within value → good part

def State.Throughout (good : Value → Prop) (state : State) : Prop :=
  ∀ scope, ∀ binding ∈ state.scopes.bindings scope, binding.2.Throughout good

namespace Value

variable {good : Value → Prop}

theorem Within.trans {part middle whole : Value} (inside : part.Within middle)
    (further : middle.Within whole) : part.Within whole := by
  induction further with
  | self => exact inside
  | element member _ ih => exact .element member ih
  | key member _ ih => exact .key member ih
  | item member _ ih => exact .item member ih
  | wrapped _ ih => exact .wrapped ih

theorem Throughout.whole {value : Value} (clean : value.Throughout good) : good value :=
  clean value .self

theorem throughout_array {serial : Nat} {elements : List Value} :
    (array serial elements).Throughout good ↔
      good (array serial elements) ∧ ∀ value ∈ elements, value.Throughout good := by
  constructor
  · intro clean
    exact ⟨clean.whole, fun value member part inside => clean part (.element member inside)⟩
  · rintro ⟨whole, elements⟩ part inside
    cases inside with
    | self => exact whole
    | element member inside => exact elements _ member part inside

theorem throughout_hash {serial : Nat} {entries : List (HashKey × Value × Value)} :
    (hash serial entries).Throughout good ↔ good (hash serial entries) ∧
      ∀ entry ∈ entries, entry.2.1.Throughout good ∧ entry.2.2.Throughout good := by
  constructor
  · intro clean
    refine ⟨clean.whole, fun entry member => ⟨?_, ?_⟩⟩
    · exact fun part inside => clean part (.key member inside)
    · exact fun part inside => clean part (.item member inside)
  · rintro ⟨whole, entries⟩ part inside
    cases inside with
    | self => exact whole
    | key member inside => exact (entries _ member).1 part inside
    | item member inside => exact (entries _ member).2 part inside

theorem throughout_returned {serial : Nat} {value : Value} :
    (returned serial value).Throughout good ↔
      good (returned serial value) ∧ value.Throughout good := by
  constructor
  · intro clean
    exact ⟨clean.whole, fun part inside => clean part (.wrapped inside)⟩
  · rintro ⟨whole, inner⟩ part inside
    cases inside with
    | self => exact whole
    | wrapped inside => exact inner part inside

/-- A value without parts. -/
def IsAtom : Value → Prop
  | array _ _ => False
  | hash _ _ => False
  | returned _ _ => False
  | _ => True

theorem throughout_atom {value : Value} (atom : value.IsAtom) :
    value.Throughout good ↔ good value := by
  constructor
  · exact Throughout.whole
  · intro whole part inside
    cases inside with
    | self => exact whole
    | _ => cases atom

/-- A value without parts is all there is to look at. -/
theorem Throughout.of_atom {value : Value} (whole : good value) (atom : value.IsAtom) :
    value.Throughout good :=
  (throughout_atom atom).mpr whole

/-- What holds of every array and of every hash, whatever they contain. -/
structure HoldsOfContainers (good : Value → Prop) : Prop where
  array (serial : Nat) (elements : List Value) : good (array serial elements)
  hash (serial : Nat) (entries : List (HashKey × Value × Value)) : good (hash serial entries)

namespace HoldsOfContainers

variable (containers : HoldsOfContainers good) {serial : Nat} {elements : List Value}
include containers

theorem array_iff : (Value.array serial elements).Throughout good ↔
    ∀ value ∈ elements, value.Throughout good := by
  rw [throughout_array]
  exact and_iff_right (containers.array _ _)

theorem hash_iff {entries : List (HashKey × Value × Value)} :
    (Value.hash serial entries).Throughout good ↔
      ∀ entry ∈ entries, entry.2.1.Throughout good ∧ entry.2.2.Throughout good := by
  rw [throughout_hash]
  exact and_iff_right (containers.hash _ _)

theorem tail {head : Value} (clean : (Value.array serial (head :: elements)).Throughout good)
    (fresh : Nat) : (Value.array fresh elements).Throughout good := by
  apply containers.array_iff.mpr
  intro value member
  exact containers.array_iff.mp clean value (List.mem_cons_of_mem _ member)

theorem pushed {item : Value} (clean : (Value.array serial elements).Throughout good)
    (added : item.Throughout good) (fresh : Nat) :
    (Value.array fresh (elements ++ [item])).Throughout good := by
  apply containers.array_iff.mpr
  intro value member
  rcases List.mem_append.mp member with old | new
  · exact containers.array_iff.mp clean value old
  · exact List.mem_singleton.mp new ▸ added

end HoldsOfContainers

end Value

namespace State

variable {good : Value → Prop} {state other : State}

theorem Throughout.of_scopes (clean : state.Throughout good)
    (same : other.scopes = state.scopes) : other.Throughout good := by
  intro scope binding member
  rw [same] at member
  exact clean scope binding member

theorem Throughout.traced (clean : state.Throughout good) (event : Event) :
    (state.traced event).Throughout good :=
  clean.of_scopes (noted_scopes ..)

theorem Throughout.counted (clean : state.Throughout good) (change : Counters → Counters) :
    (state.counted change).Throughout good :=
  clean

theorem Throughout.alarmed (clean : state.Throughout good) (event : Event) :
    (state.alarmed event).Throughout good :=
  clean

theorem initial_throughout : initial.Throughout good := by
  intro scope binding member
  have unbound : initial.scopes.bindings scope = [] :=
    Scopes.bindings_create Scopes.empty none scope
  rw [unbound] at member
  cases member

theorem Throughout.lookup? (clean : state.Throughout good) {scope : ScopeId} {name : String}
    {value : Value} (found : state.scopes.lookup? scope name = some value) :
    value.Throughout good := by
  obtain ⟨member, bound⟩ := Scopes.mem_of_lookup? _ found
  exact clean member _ bound

theorem Throughout.bound (clean : state.Throughout good) {value : Value}
    (fresh : value.Throughout good) (scope : ScopeId) (name : String) :
    (state.bound scope name value).Throughout good := by
  intro other binding member
  rcases Scopes.mem_bindings_bind _ member with rfl | old
  · exact fresh
  · exact clean other binding old

theorem Throughout.entered (clean : state.Throughout good) (outer : ScopeId)
    {bindings : List (String × Value)} (fresh : ∀ binding ∈ bindings, binding.2.Throughout good) :
    (state.entered outer bindings).Throughout good := by
  intro scope binding member
  rcases Scopes.mem_bindings_bindAll _ member with made | old
  · exact fresh binding made
  · rw [Scopes.bindings_create] at old
    exact clean scope binding old

end State

end MonkeyLang
