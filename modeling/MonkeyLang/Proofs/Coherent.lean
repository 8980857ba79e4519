import MonkeyLang.Proofs.Chains
import MonkeyLang.Proofs.Parts
import MonkeyLang.Proofs.Twins

/-!
States that can arise. Whatever object is bound somewhere has a number that has been handed
out, a function was made in a scope that exists, and every scope lies inside of older ones. A
state that is coherent is alike to itself, and that is all coherence means: so evaluation keeps it.
-/

namespace MonkeyLang

/-- The numbers that a part of a value carries have been handed out. -/
structure Value.Known (serials scopes : Nat) (part : Value) : Prop where
  serial {serial} : part.identity = .made serial → serial < serials
  scope {serial parameters body scope} : part = .function serial parameters body scope →
    scope < scopes

def State.Knows (state : State) (value : Value) : Prop :=
  value.Throughout (Value.Known state.nextSerial state.scopes.next)

structure State.Coherent (state : State) : Prop where
  nested : state.scopes.IsNested
  bindings : ∀ scope, ∀ binding ∈ state.scopes.bindings scope, state.Knows binding.2

namespace Value

section Knowledge
variable {pairing : Pairing} {serials scopes : Nat}

mutual

theorem alike_self (paired : ∀ serial < serials, pairing.serials serial serial)
    (within : ∀ scope < scopes, pairing.scopes scope scope) :
    ∀ value : Value, value.Throughout (Known serials scopes) → value.Alike pairing value
  | .integer _ _, known => .integer (paired _ (known.whole.serial rfl))
  | .string _ _, known => .string (paired _ (known.whole.serial rfl))
  | .boolean value, _ => .boolean value
  | .null, _ => .null
  | .array _ elements, known => .array (paired _ (known.whole.serial rfl))
      (allAlike_self paired within elements (throughout_array.mp known).2)
  | .hash _ entries, known => .hash (paired _ (known.whole.serial rfl))
      (entriesAlike_self paired within entries (throughout_hash.mp known).2)
  | .function _ _ _ _, known => .function (paired _ (known.whole.serial rfl))
      (within _ (known.whole.scope rfl))
  | .builtin callee, _ => .builtin callee
  | .failing _ _ _, known => .failing (paired _ (known.whole.serial rfl))
  | .returned _ value, known => .returned (paired _ (known.whole.serial rfl))
      (alike_self paired within value (throughout_returned.mp known).2)
  | .error _ _, known => .error (paired _ (known.whole.serial rfl))

theorem allAlike_self (paired : ∀ serial < serials, pairing.serials serial serial)
    (within : ∀ scope < scopes, pairing.scopes scope scope) :
    ∀ values : List Value, (∀ value ∈ values, value.Throughout (Known serials scopes)) →
      AllAlike pairing values values
  | [], _ => .nil
  | value :: rest, known => .cons (alike_self paired within value (known value (by simp)))
      (allAlike_self paired within rest fun other member => known other (by simp [member]))

theorem entriesAlike_self (paired : ∀ serial < serials, pairing.serials serial serial)
    (within : ∀ scope < scopes, pairing.scopes scope scope) :
    ∀ entries : List (HashKey × Value × Value),
      (∀ entry ∈ entries, entry.2.1.Throughout (Known serials scopes) ∧
        entry.2.2.Throughout (Known serials scopes)) → EntriesAlike pairing entries entries
  | [], _ => .nil
  | (_, key, value) :: rest, known => .cons
      (alike_self paired within key (known _ List.mem_cons_self).1)
      (alike_self paired within value (known _ List.mem_cons_self).2)
      (entriesAlike_self paired within rest fun entry member =>
        known entry (List.mem_cons_of_mem _ member))

end

theorem Alike.known {value other : Value} (alike : value.Alike pairing other) :
    value.Known pairing.serials.left pairing.scopes.left where
  serial made := by
    have same := alike.identity
    rw [made] at same
    generalize other.identity = identity at same
    cases same with
    | made paired => exact (pairing.serials.lt paired).1
  scope built := by
    subst built
    cases alike with
    | function _ inside => exact (pairing.scopes.lt inside).1

/-- A value that is alike to another contains what is alike to something only. -/
theorem Alike.part {part value other : Value} (inside : part.Within value)
    (alike : value.Alike pairing other) : ∃ other', part.Alike pairing other' := by
  induction inside generalizing other with
  | self => exact ⟨other, alike⟩
  | element member _ ih =>
      cases alike with
      | array _ elements =>
          obtain ⟨other, -, related⟩ := exists_of_mem_left (allAlike_iff.mp elements) member
          exact ih related
  | key member _ ih =>
      cases alike with
      | hash _ entries =>
          obtain ⟨other, -, related⟩ := exists_of_mem_left (entriesAlike_iff.mp entries) member
          exact ih related.2.1
  | item member _ ih =>
      cases alike with
      | hash _ entries =>
          obtain ⟨other, -, related⟩ := exists_of_mem_left (entriesAlike_iff.mp entries) member
          exact ih related.2.2
  | wrapped _ ih =>
      cases alike with
      | returned _ inner => exact ih inner

theorem Alike.throughout_known {value other : Value} (alike : value.Alike pairing other) :
    value.Throughout (Known pairing.serials.left pairing.scopes.left) := by
  intro part inside
  obtain ⟨other', alike'⟩ := alike.part inside
  exact alike'.known

end Knowledge

end Value

/-- Every number that was handed out remains so. -/
structure State.Precedes (first second : State) : Prop where
  serials : first.nextSerial ≤ second.nextSerial
  scopes : first.scopes.next ≤ second.scopes.next

/-- What was there is there as it was: no scope has been changed. -/
structure State.Preserved (first second : State) : Prop extends first.Precedes second where
  bindings : ∀ scope < first.scopes.next,
    second.scopes.bindings scope = first.scopes.bindings scope
  outer : ∀ scope < first.scopes.next, second.scopes.outer? scope = first.scopes.outer? scope

def Link.same {first second : Nat} (le : first ≤ second) : Link where
  left := first
  right := second
  pairs here there := here = there ∧ here < first
  lt := by
    rintro here there ⟨rfl, below⟩
    exact ⟨below, Nat.lt_of_lt_of_le below le⟩
  iff := by
    rintro here there here' there' ⟨rfl, -⟩ ⟨rfl, -⟩
    exact Iff.rfl

/-- What was there stands for itself. -/
def Pairing.same {first second : State} (kept : first.Preserved second) : Pairing :=
  ⟨.same kept.serials, .same kept.scopes⟩

namespace State

variable {first second third : State} {value : Value}

theorem Precedes.refl (state : State) : state.Precedes state :=
  ⟨le_rfl, le_rfl⟩

theorem Precedes.trans (earlier : first.Precedes second) (later : second.Precedes third) :
    first.Precedes third :=
  ⟨le_trans earlier.serials later.serials, le_trans earlier.scopes later.scopes⟩

theorem Preserved.refl (state : State) : state.Preserved state :=
  ⟨.refl state, fun _ _ => rfl, fun _ _ => rfl⟩

theorem Preserved.trans (kept : first.Preserved second) (kept' : second.Preserved third) :
    first.Preserved third where
  toPrecedes := kept.toPrecedes.trans kept'.toPrecedes
  bindings scope old :=
    (kept'.bindings scope (Nat.lt_of_lt_of_le old kept.scopes)).trans (kept.bindings scope old)
  outer scope old :=
    (kept'.outer scope (Nat.lt_of_lt_of_le old kept.scopes)).trans (kept.outer scope old)

theorem Knows.alike (known : first.Knows value) (kept : first.Preserved second) :
    value.Alike (.same kept) value := by
  have serials : ∀ serial < first.nextSerial, (Pairing.same kept).serials serial serial :=
    fun _ below => ⟨rfl, below⟩
  have scopes : ∀ scope < first.scopes.next, (Pairing.same kept).scopes scope scope :=
    fun _ below => ⟨rfl, below⟩
  exact value.alike_self serials scopes known

theorem Knows.mono (known : first.Knows value) (earlier : first.Precedes second) :
    second.Knows value := by
  intro part inside
  constructor
  · intro serial made
    exact Nat.lt_of_lt_of_le ((known part inside).serial made) earlier.serials
  · intro serial parameters body scope built
    exact Nat.lt_of_lt_of_le ((known part inside).scope built) earlier.scopes

theorem Coherent.of_same (coherent : first.Coherent) (scopes : second.scopes = first.scopes)
    (serial : second.nextSerial = first.nextSerial) : second.Coherent where
  nested := scopes ▸ coherent.nested
  bindings scope binding member := by
    rw [scopes] at member
    exact (coherent.bindings scope binding member).mono ⟨serial.ge, (congrArg _ scopes).ge⟩

theorem precedes_entered (state : State) (outer : ScopeId) (bindings : List (String × Value)) :
    state.Precedes (state.entered outer bindings) :=
  ⟨le_rfl, by simp [entered]⟩

theorem Coherent.entered (coherent : first.Coherent) {outer : ScopeId}
    (present : outer < first.scopes.next) {bindings : List (String × Value)}
    (known : ∀ binding ∈ bindings, first.Knows binding.2) :
    (first.entered outer bindings).Coherent where
  nested := coherent.nested.entered present bindings
  bindings scope binding member := by
    have earlier := first.precedes_entered outer bindings
    rcases Scopes.mem_bindings_bindAll _ member with made | old
    · exact (known binding made).mono earlier
    · rw [Scopes.bindings_create] at old
      exact (coherent.bindings scope binding old).mono earlier

theorem initial_coherent : initial.Coherent where
  nested := Scopes.isNested_empty.create fun _ => nofun
  bindings scope binding member := initial_throughout scope binding member

end State

namespace Eval.Twins.Held

variable {pace pace' : Counters} {pairing : Pairing} {first second : State}

/-- A coherent state is alike to every later one in which it is preserved. -/
theorem of_coherent (coherent : first.Coherent) (kept : first.Preserved second) :
    Held first.counters second.counters (.same kept) first second where
  serials := ⟨rfl, rfl⟩
  scopes := ⟨rfl, rfl⟩
  counters := .start _ _
  bindings := by
    rintro here there ⟨rfl, below⟩
    rw [kept.bindings here below]
    apply List.forall₂_same.mpr
    intro binding member
    exact ⟨rfl, (coherent.bindings here binding member).alike kept⟩
  outer := by
    rintro here there ⟨rfl, below⟩
    rw [kept.outer here below]
    cases link : first.scopes.outer? here with
    | none => exact .none
    | some around =>
        have older := coherent.nested here around link
        exact .some ⟨⟨rfl, Nat.lt_trans older below⟩, older, older⟩

theorem knows (held : Held pace pace' pairing first second) {value other : Value}
    (alike : value.Alike pairing other) : first.Knows value := by
  rw [State.Knows, ← held.serials.1, ← held.scopes.1]
  exact alike.throughout_known

/-- Where every scope is paired, all there is has a counterpart. -/
theorem coherent (held : Held pace pace' pairing first second)
    (all : ∀ scope < first.scopes.next, ∃ other, pairing.scopes scope other) :
    first.Coherent where
  nested scope outer link := by
    by_cases present : scope < first.scopes.next
    · obtain ⟨other, paired⟩ := all scope present
      have around := held.outer paired
      rw [link] at around
      generalize second.scopes.outer? other = link' at around
      cases around with
      | some inside => exact inside.2.1
    · have outside : first.scopes.table[scope]? = none :=
        Array.getElem?_eq_none (Nat.le_of_not_lt present)
      simp [Scopes.outer?, outside] at link
  bindings scope binding member := by
    by_cases present : scope < first.scopes.next
    · obtain ⟨other, paired⟩ := all scope present
      obtain ⟨_, -, -, alike⟩ := exists_of_mem_left (held.bindings paired) member
      exact held.knows alike
    · rw [first.scopes.bindings_of_next_le (Nat.le_of_not_lt present)] at member
      cases member

end Eval.Twins.Held

namespace Eval

open Twins

variable {depth : Nat} {before after : State} {value : Value}

/-- A run with a twin of the same beginnings: what was there is paired with itself, and what is
new was paired when it was made. -/
theorem coherent_of_twin {pairing : Pairing} {pace pace' : Counters} {final : State}
    (le : Pairing.same (.refl before) ≤ pairing) (held : Held pace pace' pairing after final) :
    after.Coherent := by
  apply held.coherent
  intro scope present
  by_cases old : scope < before.scopes.next
  · exact ⟨scope, le.2.pairs ⟨rfl, old⟩⟩
  · exact le.2.new (Nat.le_of_not_lt old) (held.scopes.1 ▸ present)

theorem precedes_of_twin {pairing : Pairing} {pace pace' : Counters} {final : State}
    (le : Pairing.same (.refl before) ≤ pairing) (held : Held pace pace' pairing after final) :
    before.Precedes after :=
  ⟨held.serials.1 ▸ le.1.left, held.scopes.1 ▸ le.2.left⟩

/-- Evaluation goes from coherent states to coherent states, and knows what it hands out. -/
theorem evalWithin_coherent {node : Node} {home : ScopeId} (coherent : before.Coherent)
    (present : home < before.scopes.next)
    (run : evalWithin depth node home before = some (value, after)) :
    after.Coherent ∧ after.Knows value ∧ before.Precedes after := by
  obtain ⟨other, final, later, -, le, alike, held⟩ :=
    (Held.of_coherent coherent (.refl before)).evalWithin ⟨rfl, present⟩ run
  exact ⟨coherent_of_twin le held, held.knows alike, precedes_of_twin le held⟩

theorem alikes_of_known {second : State} {arguments : List Value}
    (known : ∀ argument ∈ arguments, before.Knows argument) (kept : before.Preserved second) :
    List.Forall₂ (Value.Alike (.same kept)) arguments arguments :=
  List.forall₂_same.mpr fun argument member => (known argument member).alike kept

theorem call_coherent {callee : Value} {arguments : List Value} (coherent : before.Coherent)
    (callee_known : before.Knows callee)
    (known : ∀ argument ∈ arguments, before.Knows argument)
    (run : call depth callee arguments before = some (value, after)) :
    after.Coherent ∧ after.Knows value ∧ before.Precedes after := by
  obtain ⟨other, final, later, -, le, alike, held⟩ :=
    (Held.of_coherent coherent (.refl before)).call (callee_known.alike _)
      (alikes_of_known known _) run
  exact ⟨coherent_of_twin le held, held.knows alike, precedes_of_twin le held⟩

end Eval

end MonkeyLang
