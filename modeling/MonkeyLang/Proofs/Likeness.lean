import MonkeyLang.Proofs.Matched
import MonkeyLang.Proofs.Scoping
import Mathlib.Order.Defs.PartialOrder

/-!
Values and states that are alike: the same but for the numbers of objects and scopes. A pairing
says which object and which scope of one state stands for which of the other. It grows while
both sides make objects and open scopes, and never connects an object or a scope with two.
Nothing that a program can observe tells values apart that are alike.
-/

namespace MonkeyLang

/-- A relation between numbers that have been handed out on either side, which connects no number
with two. -/
structure Link where
  left : Nat
  right : Nat
  pairs : Nat → Nat → Prop
  lt {here there} : pairs here there → here < left ∧ there < right
  iff {here there here' there'} :
    pairs here there → pairs here' there' → (here = here' ↔ there = there')

namespace Link

instance : CoeFun Link fun _ => Nat → Nat → Prop :=
  ⟨Link.pairs⟩

/-- Pairs are added only. Whatever has been handed out on the left since then is in one of the
new pairs, and nothing older is. -/
structure Extends (before after : Link) : Prop where
  left : before.left ≤ after.left
  pairs {here there} : before here there → after here there
  old {here there} : after here there → here < before.left → before here there
  new {here} : before.left ≤ here → here < after.left → ∃ there, after here there

instance : Preorder Link where
  le := Extends
  le_refl link :=
    { left := Nat.le_refl _
      pairs := id
      old := fun paired _ => paired
      new := fun above below => absurd below (Nat.not_lt_of_le above) }
  le_trans before middle after first second :=
    { left := Nat.le_trans first.left second.left
      pairs := fun paired => second.pairs (first.pairs paired)
      old := fun paired older =>
        first.old (second.old paired (Nat.lt_of_lt_of_le older first.left)) older
      new := by
        intro here above below
        by_cases inside : here < middle.left
        · obtain ⟨there, paired⟩ := first.new above inside
          exact ⟨there, second.pairs paired⟩
        · exact second.new (Nat.le_of_not_lt inside) below }

/-- Both sides hand out a number. -/
def extend (link : Link) : Link where
  left := link.left + 1
  right := link.right + 1
  pairs here there := link here there ∨ here = link.left ∧ there = link.right
  lt := by
    rintro here there (paired | ⟨rfl, rfl⟩)
    · obtain ⟨below, below'⟩ := link.lt paired
      exact ⟨Nat.lt_succ_of_lt below, Nat.lt_succ_of_lt below'⟩
    · exact ⟨Nat.lt_succ_self _, Nat.lt_succ_self _⟩
  iff := by
    rintro here there here' there' (paired | ⟨rfl, rfl⟩) (paired' | ⟨rfl, rfl⟩)
    · exact link.iff paired paired'
    · obtain ⟨below, below'⟩ := link.lt paired
      omega
    · obtain ⟨below, below'⟩ := link.lt paired'
      omega
    · exact iff_of_true rfl rfl

theorem le_extend (link : Link) : link ≤ link.extend where
  left := Nat.le_succ _
  pairs := .inl
  old := by
    rintro here there (paired | ⟨rfl, rfl⟩) older
    · exact paired
    · exact absurd older (Nat.lt_irrefl _)
  new above below := ⟨link.right, .inr ⟨Nat.le_antisymm (Nat.le_of_lt_succ below) above, rfl⟩⟩

theorem extend_new (link : Link) : link.extend link.left link.right :=
  .inr ⟨rfl, rfl⟩

end Link

/-- Which objects of two states stand for each other, and which scopes do. -/
structure Pairing where
  serials : Link
  scopes : Link

namespace Pairing

instance : Preorder Pairing where
  le before after := before.serials ≤ after.serials ∧ before.scopes ≤ after.scopes
  le_refl _ := ⟨le_rfl, le_rfl⟩
  le_trans _ _ _ first second := ⟨le_trans first.1 second.1, le_trans first.2 second.2⟩

/-- Both sides make an object. -/
def made (pairing : Pairing) : Pairing :=
  { pairing with serials := pairing.serials.extend }

/-- Both sides open a scope. -/
def opened (pairing : Pairing) : Pairing :=
  { pairing with scopes := pairing.scopes.extend }

theorem le_made (pairing : Pairing) : pairing ≤ pairing.made :=
  ⟨pairing.serials.le_extend, le_rfl⟩

theorem le_opened (pairing : Pairing) : pairing ≤ pairing.opened :=
  ⟨le_rfl, pairing.scopes.le_extend⟩

/-- Every pair of the one is a pair of the other, whatever else has been handed out. -/
structure Within (pairing later : Pairing) : Prop where
  serials {here there} : pairing.serials here there → later.serials here there
  scopes {here there} : pairing.scopes here there → later.scopes here there

theorem Within.of_le {pairing later : Pairing} (le : pairing ≤ later) : pairing.Within later :=
  ⟨le.1.pairs, le.2.pairs⟩

end Pairing

inductive Identity.Alike (pairing : Pairing) : Identity → Identity → Prop where
  | made {serial serial'} : pairing.serials serial serial' →
      Alike pairing (.made serial) (.made serial')
  | boolean (value : Bool) : Alike pairing (.boolean value) (.boolean value)
  | null : Alike pairing .null .null
  | builtin (callee : Builtin) : Alike pairing (.builtin callee) (.builtin callee)

theorem Identity.Alike.eq_iff {pairing : Pairing} {first other second other' : Identity}
    (alike : first.Alike pairing other) (alike' : second.Alike pairing other') :
    first = second ↔ other = other' := by
  cases alike with
  | made paired =>
      cases alike' with
      | made paired' => simpa using pairing.serials.iff paired paired'
      | _ => simp
  | _ => cases alike' <;> simp

mutual

/-- The same but for the numbers of objects and scopes, which are paired. -/
inductive Value.Alike (pairing : Pairing) : Value → Value → Prop where
  | integer {serial serial' value} : pairing.serials serial serial' →
      Alike pairing (.integer serial value) (.integer serial' value)
  | string {serial serial' text} : pairing.serials serial serial' →
      Alike pairing (.string serial text) (.string serial' text)
  | boolean (value : Bool) : Alike pairing (.boolean value) (.boolean value)
  | null : Alike pairing .null .null
  | array {serial serial' elements others} : pairing.serials serial serial' →
      Value.AllAlike pairing elements others →
      Alike pairing (.array serial elements) (.array serial' others)
  | hash {serial serial' entries others} : pairing.serials serial serial' →
      Value.EntriesAlike pairing entries others →
      Alike pairing (.hash serial entries) (.hash serial' others)
  | function {serial serial' parameters body scope scope'} : pairing.serials serial serial' →
      pairing.scopes scope scope' → Alike pairing (.function serial parameters body scope)
        (.function serial' parameters body scope')
  | builtin (callee : Builtin) : Alike pairing (.builtin callee) (.builtin callee)
  | failing {serial serial' name detail} : pairing.serials serial serial' →
      Alike pairing (.failing serial name detail) (.failing serial' name detail)
  | returned {serial serial' value other} : pairing.serials serial serial' →
      Alike pairing value other → Alike pairing (.returned serial value) (.returned serial' other)
  | error {serial serial' fault} : pairing.serials serial serial' →
      Alike pairing (.error serial fault) (.error serial' fault)

inductive Value.AllAlike (pairing : Pairing) : List Value → List Value → Prop where
  | nil : AllAlike pairing [] []
  | cons {value other values others} : Value.Alike pairing value other →
      AllAlike pairing values others → AllAlike pairing (value :: values) (other :: others)

inductive Value.EntriesAlike (pairing : Pairing) :
    List (HashKey × Value × Value) → List (HashKey × Value × Value) → Prop where
  | nil : EntriesAlike pairing [] []
  | cons {slot key key' value value' entries others} : Value.Alike pairing key key' →
      Value.Alike pairing value value' → EntriesAlike pairing entries others →
      EntriesAlike pairing ((slot, key, value) :: entries) ((slot, key', value') :: others)

end

namespace Value

variable {pairing later : Pairing} {value other : Value}

theorem allAlike_iff {values others : List Value} :
    AllAlike pairing values others ↔ List.Forall₂ (Alike pairing) values others := by
  constructor
  · intro alike
    induction values generalizing others with
    | nil =>
        cases alike
        exact .nil
    | cons value rest ih =>
        cases alike with
        | cons head tail => exact .cons head (ih tail)
  · intro alike
    induction alike with
    | nil => exact .nil
    | cons head _ ih => exact .cons head ih

theorem entriesAlike_iff {entries others : List (HashKey × Value × Value)} :
    EntriesAlike pairing entries others ↔
      Assoc.Matched (fun (pair pair' : Value × Value) =>
        Alike pairing pair.1 pair'.1 ∧ Alike pairing pair.2 pair'.2) entries others := by
  constructor
  · intro alike
    induction entries generalizing others with
    | nil =>
        cases alike
        exact .nil
    | cons entry rest ih =>
        cases alike with
        | cons key value tail => exact .cons ⟨rfl, key, value⟩ (ih tail)
  · intro alike
    induction alike with
    | nil => exact .nil
    | @cons entry other _ _ head _ ih =>
        rcases entry with ⟨slot, key, value⟩
        rcases other with ⟨slot', key', value'⟩
        have same : slot = slot' := head.1
        subst same
        exact .cons head.2.1 head.2.2 ih

mutual

theorem Alike.imp (within : pairing.Within later) {value other : Value} :
    value.Alike pairing other → value.Alike later other
  | .integer paired => .integer (within.serials paired)
  | .string paired => .string (within.serials paired)
  | .boolean value => .boolean value
  | .null => .null
  | .array paired alike => .array (within.serials paired) (alike.imp within)
  | .hash paired alike => .hash (within.serials paired) (alike.imp within)
  | .function paired inside => .function (within.serials paired) (within.scopes inside)
  | .builtin callee => .builtin callee
  | .failing paired => .failing (within.serials paired)
  | .returned paired alike => .returned (within.serials paired) (alike.imp within)
  | .error paired => .error (within.serials paired)

theorem AllAlike.imp (within : pairing.Within later) {values others : List Value} :
    AllAlike pairing values others → AllAlike later values others
  | .nil => .nil
  | .cons head tail => .cons (head.imp within) (tail.imp within)

theorem EntriesAlike.imp (within : pairing.Within later)
    {entries others : List (HashKey × Value × Value)} :
    EntriesAlike pairing entries others → EntriesAlike later entries others
  | .nil => .nil
  | .cons key value tail => .cons (key.imp within) (value.imp within) (tail.imp within)

end

theorem Alike.mono (alike : value.Alike pairing other) (le : pairing ≤ later) :
    value.Alike later other :=
  alike.imp (.of_le le)

theorem AllAlike.mono {values others : List Value} (alike : AllAlike pairing values others)
    (le : pairing ≤ later) : AllAlike later values others :=
  alike.imp (.of_le le)

theorem EntriesAlike.mono {entries others : List (HashKey × Value × Value)}
    (alike : EntriesAlike pairing entries others) (le : pairing ≤ later) :
    EntriesAlike later entries others :=
  alike.imp (.of_le le)

mutual

theorem Alike.inspect {value other : Value} : value.Alike pairing other →
    value.inspect = other.inspect
  | .integer _ => rfl
  | .string _ => rfl
  | .boolean _ => rfl
  | .null => rfl
  | .array _ alike => by rw [inspect_array, inspect_array, alike.inspectAll]
  | .hash _ alike => by rw [inspect_hash, inspect_hash, alike.inspectEntries]
  | .function _ _ => rfl
  | .builtin _ => rfl
  | .failing _ => rfl
  | .returned _ alike => by rw [inspect_returned, inspect_returned, alike.inspect]
  | .error _ => rfl

theorem AllAlike.inspectAll {values others : List Value} : AllAlike pairing values others →
    Value.inspectAll values = Value.inspectAll others
  | .nil => rfl
  | .cons head tail => by
      rw [Value.inspectAll, Value.inspectAll, head.inspect, tail.inspectAll]

theorem EntriesAlike.inspectEntries {entries others : List (HashKey × Value × Value)} :
    EntriesAlike pairing entries others →
      Value.inspectEntries entries = Value.inspectEntries others
  | .nil => rfl
  | .cons key value tail => by
      rw [Value.inspectEntries, Value.inspectEntries, key.inspect, value.inspect,
        tail.inspectEntries]

end

namespace Alike

variable (alike : value.Alike pairing other)
include alike

theorem tag : value.tag = other.tag := by
  cases alike <;> rfl

theorem isError : value.isError = other.isError := by
  cases alike <;> rfl

theorem isTruthy : value.isTruthy = other.isTruthy := by
  cases alike <;> rfl

theorem hashKey? : value.hashKey? = other.hashKey? := by
  cases alike <;> rfl

theorem unwrapped : value.unwrapped.Alike pairing other.unwrapped := by
  cases alike with
  | returned _ inner => exact inner
  | integer paired => exact .integer paired
  | string paired => exact .string paired
  | boolean value => exact .boolean value
  | null => exact .null
  | array paired elements => exact .array paired elements
  | hash paired entries => exact .hash paired entries
  | function paired inside => exact .function paired inside
  | builtin callee => exact .builtin callee
  | failing paired => exact .failing paired
  | error paired => exact .error paired

theorem identity : value.identity.Alike pairing other.identity := by
  cases alike with
  | boolean value => exact .boolean value
  | null => exact .null
  | builtin callee => exact .builtin callee
  | _ => exact .made ‹_›

/-- Being one object or two is the same on both sides. -/
theorem same {value' other' : Value} (alike' : value'.Alike pairing other') :
    value.same value' = other.same other' := by
  rw [Value.same, Value.same, decide_eq_decide]
  exact alike.identity.eq_iff alike'.identity

end Alike

end Value

end MonkeyLang
