import MonkeyLang.Assoc
import Mathlib.Data.List.Forall2

/-!
Lists whose members are related one by one. What stands at a place, or is found along the
way, is absent from both lists or related. Association lists match if they have the same keys in
the same order and related items.
-/

namespace MonkeyLang

universe u v
variable {α : Type u} {β : Type v} {R : α → β → Prop} {left : List α} {right : List β}

theorem rel_getD {found : Option α} {other : Option β} {value : α} {value' : β}
    (related : Option.Rel R found other) (default_related : R value value') :
    R (found.getD value) (other.getD value') := by
  cases related with
  | some related => exact related
  | none => exact default_related

theorem exists_of_mem_left (related : List.Forall₂ R left right) {value : α}
    (member : value ∈ left) : ∃ other ∈ right, R value other := by
  induction related with
  | nil => cases member
  | cons head _ ih =>
      cases member with
      | head => exact ⟨_, List.mem_cons_self, head⟩
      | tail _ member =>
          obtain ⟨other, there, related⟩ := ih member
          exact ⟨other, List.mem_cons_of_mem _ there, related⟩

theorem rel_getElem? (related : List.Forall₂ R left right) (place : Nat) :
    Option.Rel R left[place]? right[place]? := by
  induction related generalizing place with
  | nil => exact .none
  | cons head _ ih =>
      cases place with
      | zero => exact .some head
      | succ place => exact ih place

theorem rel_head? (related : List.Forall₂ R left right) :
    Option.Rel R left.head? right.head? := by
  cases related with
  | nil => exact .none
  | cons head _ => exact .some head

theorem rel_getLast? (related : List.Forall₂ R left right) :
    Option.Rel R left.getLast? right.getLast? := by
  rw [List.getLast?_eq_getElem?, List.getLast?_eq_getElem?, related.length_eq]
  exact rel_getElem? related _

theorem rel_findSome? {γ : Type u} {δ : Type v} {S : γ → δ → Prop} {find : α → Option γ}
    {find' : β → Option δ} (related : List.Forall₂ R left right)
    (finds : ∀ value other, R value other → Option.Rel S (find value) (find' other)) :
    Option.Rel S (left.findSome? find) (right.findSome? find') := by
  induction related with
  | nil => exact .none
  | @cons value other _ _ head _ ih =>
      have first := finds value other head
      rw [List.findSome?_cons, List.findSome?_cons]
      cases here : find value with
      | none =>
          rw [here] at first
          cases there : find' other with
          | none => exact ih
          | some _ => rw [there] at first; cases first
      | some _ =>
          rw [here] at first
          cases there : find' other with
          | none => rw [there] at first; cases first
          | some _ => rw [there] at first; exact first

namespace Assoc

variable {Key : Type u} {Item Item' : Type v}

/-- The same keys in the same order, with related items. -/
def Matched (R : Item → Item' → Prop) : List (Key × Item) → List (Key × Item') → Prop :=
  List.Forall₂ fun entry other => entry.1 = other.1 ∧ R entry.2 other.2

namespace Matched

variable {R S : Item → Item' → Prop} {entries : List (Key × Item)} {others : List (Key × Item')}

theorem imp (weakens : ∀ item item', R item item' → S item item')
    (matched : Matched R entries others) : Matched S entries others :=
  List.Forall₂.imp (fun _ _ entry => ⟨entry.1, weakens _ _ entry.2⟩) matched

variable [DecidableEq Key]

theorem lookup (matched : Matched R entries others) (key : Key) :
    Option.Rel R (entries.lookup key) (others.lookup key) := by
  induction matched with
  | nil => exact .none
  | @cons entry other _ _ head _ ih =>
      rcases entry with ⟨first, item⟩
      rcases other with ⟨first', item'⟩
      obtain ⟨rfl, related⟩ : first = first' ∧ R item item' := head
      rw [List.lookup_cons, List.lookup_cons]
      split
      · exact .some related
      · exact ih

theorem insert {item : Item} {item' : Item'} (matched : Matched R entries others)
    (related : R item item') (key : Key) :
    Matched R (Assoc.insert key item entries) (Assoc.insert key item' others) := by
  induction matched with
  | nil => exact .cons ⟨rfl, related⟩ .nil
  | @cons entry other _ _ head tail ih =>
      rcases entry with ⟨first, old⟩
      rcases other with ⟨first', old'⟩
      have same : first = first' := head.1
      subst same
      simp only [Assoc.insert]
      split
      · exact .cons ⟨rfl, related⟩ tail
      · exact .cons head ih

end Matched

end Assoc

end MonkeyLang
