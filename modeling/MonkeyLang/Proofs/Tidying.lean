import MonkeyLang.Proofs.Variants
import Mathlib.Data.List.Nodup

/-!
Tidy documents. An object is made tidy by changes in its writing: its kind comes first, then
the members that its kind has a use for, in the order of the grammar, and an alternative that
is `null` is left out.
-/

namespace MonkeyLang.Document

open Json (unambiguous_array unambiguous_object)

namespace Variant

variable {value value' value'' : Json.Value}

theorem refl (value : Json.Value) : Variant value value :=
  Relation.ReflTransGen.refl

theorem trans (first : Variant value value') (second : Variant value' value'') :
    Variant value value'' :=
  Relation.ReflTransGen.trans first second

theorem symm (variant : Variant value value') : Variant value' value := by
  induction variant with
  | refl => exact refl value
  | tail _ step ih => exact .head step.symm ih

theorem made (change : Change value value') : Variant value value' :=
  .single (.inl change)

theorem undone (change : Change value value') : Variant value' value :=
  .single (.inr change)

theorem congr {build : Json.Value → Json.Value}
    (change : ∀ {value value'}, Change value value' → Change (build value) (build value'))
    (variant : Variant value value') : Variant (build value) (build value') := by
  induction variant with
  | refl => exact refl _
  | tail _ step ih => exact Relation.ReflTransGen.tail ih (step.imp change change)

theorem element {before after : List Json.Value} (variant : Variant value value') :
    Variant (.array (before ++ value :: after)) (.array (before ++ value' :: after)) :=
  congr .element variant

theorem member {before after : Members} {name : String} (variant : Variant value value') :
    Variant (.object (before ++ (name, value) :: after))
      (.object (before ++ (name, value') :: after)) :=
  congr .member variant

theorem elements {values values' : List Json.Value} (each : List.Forall₂ Variant values values') :
    Variant (.array values) (.array values') := by
  have behind (before : List Json.Value) :
      Variant (.array (before ++ values)) (.array (before ++ values')) := by
    induction each generalizing before with
    | nil => exact refl _
    | @cons value value' rest rest' first _ ih =>
        have others := ih (before ++ [value'])
        rw [List.append_assoc, List.append_assoc] at others
        exact first.element.trans others
  exact behind []

end Variant

section Grammar
variable {kind name : String} {parts : List (String × Part)}

theorem grammar_distinct (known : grammar kind = some parts) :
    ("node" :: parts.map Prod.fst).Nodup := by
  unfold grammar at known
  split at known <;> cases known <;> decide

/-- The kind of node that a part is peculiar to, and the name of its member there. -/
def Part.place : Part → Option (String × String)
  | .name => some ("LetStatement", "name")
  | .names => some ("FunctionLiteral", "parameters")
  | .branch => some ("IfExpression", "alternative")
  | _ => none

theorem grammar_place (known : grammar kind = some parts) :
    ∀ part ∈ parts, ∀ place ∈ part.2.place, place = (kind, part.1) := by
  unfold grammar at known
  split at known <;> cases known <;> simp [Part.place]

end Grammar

/-- What a member says as a part of a node. A `null` in the place of a branch says nothing. -/
def Part.held : Part → Option Json.Value → Option Json.Value
  | .branch, some .null => none
  | _, found => found

/-- The members that are read as parts of a node, in the order of the parts. -/
def tidyParts (members : Members) (parts : List (String × Part)) : Members :=
  parts.filterMap fun part => (part.2.held (members.lookup part.1)).map (part.1, ·)

def tidy (kind : String) (parts : List (String × Part)) (members : Members) : Members :=
  ("node", .string kind) :: tidyParts members parts

theorem held_eq_some {part : Part} {found : Option Json.Value} {value : Json.Value}
    (held : part.held found = some value) : found = some value := by
  unfold Part.held at held
  split at held
  · cases held
  · exact held

theorem held_eq_none {part : Part} {value : Json.Value} (held : part.held (some value) = none) :
    part = .branch ∧ value = .null := by
  unfold Part.held at held
  split at held
  · next same => exact ⟨rfl, Option.some.inj same⟩
  · cases held

theorem mem_tidyParts {members : Members} {parts : List (String × Part)} {name : String}
    {value : Json.Value} :
    (name, value) ∈ tidyParts members parts ↔
      ∃ part, (name, part) ∈ parts ∧ part.held (members.lookup name) = some value := by
  simp only [tidyParts, List.mem_filterMap, Option.map_eq_some_iff, Prod.mk.injEq]
  constructor
  · rintro ⟨⟨_, part⟩, among, _, held, rfl, rfl⟩
    exact ⟨part, among, held⟩
  · rintro ⟨part, among, held⟩
    exact ⟨(name, part), among, value, held, rfl, rfl⟩

theorem keys_tidyParts (members : Members) (parts : List (String × Part)) :
    (Assoc.keys (tidyParts members parts)).Sublist (parts.map Prod.fst) := by
  induction parts with
  | nil => exact .slnil
  | cons part rest ih =>
      simp only [tidyParts, List.filterMap_cons, List.map_cons]
      cases part.2.held (members.lookup part.1) with
      | none => exact ih.cons part.1
      | some value => exact ih.cons_cons part.1

section Tidying
variable {kind : String} {parts : List (String × Part)} {members : Members}

theorem tidy_distinct (known : grammar kind = some parts) :
    (Assoc.keys (tidy kind parts members)).Nodup :=
  (grammar_distinct known).sublist ((keys_tidyParts members parts).cons_cons "node")

theorem tidy_subset (named : kind? (.object members) = some kind) :
    tidy kind parts members ⊆ members := by
  rintro ⟨name, value⟩ among
  rcases List.mem_cons.mp among with same | part
  · cases same
    exact Assoc.mem_of_lookup (kind_object.mp named)
  · obtain ⟨part, -, held⟩ := mem_tidyParts.mp part
    exact Assoc.mem_of_lookup (held_eq_some held)

/-- The members that are not kept. -/
def untidy (kind : String) (parts : List (String × Part)) (members : Members) : Members :=
  members.filter fun member => member.1 ∉ Assoc.keys (tidy kind parts members)

theorem tidy_append_untidy (named : kind? (.object members) = some kind)
    (known : grammar kind = some parts) (distinct : (Assoc.keys members).Nodup) :
    members.Perm (tidy kind parts members ++ untidy kind parts members) := by
  have kept : (tidy kind parts members).Perm
      (members.filter fun member => member.1 ∈ Assoc.keys (tidy kind parts members)) := by
    rw [List.perm_ext_iff_of_nodup (List.Nodup.of_map _ (tidy_distinct known))
      ((List.Nodup.of_map _ distinct).filter _)]
    intro member
    rw [List.mem_filter, decide_eq_true_eq]
    constructor
    · exact fun among => ⟨tidy_subset named among, List.mem_map_of_mem among⟩
    · rintro ⟨among, key⟩
      -- the member of that name is the only one
      obtain ⟨other, among', same⟩ := List.mem_map.mp key
      have found := Assoc.lookup_of_mem distinct among
      have found' := Assoc.lookup_of_mem distinct (tidy_subset named among')
      rw [same, found] at found'
      exact Prod.ext same (Option.some.inj found').symm ▸ among'
  refine .trans ?_ (kept.symm.append_right _)
  simpa [untidy] using (List.filter_append_perm _ members).symm

/-- Members that have no use, or that say as much by not being there. -/
def Idle (kind : String) (parts : List (String × Part)) (member : String × Json.Value) : Prop :=
  member.1 ∉ "node" :: parts.map Prod.fst ∨
    kind = "IfExpression" ∧ member = ("alternative", .null)

theorem idle_of_untidy (known : grammar kind = some parts)
    (distinct : (Assoc.keys members).Nodup) {member : String × Json.Value}
    (among : member ∈ untidy kind parts members) : Idle kind parts member := by
  obtain ⟨name, value⟩ := member
  obtain ⟨among, unkept⟩ := List.mem_filter.mp among
  rw [decide_eq_true_eq] at unkept
  by_cases used : name ∈ "node" :: parts.map Prod.fst
  · right
    rcases List.mem_cons.mp used with rfl | used
    · exact absurd List.mem_cons_self unkept
    obtain ⟨⟨_, part⟩, inside, rfl⟩ := List.mem_map.mp used
    have found : members.lookup _ = some value := Assoc.lookup_of_mem distinct among
    cases held : part.held (some value) with
    | none =>
        obtain ⟨rfl, rfl⟩ := held_eq_none held
        cases grammar_place known _ inside _ rfl
        exact ⟨rfl, rfl⟩
    | some kept =>
        have kept : (_, kept) ∈ tidyParts members parts :=
          mem_tidyParts.mpr ⟨part, inside, found ▸ held⟩
        exact absurd (List.mem_cons_of_mem _ (List.mem_map_of_mem kept)) unkept
  · exact .inl used

theorem kind_append {rest : Members} (named : kind? (.object members) = some kind) :
    kind? (.object (members ++ rest)) = some kind := by
  rw [kind_object] at named ⊢
  rw [List.lookup_append, named, Option.some_or]

theorem Variant.drop {dropped : Members} (named : kind? (.object members) = some kind)
    (known : grammar kind = some parts)
    (proper : (Json.Value.object (members ++ dropped)).Unambiguous)
    (idle : ∀ member ∈ dropped, Idle kind parts member) :
    Variant (.object (members ++ dropped)) (.object members) := by
  induction dropped generalizing members with
  | nil =>
      rw [List.append_nil]
      exact refl _
  | cons member rest ih =>
      obtain ⟨name, value⟩ := member
      rw [List.append_cons] at proper ⊢
      obtain ⟨here, later⟩ := List.forall_mem_cons.mp idle
      refine (ih (kind_append named) proper later).trans ?_
      obtain ⟨distinct, each⟩ := unambiguous_object.mp proper
      have new : name ∉ Assoc.keys members := by
        simp only [Assoc.keys, List.map_append, List.nodup_append] at distinct
        exact fun present => distinct.1.2.2 name present name (by simp) rfl
      rcases here with unused | ⟨rfl, same⟩
      · exact undone (.spare named known unused new (each (name, value) (by simp)))
      · cases same
        exact undone (.alternative named new)

theorem Variant.tidied (proper : (Json.Value.object members).Unambiguous)
    (named : kind? (.object members) = some kind) (known : grammar kind = some parts) :
    Variant (.object members) (.object (tidy kind parts members)) := by
  have distinct := (unambiguous_object.mp proper).1
  have ordered : Change (.object members)
      (.object (tidy kind parts members ++ untidy kind parts members)) :=
    .order (tidy_append_untidy named known distinct)
  have proper' := ordered.unambiguous_iff.mp proper
  exact (made ordered).trans (drop (kind_object.mpr rfl) known proper' fun member =>
    idle_of_untidy known distinct)

end Tidying

end MonkeyLang.Document
