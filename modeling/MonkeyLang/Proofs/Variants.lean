import MonkeyLang.Proofs.Agreement
import MonkeyLang.Proofs.Encoding
import MonkeyLang.Proofs.Unambiguous
import Mathlib.Logic.Relation

/-!
Variants of documents. A document can be written in several ways: a name as a string or as
an identifier, an alternative that is `null` or not there, members in another order, and
members that its kind has no use for. Each such change, at any depth, leaves the described
tree as it is.
-/

namespace MonkeyLang

namespace Document

open Json (unambiguous_array unambiguous_object)

/-- An identifier as it is written in a place where a string would do. -/
def identifier (name : String) : Json.Value :=
  object "Identifier" [("value", .string name)]

/-- One change in the writing of a document. At its place, an object gets its members in
another order, a name or a parameter becomes an identifier, or a member is added that says
nothing. -/
inductive Change : Json.Value → Json.Value → Prop where
  | element {before value value' after} : Change value value' →
      Change (.array (before ++ value :: after)) (.array (before ++ value' :: after))
  | member {before name value value' after} : Change value value' →
      Change (.object (before ++ (name, value) :: after))
        (.object (before ++ (name, value') :: after))
  | order {members members' : Members} : members.Perm members' →
      Change (.object members) (.object members')
  | name {before text after} :
      kind? (.object (before ++ ("name", .string text) :: after)) = some "LetStatement" →
      Change (.object (before ++ ("name", .string text) :: after))
        (.object (before ++ ("name", identifier text) :: after))
  | parameter {before first text rest after} :
      kind? (.object (before ++ ("parameters", .array (first ++ .string text :: rest)) :: after)) =
        some "FunctionLiteral" →
      Change (.object (before ++ ("parameters", .array (first ++ .string text :: rest)) :: after))
        (.object
          (before ++ ("parameters", .array (first ++ identifier text :: rest)) :: after))
  | alternative {members} : kind? (.object members) = some "IfExpression" →
      "alternative" ∉ Assoc.keys members →
      Change (.object members) (.object (members ++ [("alternative", .null)]))
  | spare {members kind parts name value} : kind? (.object members) = some kind →
      grammar kind = some parts → name ∉ "node" :: parts.map Prod.fst →
      name ∉ Assoc.keys members → value.Unambiguous →
      Change (.object members) (.object (members ++ [(name, value)]))

/-- Any number of changes, each made or taken back. -/
def Variant : Json.Value → Json.Value → Prop :=
  Relation.ReflTransGen fun document document' =>
    Change document document' ∨ Change document' document

theorem Change.compound {value value' : Json.Value} (change : Change value value') :
    value.depth ≠ 0 ∧ value'.depth ≠ 0 := by
  cases change <;> exact ⟨Nat.succ_ne_zero _, Nat.succ_ne_zero _⟩

section Unambiguity
variable {value value' : Json.Value}

theorem unambiguous_replace_element {before after : List Json.Value}
    (same : value.Unambiguous ↔ value'.Unambiguous) :
    (Json.Value.array (before ++ value :: after)).Unambiguous ↔
      (Json.Value.array (before ++ value' :: after)).Unambiguous := by
  simp only [unambiguous_array, List.forall_mem_append, List.forall_mem_cons, same]

theorem unambiguous_replace_member {before after : Members} {name : String}
    (same : value.Unambiguous ↔ value'.Unambiguous) :
    (Json.Value.object (before ++ (name, value) :: after)).Unambiguous ↔
      (Json.Value.object (before ++ (name, value') :: after)).Unambiguous := by
  simp only [unambiguous_object, Assoc.keys, List.map_append, List.map_cons,
    List.forall_mem_append, List.forall_mem_cons, same]

theorem unambiguous_add_member {members : Members} {name : String}
    (new : name ∉ Assoc.keys members) (proper : value.Unambiguous) :
    (Json.Value.object members).Unambiguous ↔
      (Json.Value.object (members ++ [(name, value)])).Unambiguous := by
  have distinct : (Assoc.keys (members ++ [(name, value)])).Nodup ↔ (Assoc.keys members).Nodup := by
    rw [Assoc.keys, List.map_append]
    exact (List.perm_append_singleton _ _).nodup_iff.trans
      (List.nodup_cons.trans (and_iff_right new))
  simp only [unambiguous_object, distinct, List.forall_mem_append, List.forall_mem_singleton,
    proper, and_true]

theorem unambiguous_string (text : String) : (Json.Value.string text).Unambiguous :=
  .scalar rfl

theorem unambiguous_identifier (text : String) : (identifier text).Unambiguous := by
  simp [identifier, object, unambiguous_object, unambiguous_string, Assoc.keys]

theorem unambiguous_name {text : String} :
    (Json.Value.string text).Unambiguous ↔ (identifier text).Unambiguous :=
  iff_of_true (unambiguous_string text) (unambiguous_identifier text)

theorem Change.unambiguous_iff (change : Change value value') :
    value.Unambiguous ↔ value'.Unambiguous := by
  induction change with
  | element _ ih => exact unambiguous_replace_element ih
  | member _ ih => exact unambiguous_replace_member ih
  | order same =>
      simp only [unambiguous_object, Assoc.keys, (same.map _).nodup_iff, same.mem_iff]
  | name _ => exact unambiguous_replace_member unambiguous_name
  | parameter _ =>
      exact unambiguous_replace_member (unambiguous_replace_element unambiguous_name)
  | alternative _ new => exact unambiguous_add_member new (.scalar rfl)
  | spare _ _ _ new proper => exact unambiguous_add_member new proper

end Unambiguity

/-- A value gives the same results as another when it is read. -/
def ReadAlike {α : Type} (read : Json.Value → Decoded α) (value value' : Json.Value) : Prop :=
  ∀ result, read value = .ok result ↔ read value' = .ok result

/-- Wherever a document holds one of two arrays or objects, it may hold the other. -/
structure Interchangeable (value value' : Json.Value) : Prop where
  compound : value.depth ≠ 0 ∧ value'.depth ≠ 0
  node : ReadAlike decode value value'
  name : ReadAlike (decodeName decode) value value'
  nodes : ReadAlike (decodeNodes decode) value value'
  names : ReadAlike (decodeNames decode) value value'
  pair : ReadAlike (decodePair decode) value value'
  pairs : ReadAlike (decodePairs decode) value value'

section Readings
variable {α : Type} {value value' : Json.Value} {members members' : Members} {kind name : String}

/-- No array or object is read as a scalar. -/
theorem readAlike_scalar {read : Json.Value → Decoded α} (scalar : IsScalar read)
    (compound : value.depth ≠ 0 ∧ value'.depth ≠ 0) : ReadAlike read value value' := by
  obtain ⟨_, written⟩ := scalar
  exact fun _ => iff_of_false (fun found => compound.1 (written found).2)
    (fun found => compound.2 (written found).2)

theorem readAlike_required {read : Json.Value → Decoded α}
    (found : members.lookup name = some value) (found' : members'.lookup name = some value')
    (alike : ReadAlike read value value') (result : α) :
    (required members kind name >>= read) = .ok result ↔
      (required members' kind name >>= read) = .ok result := by
  rw [required, required, found, found']
  exact alike result

theorem decodeAlternative_compound {sub : Json.Value → Decoded Node} {branch : Option Node}
    (compound : value.depth ≠ 0) :
    decodeAlternative sub (some value) = .ok branch ↔
      ∃ block, decodeBlock sub value = .ok block ∧ some block = branch := by
  cases value with
  | null => exact absurd rfl compound
  | _ =>
      exact bind_eq_ok.trans (exists_congr fun _ =>
        and_congr_right' (Except.ok.injEq _ _).to_iff)

namespace Interchangeable

variable (same : Interchangeable value value')
include same

theorem block : ReadAlike (decodeBlock decode) value value' := fun result =>
  decodeBlock_eq_ok.trans ((and_congr_left' (same.node result)).trans decodeBlock_eq_ok.symm)

theorem branch (result : Option Node) :
    decodeAlternative decode (some value) = .ok result ↔
      decodeAlternative decode (some value') = .ok result := by
  rw [decodeAlternative_compound same.compound.1, decodeAlternative_compound same.compound.2]
  exact exists_congr fun block => and_congr_left' (same.block block)

/-- A member that is replaced is read alike as any part. -/
theorem part (found : members.lookup name = some value)
    (found' : members'.lookup name = some value') (part : Part) (result : part.Result) :
    part.read decode members kind name = .ok result ↔
      part.read decode members' kind name = .ok result := by
  cases part with
  | node => exact readAlike_required found found' same.node result
  | nodes => exact readAlike_required found found' same.nodes result
  | name => exact readAlike_required found found' same.name result
  | names => exact readAlike_required found found' same.names result
  | block => exact readAlike_required found found' same.block result
  | branch =>
      rw [Part.read, Part.read, found, found']
      exact same.branch result
  | pairs => exact readAlike_required found found' same.pairs result
  | text =>
      exact readAlike_required found found' (readAlike_scalar isScalar_text same.compound) result
  | integer =>
      exact readAlike_required found found' (readAlike_scalar isScalar_integer same.compound) result
  | boolean =>
      exact readAlike_required found found' (readAlike_scalar isScalar_boolean same.compound) result
  | operator allowed =>
      exact readAlike_required found found'
        (readAlike_scalar isScalar_operator same.compound) result

end Interchangeable

theorem decodeEach_replace {read : Json.Value → Decoded α} {before after : List Json.Value}
    (alike : ReadAlike read value value') (results : List α) :
    decodeEach read (before ++ value :: after) = .ok results ↔
      decodeEach read (before ++ value' :: after) = .ok results := by
  induction before generalizing results with
  | nil =>
      simp only [List.nil_append, decodeEach, bind_eq_ok]
      exact exists_congr fun first => and_congr_left' (alike first)
  | cons earlier before ih => simp only [List.cons_append, decodeEach, bind_eq_ok, ih]

theorem decodePair_replace {before after : List Json.Value} {pair : Node × Node}
    (follows : ∀ node, decode value = .ok node → decode value' = .ok node)
    (decoded : decodePair decode (.array (before ++ value :: after)) = .ok pair) :
    decodePair decode (.array (before ++ value' :: after)) = .ok pair := by
  obtain ⟨key, item, shape, keyed, valued⟩ := decodePair_eq_ok.mp decoded
  rw [Json.Value.array.injEq] at shape
  cases before with
  | nil =>
      obtain ⟨rfl, rfl⟩ := List.cons.inj shape
      exact decodePair_eq_ok.mpr ⟨value', item, rfl, follows _ keyed, valued⟩
  | cons first before =>
      obtain ⟨rfl, rest⟩ := List.cons.inj shape
      obtain ⟨rfl, same⟩ := List.append_eq_singleton_iff.mp rest |>.resolve_right (by simp)
      cases same
      exact decodePair_eq_ok.mpr ⟨first, value', rfl, keyed, follows _ valued⟩

theorem Interchangeable.element {before after : List Json.Value}
    (same : Interchangeable value value') :
    Interchangeable (.array (before ++ value :: after)) (.array (before ++ value' :: after)) where
  compound := ⟨Nat.succ_ne_zero _, Nat.succ_ne_zero _⟩
  node _ := iff_of_false (by rintro ⟨⟩) (by rintro ⟨⟩)
  name _ := iff_of_false (by rintro ⟨⟩) (by rintro ⟨⟩)
  nodes := decodeEach_replace same.node
  names := decodeEach_replace same.name
  pair _ := ⟨decodePair_replace fun node => (same.node node).mp,
    decodePair_replace fun node => (same.node node).mpr⟩
  pairs := decodeEach_replace same.pair

/-- Two objects of one kind with parts that are read alike. -/
structure SameParts (members members' : Members) : Prop where
  kinds : kind? (.object members) = kind? (.object members')
  parts {kind parts} : kind? (.object members) = some kind → grammar kind = some parts →
    ∀ part ∈ parts, ∀ result, part.2.read decode members kind part.1 = .ok result ↔
      part.2.read decode members' kind part.1 = .ok result

theorem SameParts.symm (same : SameParts members members') : SameParts members' members where
  kinds := same.kinds.symm
  parts named known part among result :=
    (same.parts (same.kinds.trans named) known part among result).symm

theorem SameParts.follows {node : Node} (same : SameParts members members')
    (decoded : decode (.object members) = .ok node) : decode (.object members') = .ok node := by
  obtain ⟨kind, parts, named, -, known, each⟩ := agree_objects.mp ⟨node, decoded, decoded⟩
  have agree : Agree (decode (.object members)) (decode (.object members')) :=
    agree_objects.mpr ⟨kind, parts, named, same.kinds ▸ named, known, fun part among =>
      (each part among).follow fun result => (same.parts named known part among result).mp⟩
  obtain ⟨node', first, second⟩ := agree
  cases decoded.symm.trans first
  exact second

theorem SameParts.interchangeable (same : SameParts members members') :
    Interchangeable (.object members) (.object members') where
  compound := ⟨Nat.succ_ne_zero _, Nat.succ_ne_zero _⟩
  node _ := ⟨same.follows, same.symm.follows⟩
  name _ := by
    rw [decodeName_eq_ok (by rintro _ ⟨⟩), decodeName_eq_ok (by rintro _ ⟨⟩)]
    exact ⟨same.follows, same.symm.follows⟩
  nodes _ := iff_of_false (by rintro ⟨⟩) (by rintro ⟨⟩)
  names _ := iff_of_false (by rintro ⟨⟩) (by rintro ⟨⟩)
  pair _ := iff_of_false (by rintro ⟨⟩) (by rintro ⟨⟩)
  pairs _ := iff_of_false (by rintro ⟨⟩) (by rintro ⟨⟩)

end Readings

section Lookups
variable {before after members members' : Members} {name key : String} {value value' : Json.Value}

theorem lookup_replace :
    (before ++ (name, value) :: after).lookup key =
        (before ++ (name, value') :: after).lookup key ∨
      key = name ∧ (before ++ (name, value) :: after).lookup key = some value ∧
        (before ++ (name, value') :: after).lookup key = some value' := by
  simp only [List.lookup_append]
  cases before.lookup key with
  | some found => exact .inl rfl
  | none =>
      by_cases same : key = name
      · subst same
        exact .inr ⟨rfl, by simp, by simp⟩
      · have apart : (key == name) = false := by simpa using same
        exact .inl (by simp [List.lookup_cons, apart])

theorem lookup_add (apart : key ≠ name) :
    (members ++ [(name, value)]).lookup key = members.lookup key := by
  have apart : (key == name) = false := by simpa using apart
  simp [List.lookup_append, List.lookup_cons, apart]

theorem lookup_absent (new : name ∉ Assoc.keys members) : members.lookup name = none := by
  rw [List.lookup_eq_none_iff]
  rintro member among
  rw [bne_iff_ne]
  rintro rfl
  exact new (List.mem_map_of_mem among)

theorem lookup_perm (distinct : (Assoc.keys members).Nodup) (same : members.Perm members') :
    members.lookup key = members'.lookup key := by
  have distinct' : (Assoc.keys members').Nodup := (same.map Prod.fst).nodup_iff.mp distinct
  apply Option.ext
  intro value
  constructor
  · exact fun found => Assoc.lookup_of_mem distinct' (same.mem_iff.mp (Assoc.mem_of_lookup found))
  · exact fun found => Assoc.lookup_of_mem distinct (same.mem_iff.mpr (Assoc.mem_of_lookup found))

theorem kind_congr (same : members.lookup "node" = members'.lookup "node") :
    kind? (.object members) = kind? (.object members') := by
  simp only [kind?, same]

theorem kind_replace (apart : "node" ≠ name) :
    kind? (.object (before ++ (name, value) :: after)) =
      kind? (.object (before ++ (name, value') :: after)) := by
  apply kind_congr
  rcases lookup_replace with same | ⟨here, -⟩
  · exact same
  · exact absurd here apart

theorem read_congr {kind : String} {part : Part} (same : members.lookup key = members'.lookup key) :
    part.read decode members kind key = part.read decode members' kind key := by
  cases part with
  | branch => exact congrArg (decodeAlternative decode) same
  | _ => simp only [Part.read, required, same]

/-- A member is replaced by one that is read alike as the part that it is. -/
theorem SameParts.replace
    (kinds : kind? (.object (before ++ (name, value) :: after)) =
      kind? (.object (before ++ (name, value') :: after)))
    (alike : ∀ {kind parts part} {members members' : Members},
      kind? (.object (before ++ (name, value) :: after)) = some kind → grammar kind = some parts →
      (name, part) ∈ parts → members.lookup name = some value →
      members'.lookup name = some value' → ∀ result : part.Result,
        part.read decode members kind name = .ok result ↔
          part.read decode members' kind name = .ok result) :
    SameParts (before ++ (name, value) :: after) (before ++ (name, value') :: after) where
  kinds := kinds
  parts := by
    rintro kind parts named known ⟨key, part⟩ among result
    rcases lookup_replace with same | ⟨here, found, found'⟩
    · rw [read_congr same]
    · cases (here : key = name)
      exact alike named known among found found' result

/-- The only part of its name is written in another way. -/
theorem SameParts.respell {kind : String} {parts : List (String × Part)} (part : Part)
    (named : kind? (.object (before ++ (name, value) :: after)) = some kind)
    (known : grammar kind = some parts) (apart : "node" ≠ name)
    (only : ∀ other, (name, other) ∈ parts → other = part)
    (alike : ∀ {members members' : Members}, members.lookup name = some value →
      members'.lookup name = some value' → ∀ result : part.Result,
        part.read decode members kind name = .ok result ↔
          part.read decode members' kind name = .ok result) :
    SameParts (before ++ (name, value) :: after) (before ++ (name, value') :: after) := by
  apply SameParts.replace (kind_replace apart)
  intro kind' parts' part' members members' named' known' among found found'
  cases named.symm.trans named'
  cases known.symm.trans known'
  cases only part' among
  exact alike found found'

theorem SameParts.of_lookup (kinds : members.lookup "node" = members'.lookup "node")
    (parts : ∀ {kind parts}, kind? (.object members) = some kind → grammar kind = some parts →
      ∀ name ∈ parts.map Prod.fst, members.lookup name = members'.lookup name) :
    SameParts members members' where
  kinds := kind_congr kinds
  parts named known part among result := by
    rw [read_congr (parts named known part.1 (List.mem_map_of_mem among))]

/-- An `if` without an alternative, and with one that is `null`. -/
theorem SameParts.alternative (named : kind? (.object members) = some "IfExpression")
    (new : "alternative" ∉ Assoc.keys members) :
    SameParts members (members ++ [("alternative", .null)]) where
  kinds := kind_congr (lookup_add (by decide)).symm
  parts := by
    rintro kind parts named' known ⟨key, part⟩ among result
    by_cases here : key = "alternative"
    · subst here
      cases named.symm.trans named'
      cases known
      obtain rfl : part = .branch := by simpa using among
      have absent := lookup_absent new
      have added : (members ++ [("alternative", Json.Value.null)]).lookup "alternative" =
          some .null := by
        rw [List.lookup_append, absent]
        rfl
      simp only [Part.read, absent, added]
      exact Iff.rfl
    · rw [read_congr (lookup_add here)]

/-- A name is read alike as a string and as an identifier. -/
theorem readAlike_name (text : String) :
    ReadAlike (decodeName decode) (.string text) (identifier text) :=
  fun _ => Iff.rfl

end Lookups

theorem Change.interchangeable {value value' : Json.Value} (change : Change value value')
    (proper : value.Unambiguous) : Interchangeable value value' := by
  induction change with
  | element _ ih =>
      apply Interchangeable.element
      exact ih (unambiguous_array.mp proper _ (by simp))
  | @member before name value value' after inner ih =>
      have same := ih ((unambiguous_object.mp proper).2 (name, value) (by simp))
      refine (SameParts.replace ?_ fun _ _ _ found found' =>
        same.part found found' _).interchangeable
      rcases lookup_replace with same | ⟨-, found, found'⟩
      · exact kind_congr same
      · -- neither of the two values names a kind
        have unnamed {members : Members} {value : Json.Value} (compound : value.depth ≠ 0)
            (found : members.lookup "node" = some value) : kind? (.object members) = none := by
          cases value <;> first | exact absurd rfl compound | simp only [kind?, found]
        rw [unnamed same.compound.1 found, unnamed same.compound.2 found']
  | order same =>
      have distinct := (unambiguous_object.mp proper).1
      exact (SameParts.of_lookup (lookup_perm distinct same)
        fun _ _ _ _ => lookup_perm distinct same).interchangeable
  | name named =>
      refine (SameParts.respell .name named rfl (by decide) (by simp) ?_).interchangeable
      exact fun found found' => readAlike_required found found' (readAlike_name _)
  | parameter named =>
      refine (SameParts.respell .names named rfl (by decide) (by simp) ?_).interchangeable
      exact fun found found' =>
        readAlike_required found found' (decodeEach_replace (readAlike_name _))
  | alternative named new => exact (SameParts.alternative named new).interchangeable
  | @spare members kind parts name value named known unused new =>
      rw [List.mem_cons, not_or] at unused
      refine (SameParts.of_lookup (lookup_add (Ne.symm unused.1)).symm ?_).interchangeable
      intro kind' parts' named' known' key used
      cases named.symm.trans named'
      cases known.symm.trans known'
      refine (lookup_add ?_).symm
      rintro rfl
      exact unused.2 used

/-- Changes keep a document unambiguous, and it describes the tree that it did. -/
theorem Variant.keeps {document other : Json.Value} (variant : Variant document other)
    (proper : document.Unambiguous) : other.Unambiguous ∧ ReadAlike decode document other := by
  induction variant with
  | refl => exact ⟨proper, fun _ => Iff.rfl⟩
  | tail _ step ih =>
      obtain ⟨proper', alike⟩ := ih
      rcases step with made | undone
      · exact ⟨made.unambiguous_iff.mp proper', fun node =>
          (alike node).trans ((made.interchangeable proper').node node)⟩
      · have proper'' := undone.unambiguous_iff.mpr proper'
        exact ⟨proper'', fun node =>
          (alike node).trans ((undone.interchangeable proper'').node node).symm⟩

end Document

end MonkeyLang
