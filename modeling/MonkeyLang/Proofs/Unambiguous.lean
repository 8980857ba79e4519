import MonkeyLang.Json.Parser

/-!
Unambiguous values: no object has two members of one name. Whatever value a text holds is
so, since a repeated name takes the place of the earlier one.
-/

namespace MonkeyLang.Json

/-- No object has two members of one name, at any depth. -/
inductive Value.Unambiguous : Value → Prop where
  | scalar {value} : value.depth = 0 → Unambiguous value
  | array {values} : (∀ value ∈ values, Unambiguous value) → Unambiguous (.array values)
  | object {members : List (String × Value)} : (Assoc.keys members).Nodup →
      (∀ member ∈ members, Unambiguous member.2) → Unambiguous (.object members)

theorem unambiguous_array {values : List Value} :
    (Value.array values).Unambiguous ↔ ∀ value ∈ values, value.Unambiguous := by
  constructor
  · intro proper
    cases proper with
    | scalar flat => cases flat
    | array each => exact each
  · exact .array

theorem unambiguous_object {members : List (String × Value)} :
    (Value.object members).Unambiguous ↔
      (Assoc.keys members).Nodup ∧ ∀ member ∈ members, member.2.Unambiguous := by
  constructor
  · intro proper
    cases proper with
    | scalar flat => cases flat
    | object distinct each => exact ⟨distinct, each⟩
  · exact fun ⟨distinct, each⟩ => .object distinct each

theorem unambiguous_insert {members : List (String × Value)} {name : String} {value : Value}
    (proper : (Value.object members).Unambiguous) (proper' : value.Unambiguous) :
    (Value.object (Assoc.insert name value members)).Unambiguous := by
  obtain ⟨distinct, each⟩ := unambiguous_object.mp proper
  refine .object ?_ fun member among => ?_
  · rw [Assoc.keys_insert]
    split
    · exact distinct
    · next new =>
      refine List.nodup_append.mpr ⟨distinct, List.pairwise_singleton _ name, ?_⟩
      rintro key present _ last rfl
      exact new (List.mem_singleton.mp last ▸ present)
  · rcases Assoc.mem_insert among with rfl | old
    · exact proper'
    · exact each member old

theorem parseNumber_flat {negative : Bool} {start text rest : List Char} {value : Value}
    (parsed : parseNumber negative start text = .ok (value, rest)) : value.depth = 0 := by
  unfold parseNumber at parsed
  split at parsed
  · cases parsed
  · simp only at parsed
    split at parsed
    · split at parsed <;> cases parsed
      rfl
    · cases parsed
      rfl

/-- Within a bound, whatever is read is unambiguous. -/
structure ReadsUnambiguous (bound : Nat) : Prop where
  value {text value rest} : parseValue bound text = .ok (value, rest) → value.Unambiguous
  elements {read text value rest} : (∀ value ∈ read, value.Unambiguous) →
    parseElements bound read text = .ok (value, rest) → value.Unambiguous
  members {read text value rest} : (Value.object read).Unambiguous →
    parseMembers bound read text = .ok (value, rest) → value.Unambiguous

section Step
variable {bound : Nat} (below : ReadsUnambiguous bound)
include below

theorem ReadsUnambiguous.value_succ {text rest : List Char} {value : Value}
    (parsed : parseValue (bound + 1) text = .ok (value, rest)) : value.Unambiguous := by
  have empty : (Value.object []).Unambiguous := .object List.nodup_nil (by simp)
  unfold parseValue at parsed
  split at parsed
  · split at parsed <;> cases parsed
    exact .scalar rfl
  · split at parsed
    · cases parsed
      exact empty
    · exact below.members empty parsed
  · split at parsed
    · cases parsed
      exact .array (by simp)
    · exact below.elements (by simp) parsed
  all_goals first
    | exact .scalar (parseNumber_flat parsed)
    | cases parsed
      exact .scalar rfl

theorem ReadsUnambiguous.elements_succ {read : List Value} {text rest : List Char} {value : Value}
    (before : ∀ value ∈ read, value.Unambiguous)
    (parsed : parseElements (bound + 1) read text = .ok (value, rest)) : value.Unambiguous := by
  unfold parseElements at parsed
  split at parsed
  · cases parsed
  · next first _ found =>
    have all : ∀ value ∈ first :: read, value.Unambiguous :=
      List.forall_mem_cons.mpr ⟨below.value found, before⟩
    split at parsed
    · cases parsed
      exact .array fun value among => all value (List.mem_reverse.mp among)
    · exact below.elements all parsed
    · cases parsed

theorem ReadsUnambiguous.members_succ {read : List (String × Value)} {text rest : List Char}
    {value : Value} (before : (Value.object read).Unambiguous)
    (parsed : parseMembers (bound + 1) read text = .ok (value, rest)) : value.Unambiguous := by
  unfold parseMembers at parsed
  split at parsed
  · split at parsed
    · cases parsed
    · split at parsed
      · split at parsed
        · cases parsed
        · next found =>
          have all (name : String) : (Value.object (Assoc.insert name _ read)).Unambiguous :=
            unambiguous_insert before (below.value found)
          split at parsed
          · cases parsed
            exact all _
          · exact below.members (all _) parsed
          · cases parsed
      · cases parsed
  · cases parsed

end Step

theorem readsUnambiguous (bound : Nat) : ReadsUnambiguous bound := by
  induction bound with
  | zero => exact ⟨by rintro _ _ _ ⟨⟩, by rintro _ _ _ _ _ ⟨⟩, by rintro _ _ _ _ _ ⟨⟩⟩
  | succ bound ih => exact ⟨ih.value_succ, ih.elements_succ, ih.members_succ⟩

/-- The value of a text is unambiguous. -/
theorem parse_unambiguous {text : String} {value : Value} (parsed : parse text = .ok value) :
    value.Unambiguous := by
  simp only [parse] at parsed
  split at parsed
  · next result =>
    cases parsed
    split at result
    · cases result
    · split at result
      · cases result
      · next found =>
        split at result
        · cases result
          exact (readsUnambiguous _).value found
        · cases result
  · cases parsed
  · cases parsed

end MonkeyLang.Json
