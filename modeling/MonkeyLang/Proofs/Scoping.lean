import MonkeyLang.Proofs.Steps

/-!
What creating a scope and binding in one do to the bindings and the outer links of all
scopes: creating one changes those of no other, and binding changes the bindings of
one scope and no link.
-/

namespace MonkeyLang.Scopes

variable (scopes : Scopes)

@[simp] theorem next_bind (scope : ScopeId) (name : String) (value : Value) :
    (scopes.bind scope name value).next = scopes.next := by
  simp [next, bind]

@[simp] theorem next_create (outer : Option ScopeId) :
    (scopes.create outer).next = scopes.next + 1 := by
  simp [next, create]

@[simp] theorem next_bindAll (scope : ScopeId) (bindings : List (String × Value)) :
    (scopes.bindAll scope bindings).next = scopes.next := by
  induction bindings generalizing scopes with
  | nil => rfl
  | cons binding rest ih => rw [bindAll, ih, next_bind]

theorem bindings_of_next_le {scope : ScopeId} (absent : scopes.next ≤ scope) :
    scopes.bindings scope = [] := by
  have outside : scopes.table[scope]? = none := Array.getElem?_eq_none absent
  simp [bindings, outside]

theorem bindings_bind (scope other : ScopeId) (name : String) (value : Value) :
    (scopes.bind scope name value).bindings other =
      if other = scope ∧ scope < scopes.next then Assoc.insert name value (scopes.bindings scope)
      else scopes.bindings other := by
  by_cases here : other = scope
  · subst here
    by_cases present : other < scopes.next
    · have inside : scopes.table[other]? = some scopes.table[other] :=
        Array.getElem?_eq_getElem present
      simp [bindings, bind, Array.getElem?_modify, inside, present]
    · have outside : scopes.table[other]? = none :=
        Array.getElem?_eq_none (Nat.le_of_not_lt present)
      simp [bindings, bind, Array.getElem?_modify, outside, present]
  · simp [bindings, bind, Array.getElem?_modify, here, Ne.symm here]

@[simp] theorem outer?_bind (scope other : ScopeId) (name : String) (value : Value) :
    (scopes.bind scope name value).outer? other = scopes.outer? other := by
  by_cases here : scope = other
  · subst here
    cases found : scopes.table[scope]? <;> simp [outer?, bind, Array.getElem?_modify, found]
  · simp [outer?, bind, Array.getElem?_modify, here]

@[simp] theorem bindings_create (outer : Option ScopeId) (scope : ScopeId) :
    (scopes.create outer).bindings scope = scopes.bindings scope := by
  by_cases new : scope = scopes.next
  · rw [bindings_of_next_le scopes (Nat.le_of_eq new.symm)]
    simp [bindings, create, new, next]
  · have old : scope ≠ scopes.table.size := new
    simp [bindings, create, Array.getElem?_push, old]

theorem outer?_create (outer : Option ScopeId) (scope : ScopeId) :
    (scopes.create outer).outer? scope =
      if scope = scopes.next then outer else scopes.outer? scope := by
  by_cases new : scope = scopes.next
  · simp [outer?, create, new, next]
  · have old : scope ≠ scopes.table.size := new
    simp [outer?, create, Array.getElem?_push, old, new]

@[simp] theorem outer?_bindAll (scope other : ScopeId) (bindings : List (String × Value)) :
    (scopes.bindAll scope bindings).outer? other = scopes.outer? other := by
  induction bindings generalizing scopes with
  | nil => rfl
  | cons binding rest ih => rw [bindAll, ih, outer?_bind]

theorem bindings_bindAll_of_ne {scope other : ScopeId} (apart : other ≠ scope)
    (bindings : List (String × Value)) :
    (scopes.bindAll scope bindings).bindings other = scopes.bindings other := by
  induction bindings generalizing scopes with
  | nil => rfl
  | cons binding rest ih => simp [bindAll, ih, bindings_bind, apart]

/-- A binding is old or among those that were made. -/
theorem mem_bindings_bind {scope other : ScopeId} {name : String} {value : Value}
    {binding : String × Value}
    (member : binding ∈ (scopes.bind scope name value).bindings other) :
    binding = (name, value) ∨ binding ∈ scopes.bindings other := by
  rw [bindings_bind] at member
  split at member
  · next here =>
    rw [here.1]
    exact Assoc.mem_insert member
  · exact .inr member

theorem mem_bindings_bindAll {scope other : ScopeId} {made : List (String × Value)}
    {binding : String × Value} (member : binding ∈ (scopes.bindAll scope made).bindings other) :
    binding ∈ made ∨ binding ∈ scopes.bindings other := by
  induction made generalizing scopes with
  | nil => exact .inr member
  | cons head rest ih =>
      rcases ih _ member with later | before
      · exact .inl (List.mem_cons_of_mem head later)
      · rcases mem_bindings_bind scopes before with same | old
        · exact .inl (same ▸ List.mem_cons_self)
        · exact .inr old

/-- What a name is looked up as is bound to it in some scope. -/
theorem mem_of_lookup? {scope : ScopeId} {name : String} {value : Value}
    (found : scopes.lookup? scope name = some value) :
    ∃ member, (name, value) ∈ scopes.bindings member := by
  obtain ⟨member, -, bound⟩ := List.exists_of_findSome?_eq_some found
  exact ⟨member, Assoc.mem_of_lookup bound⟩

end MonkeyLang.Scopes
