import MonkeyLang.Proofs.Scoping
import Mathlib.Data.List.Chain

/-!
The walk outwards from a scope. Where every scope lies inside of an older one, the walk
never comes back to a scope, and the bound that the definition of a chain carries is never
reached: a chain is its first scope and the chain of the scope around that one, and a name is
looked up along it.
-/

namespace MonkeyLang.Scopes

/-- Whatever scope encloses another is older. -/
def IsNested (scopes : Scopes) : Prop :=
  ∀ scope outer, scopes.outer? scope = some outer → outer < scope

variable {scopes : Scopes} {scope outer : ScopeId}

theorem isNested_empty : Scopes.empty.IsNested :=
  fun _ _ => nofun

theorem head?_chain (scopes : Scopes) (scope : ScopeId) :
    (scopes.chain scope).head? = some scope := by
  simp [chain, chainWithin]

theorem chain_ground (link : scopes.outer? scope = none) : scopes.chain scope = [scope] := by
  simp [chain, chainWithin, link]

theorem depth_ground (link : scopes.outer? scope = none) : scopes.depth scope = 0 := by
  simp [depth, chain_ground link]

namespace IsNested

variable (nested : scopes.IsNested)

include nested

/-- Induction along the walk outwards. -/
theorem walk {motive : ScopeId → Prop}
    (ground : ∀ scope, scopes.outer? scope = none → motive scope)
    (inside : ∀ scope outer, scopes.outer? scope = some outer → motive outer → motive scope)
    (scope : ScopeId) : motive scope := by
  induction scope using Nat.strongRecOn with
  | ind scope ih =>
      cases link : scopes.outer? scope with
      | none => exact ground scope link
      | some outer => exact inside scope outer link (ih outer (nested scope outer link))

theorem chainWithin_eq (scope : ScopeId) : ∀ bound bound', scope < bound → scope < bound' →
    scopes.chainWithin bound scope = scopes.chainWithin bound' scope := by
  induction scope using nested.walk with
  | ground scope link =>
      intro bound bound' enough enough'
      obtain ⟨bound, rfl⟩ := Nat.exists_eq_add_one_of_ne_zero (Nat.ne_zero_of_lt enough)
      obtain ⟨bound', rfl⟩ := Nat.exists_eq_add_one_of_ne_zero (Nat.ne_zero_of_lt enough')
      simp only [chainWithin, link]
  | inside scope outer link ih =>
      intro bound bound' enough enough'
      obtain ⟨bound, rfl⟩ := Nat.exists_eq_add_one_of_ne_zero (Nat.ne_zero_of_lt enough)
      obtain ⟨bound', rfl⟩ := Nat.exists_eq_add_one_of_ne_zero (Nat.ne_zero_of_lt enough')
      have older := nested scope outer link
      simp only [chainWithin, link]
      rw [ih bound bound' (Nat.lt_of_lt_of_le older (Nat.le_of_lt_succ enough))
        (Nat.lt_of_lt_of_le older (Nat.le_of_lt_succ enough'))]

theorem chain_inside (link : scopes.outer? scope = some outer) :
    scopes.chain scope = scope :: scopes.chain outer := by
  have older := nested scope outer link
  have room := nested.chainWithin_eq outer scope (outer + 1) older (Nat.lt_succ_self outer)
  show scopes.chainWithin (scope + 1) scope = scope :: scopes.chainWithin (outer + 1) outer
  rw [← room, chainWithin, link]

theorem depth_inside (link : scopes.outer? scope = some outer) :
    scopes.depth scope = scopes.depth outer + 1 := by
  have occupied : scopes.chain outer ≠ [] := by
    intro empty
    have first := scopes.head?_chain outer
    rw [empty] at first
    cases first
  have length := List.length_pos_iff.mpr occupied
  rw [depth, depth, nested.chain_inside link, List.length_cons]
  omega

/-- A name means what it is bound to here, or else what it means one scope further out. -/
theorem lookup?_step (scope : ScopeId) (name : String) :
    scopes.lookup? scope name = ((scopes.bindings scope).lookup name).or
      ((scopes.outer? scope).bind fun outer => scopes.lookup? outer name) := by
  cases link : scopes.outer? scope with
  | none =>
      rw [lookup?, chain_ground link]
      cases bound : (scopes.bindings scope).lookup name <;> simp [bound]
  | some outer =>
      rw [lookup?, nested.chain_inside link]
      cases bound : (scopes.bindings scope).lookup name <;> simp [lookup?, bound]

theorem bind (name : String) (value : Value) : (scopes.bind scope name value).IsNested := by
  intro inner around link
  rw [outer?_bind] at link
  exact nested inner around link

theorem create {outer : Option ScopeId}
    (present : ∀ around, outer = some around → around < scopes.next) :
    (scopes.create outer).IsNested := by
  intro inner around link
  rw [outer?_create] at link
  split at link
  · next opened => exact opened ▸ present around link
  · exact nested inner around link

theorem entered (present : outer < scopes.next) (bindings : List (String × Value)) :
    ((scopes.create (some outer)).bindAll scopes.next bindings).IsNested := by
  intro inner around link
  rw [outer?_bindAll] at link
  refine nested.create (fun around same => ?_) inner around link
  cases same
  exact present

/-- Each scope of a chain lies inside of the next. -/
theorem isChain_chain (scope : ScopeId) :
    (scopes.chain scope).IsChain fun inner outer => scopes.outer? inner = some outer := by
  induction scope using nested.walk with
  | ground scope link =>
      rw [chain_ground link]
      exact .singleton scope
  | inside scope outer link ih =>
      rw [nested.chain_inside link]
      apply ih.cons
      intro next first
      rw [head?_chain] at first
      cases first
      exact link

theorem nodup_chain (scope : ScopeId) : (scopes.chain scope).Nodup := by
  have older : (scopes.chain scope).IsChain (· > ·) :=
    (nested.isChain_chain scope).imp fun inner outer link => nested inner outer link
  exact (List.isChain_iff_pairwise.mp older).imp fun above => Nat.ne_of_gt above

end IsNested

/-- A scope without bindings that lies in no other. -/
structure IsFresh (scopes : Scopes) (home : ScopeId) : Prop where
  nested : scopes.IsNested
  present : home < scopes.next
  ground : scopes.outer? home = none
  empty : scopes.bindings home = []

theorem IsNested.isFresh_create (nested : scopes.IsNested) :
    (scopes.create none).IsFresh scopes.next where
  nested := nested.create fun _ => nofun
  present := by
    rw [next_create]
    exact Nat.lt_succ_self _
  ground := by rw [outer?_create, if_pos rfl]
  empty := by
    rw [bindings_create]
    exact bindings_of_next_le _ (Nat.le_refl _)

end MonkeyLang.Scopes
