import MonkeyLang.Proofs.Chains
import Mathlib.Data.Set.Card
import Mathlib.Logic.Relation

/-!
Scopes as nested finite maps. A host opens scopes, each at the root or inside of one that is
there, and binds names in them. The history of these operations alone says what every lookup
finds: the latest binding of the name in the nearest scope, outwards, that ever bound it. The
loop of `get`, the recursion of `contains` and the subscript all find that, and listing a scope
shows its own names in the order in which they were first bound.
-/

namespace MonkeyLang.Scopes

/-! ### The ways to look a name up -/

/-- What each way to look a name up says, given what there is to be found. -/
structure Reports (scopes : Scopes) (scope : ScopeId) (name : String) (found : Option Value) :
    Prop where
  lookup? : scopes.lookup? scope name = found
  get : ∀ default, scopes.get scope name default = found.or default
  contains : scopes.contains scope name = found.isSome
  subscript : scopes.subscript scope name = found.elim (.error ⟨name⟩) .ok

theorem mem_keys_iff (bindings : List (String × Value)) (name : String) :
    name ∈ Assoc.keys bindings ↔ (bindings.lookup name).isSome := by
  simp [List.lookup_isSome_iff, Assoc.keys]

namespace IsNested

variable {scopes : Scopes} (nested : scopes.IsNested)

include nested

/-- The loop ends with what the chain says, if it may take as many steps as the chain has
members. -/
theorem getWithin_eq (name : String) (default : Option Value) (scope : ScopeId) :
    ∀ bound, scope < bound →
      scopes.getWithin name default bound (some scope) =
        (scopes.lookup? scope name).or default := by
  induction scope using nested.walk with
  | ground scope link =>
      intro bound enough
      obtain ⟨bound, rfl⟩ := Nat.exists_eq_add_one_of_ne_zero (Nat.ne_zero_of_lt enough)
      rw [nested.lookup?_step, getWithin, link]
      cases own : (scopes.bindings scope).lookup name with
      | some value => rfl
      | none => cases bound <;> rfl
  | inside scope outer link ih =>
      intro bound enough
      obtain ⟨bound, rfl⟩ := Nat.exists_eq_add_one_of_ne_zero (Nat.ne_zero_of_lt enough)
      have older := nested scope outer link
      rw [nested.lookup?_step, getWithin, link]
      cases own : (scopes.bindings scope).lookup name with
      | some value => rfl
      | none => exact ih bound (Nat.lt_of_lt_of_le older (Nat.le_of_lt_succ enough))

theorem containsWithin_eq (name : String) (scope : ScopeId) :
    ∀ bound, scope < bound →
      scopes.containsWithin name bound scope = (scopes.lookup? scope name).isSome := by
  induction scope using nested.walk with
  | ground scope link =>
      intro bound enough
      obtain ⟨bound, rfl⟩ := Nat.exists_eq_add_one_of_ne_zero (Nat.ne_zero_of_lt enough)
      rw [nested.lookup?_step, containsWithin, link]
      simp only [mem_keys_iff]
      cases (scopes.bindings scope).lookup name <;> rfl
  | inside scope outer link ih =>
      intro bound enough
      obtain ⟨bound, rfl⟩ := Nat.exists_eq_add_one_of_ne_zero (Nat.ne_zero_of_lt enough)
      have older := nested scope outer link
      rw [nested.lookup?_step, containsWithin, link]
      simp only [mem_keys_iff]
      cases own : (scopes.bindings scope).lookup name with
      | some value => rfl
      | none => exact ih bound (Nat.lt_of_lt_of_le older (Nat.le_of_lt_succ enough))

/-- The loop, the recursion and the subscript agree with each other and with the lookup of
the evaluator. -/
theorem reports (scope : ScopeId) (name : String) :
    scopes.Reports scope name (scopes.lookup? scope name) := by
  have room := Nat.lt_succ_self scope
  refine ⟨rfl, fun default => nested.getWithin_eq name default scope _ room,
    nested.containsWithin_eq name scope _ room, ?_⟩
  rw [subscript, get, nested.getWithin_eq name none scope _ room, Option.or_none]
  cases scopes.lookup? scope name <;> rfl

end IsNested

/-! ### Histories -/

/-- What a host does to scopes. -/
inductive Operation where
  | openRoot
  | openInside (outer : ScopeId)
  | set (scope : ScopeId) (name : String) (value : Value)

namespace Operation

def apply (scopes : Scopes) : Operation → Scopes
  | openRoot => scopes.create none
  | openInside outer => scopes.create (some outer)
  | set scope name value => scopes.bind scope name value

/-- Only a scope that is there can be opened in or written to. -/
def Applies (scopes : Scopes) : Operation → Prop
  | openRoot => True
  | openInside outer => outer < scopes.next
  | set scope _ _ => scope < scopes.next

/-- The scope around the one that is opened, if one is opened. -/
def opens? : Operation → Option (Option ScopeId)
  | openRoot => some none
  | openInside outer => some (some outer)
  | set _ _ _ => none

/-- What is bound in a scope, if something is. -/
def sets? (scope : ScopeId) : Operation → Option (String × Value)
  | set target name value => if target = scope then some (name, value) else none
  | _ => none

end Operation

/-- The scopes that there are after some operations, the first of which comes first. -/
inductive Arises : List Operation → Scopes → Prop
  | start : Arises [] empty
  | step {history : List Operation} {scopes : Scopes} {operation : Operation} :
      Arises history scopes → operation.Applies scopes →
      Arises (history ++ [operation]) (operation.apply scopes)

/-- The scopes in the order in which they were opened, each with the one around it. -/
def opened (history : List Operation) : List (Option ScopeId) :=
  history.filterMap Operation.opens?

/-- The bindings that were made in a scope, one after the other. -/
def made (history : List Operation) (scope : ScopeId) : List (String × Value) :=
  history.filterMap (Operation.sets? scope)

/-- What a name was last bound to in a scope. -/
def latest (history : List Operation) (scope : ScopeId) (name : String) : Option Value :=
  (made history scope).reverse.lookup name

/-- The names that were bound in a scope, each at its first binding. -/
def boundNames (history : List Operation) (scope : ScopeId) : List String :=
  ((made history scope).map Prod.fst).eraseDups

/-- The second scope was opened inside of the first. -/
def Encloses (history : List Operation) (outer inner : ScopeId) : Prop :=
  (opened history)[inner]? = some (some outer)

/-- A name was last bound to the value in the nearest scope, from the given one outwards, in
which it was ever bound. -/
inductive Means (history : List Operation) (name : String) : ScopeId → Value → Prop
  | here {scope : ScopeId} {value : Value} :
      latest history scope name = some value → Means history name scope value
  | further {scope outer : ScopeId} {value : Value} :
      latest history scope name = none → Encloses history outer scope →
      Means history name outer value → Means history name scope value

/-- A scope is the target, or lies inside of it with no binding of the name on the way. -/
inductive Sees (history : List Operation) (name : String) (target : ScopeId) : ScopeId → Prop
  | here : Sees history name target target
  | further {scope outer : ScopeId} :
      latest history scope name = none → Encloses history outer scope →
      Sees history name target outer → Sees history name target scope

/-- The scopes around a scope, at any distance. -/
def ancestors (history : List Operation) (scope : ScopeId) : Set ScopeId :=
  {ancestor | Relation.TransGen (fun inner outer => Encloses history outer inner) scope ancestor}

theorem opened_append (history : List Operation) (operation : Operation) :
    opened (history ++ [operation]) = opened history ++ operation.opens?.toList := by
  rw [opened, List.filterMap_append, ← opened, List.filterMap_cons]
  cases operation.opens? <;> rfl

theorem made_append (history : List Operation) (operation : Operation) (scope : ScopeId) :
    made (history ++ [operation]) scope =
      made history scope ++ (operation.sets? scope).toList := by
  rw [made, List.filterMap_append, ← made, List.filterMap_cons]
  cases operation.sets? scope <;> rfl

theorem names_bind {scopes : Scopes} {scope : ScopeId} (present : scope < scopes.next)
    (other : ScopeId) (name : String) (value : Value) :
    (scopes.bind scope name value).names other =
      if other = scope then
        if name ∈ scopes.names scope then scopes.names scope else scopes.names scope ++ [name]
      else scopes.names other := by
  rw [names, bindings_bind]
  by_cases here : other = scope
  · rw [if_pos ⟨here, present⟩, if_pos here, Assoc.keys_insert]
    rfl
  · rw [if_neg fun both => here both.1, if_neg here]
    rfl

/-- The store is as its history has it. -/
structure Records (history : List Operation) (scopes : Scopes) : Prop where
  count : scopes.next = (opened history).length
  links : ∀ scope, scopes.outer? scope = (opened history)[scope]?.join
  nested : scopes.IsNested
  names : ∀ scope, scopes.names scope = boundNames history scope
  distinct : ∀ scope, (scopes.names scope).Nodup
  values : ∀ scope name, (scopes.bindings scope).lookup name = latest history scope name

namespace Records

variable {history : List Operation} {scopes : Scopes}

theorem start : Records [] empty where
  count := rfl
  links _ := rfl
  nested := isNested_empty
  names _ := rfl
  distinct _ := List.nodup_nil
  values _ _ := rfl

theorem create (records : Records history scopes) {operation : Operation}
    {outer : Option ScopeId} (opens : operation.opens? = some outer)
    (silent : ∀ scope, operation.sets? scope = none)
    (present : ∀ around, outer = some around → around < scopes.next) :
    Records (history ++ [operation]) (scopes.create outer) := by
  have same (scope : ScopeId) : made (history ++ [operation]) scope = made history scope := by
    rw [made_append, silent, Option.toList_none, List.append_nil]
  have grown : opened (history ++ [operation]) = opened history ++ [outer] := by
    rw [opened_append, opens, Option.toList_some]
  constructor
  case count => rw [next_create, records.count, grown, List.length_append, List.length_singleton]
  case links =>
    intro scope
    rw [outer?_create, records.links, records.count, grown]
    rcases Nat.lt_trichotomy scope (opened history).length with below | new | above
    · rw [if_neg below.ne, List.getElem?_append_left below]
    · rw [if_pos new, new, List.getElem?_concat_length, Option.join_some]
    · have outside : (opened history)[scope]? = none := List.getElem?_eq_none above.le
      have beyond : (opened history ++ [outer])[scope]? = none :=
        List.getElem?_eq_none (by rw [List.length_append, List.length_singleton]; omega)
      rw [if_neg above.ne', outside, beyond]
  case nested => exact records.nested.create present
  case names =>
    intro scope
    rw [Scopes.names, bindings_create, boundNames, same]
    exact records.names scope
  case distinct =>
    intro scope
    rw [Scopes.names, bindings_create]
    exact records.distinct scope
  case values =>
    intro scope name
    rw [bindings_create, latest, same]
    exact records.values scope name

/-- Binding a name: of the bindings made in a scope, the last one has become the latest. -/
theorem bind (records : Records history scopes) {scope : ScopeId}
    (present : scope < scopes.next) (name : String) (value : Value) :
    Records (history ++ [.set scope name value]) (scopes.bind scope name value) := by
  have grown (other : ScopeId) : made (history ++ [.set scope name value]) other =
      made history other ++ if scope = other then [(name, value)] else [] := by
    rw [made_append, Operation.sets?]
    split <;> rfl
  have same : opened (history ++ [.set scope name value]) = opened history := by
    rw [opened_append, Operation.opens?, Option.toList_none, List.append_nil]
  constructor
  case count => rw [next_bind, records.count, same]
  case links =>
    intro other
    rw [outer?_bind, records.links, same]
  case nested => exact records.nested.bind name value
  case names =>
    intro other
    rw [names_bind present, boundNames, grown]
    by_cases here : other = scope
    · subst here
      rw [if_pos rfl, if_pos rfl, List.map_append, List.map_singleton,
        Assoc.eraseDups_concat, ← boundNames, records.names]
      simp only [boundNames, List.mem_eraseDups]
    · rw [if_neg here, if_neg (Ne.symm here), List.append_nil, ← boundNames, records.names]
  case distinct =>
    intro other
    rw [names_bind present]
    split
    · split
      · exact records.distinct scope
      · next new =>
        refine List.nodup_append.mpr ⟨records.distinct scope, List.nodup_singleton name, ?_⟩
        rintro old member _ last rfl
        exact new (List.mem_singleton.mp last ▸ member)
    · exact records.distinct other
  case values =>
    intro other sought
    rw [bindings_bind, latest, grown]
    by_cases here : other = scope
    · subst here
      rw [if_pos ⟨rfl, present⟩, if_pos rfl, Assoc.lookup_insert, records.values,
        List.reverse_append, List.reverse_singleton, List.singleton_append, List.lookup_cons]
      by_cases named : sought = name
      · rw [if_pos named, beq_iff_eq.mpr named]
      · rw [if_neg named, beq_eq_false_iff_ne.mpr named, latest]
    · rw [if_neg fun both => here both.1, if_neg (Ne.symm here), List.append_nil,
        records.values, latest]

theorem encloses_iff (records : Records history scopes) {outer inner : ScopeId} :
    Encloses history outer inner ↔ scopes.outer? inner = some outer := by
  rw [Encloses, records.links, Option.join_eq_some_iff]

/-- A lookup finds what the history says that the name means. -/
theorem means_iff (records : Records history scopes) {scope : ScopeId} {name : String}
    {value : Value} :
    Means history name scope value ↔ scopes.lookup? scope name = some value := by
  constructor
  · intro means
    induction means with
    | here bound =>
        rw [records.nested.lookup?_step, records.values, bound, Option.some_or]
    | further absent around _ ih =>
        rw [records.nested.lookup?_step, records.values, absent,
          records.encloses_iff.mp around, Option.none_or, Option.bind_some, ih]
  · induction scope using records.nested.walk with
    | ground scope link =>
        intro found
        rw [records.nested.lookup?_step, records.values, link, Option.bind_none,
          Option.or_none] at found
        exact .here found
    | inside scope outer link ih =>
        intro found
        rw [records.nested.lookup?_step, records.values, link, Option.bind_some] at found
        cases own : latest history scope name with
        | some bound =>
            rw [own, Option.some_or] at found
            exact .here (own.trans found)
        | none =>
            rw [own, Option.none_or] at found
            exact .further own (records.encloses_iff.mpr link) (ih found)

/-- Where a scope sees another, it finds what is bound there next. -/
theorem lookup?_of_sees (records : Records history scopes) {scope other : ScopeId}
    (present : scope < scopes.next) {name : String} (value : Value)
    (sees : Sees history name scope other) :
    (scopes.bind scope name value).lookup? other name = some value := by
  have after := records.bind present name value
  induction sees with
  | here =>
      rw [after.nested.lookup?_step, bindings_bind, if_pos ⟨rfl, present⟩, Assoc.lookup_insert,
        if_pos rfl, Option.some_or]
  | @further inner outer absent around _ ih =>
      rw [after.nested.lookup?_step, bindings_bind, outer?_bind,
        records.encloses_iff.mp around, Option.bind_some, ih]
      split
      · rw [Assoc.lookup_insert, if_pos rfl, Option.some_or]
      · rw [records.values, absent, Option.none_or]

/-- A scope that does not see another finds what it found before anything was bound there. -/
theorem lookup?_of_not_sees (records : Records history scopes) {scope : ScopeId}
    (present : scope < scopes.next) {name sought : String} (value : Value) (other : ScopeId)
    (apart : ¬(sought = name ∧ Sees history name scope other)) :
    (scopes.bind scope name value).lookup? other sought = scopes.lookup? other sought := by
  have after := records.bind present name value
  have own (here : ScopeId) (apart : ¬(sought = name ∧ Sees history name scope here)) :
      ((scopes.bind scope name value).bindings here).lookup sought =
        (scopes.bindings here).lookup sought := by
    rw [bindings_bind]
    split
    · next target =>
      obtain ⟨rfl, -⟩ := target
      have unnamed : sought ≠ name := fun same => apart ⟨same, .here⟩
      rw [Assoc.lookup_insert, if_neg unnamed]
    · rfl
  induction other using records.nested.walk with
  | ground other link =>
      rw [after.nested.lookup?_step, records.nested.lookup?_step, own other apart, outer?_bind,
        link, Option.bind_none, Option.bind_none]
  | inside other outer link ih =>
      rw [after.nested.lookup?_step, records.nested.lookup?_step, own other apart, outer?_bind,
        link, Option.bind_some, Option.bind_some]
      cases bound : (scopes.bindings other).lookup sought with
      | some _ => rw [Option.some_or, Option.some_or]
      | none =>
          rw [Option.none_or, Option.none_or]
          apply ih
          rintro ⟨rfl, sees⟩
          rw [records.values] at bound
          exact apart ⟨rfl, .further bound (records.encloses_iff.mpr link) sees⟩

/-- The scope around a scope and those around that one. -/
theorem ancestors_inside (records : Records history scopes) {scope outer : ScopeId}
    (link : scopes.outer? scope = some outer) :
    ancestors history scope = insert outer (ancestors history outer) := by
  ext ancestor
  constructor
  · intro around
    obtain ⟨next, first, rest⟩ := Relation.TransGen.head'_iff.mp around
    have same : outer = next := Option.some.inj (link.symm.trans (records.encloses_iff.mp first))
    subst same
    rcases Relation.reflTransGen_iff_eq_or_transGen.mp rest with here | further
    · exact .inl here
    · exact .inr further
  · rintro (rfl | further)
    · exact .single (records.encloses_iff.mpr link)
    · exact .head (records.encloses_iff.mpr link) further

theorem lt_of_mem_ancestors (records : Records history scopes) {scope ancestor : ScopeId}
    (around : ancestor ∈ ancestors history scope) : ancestor < scope := by
  induction around with
  | single link => exact records.nested _ _ (records.encloses_iff.mp link)
  | tail _ link ih => exact Nat.lt_trans (records.nested _ _ (records.encloses_iff.mp link)) ih

theorem encard_ancestors (records : Records history scopes) (scope : ScopeId) :
    (ancestors history scope).encard = scopes.depth scope := by
  induction scope using records.nested.walk with
  | ground scope link =>
      have none_around : ancestors history scope = ∅ := by
        refine Set.eq_empty_of_forall_notMem fun ancestor around => ?_
        obtain ⟨next, first, -⟩ := Relation.TransGen.head'_iff.mp around
        cases link.symm.trans (records.encloses_iff.mp first)
      rw [none_around, Set.encard_empty, depth_ground link, Nat.cast_zero]
  | inside scope outer link ih =>
      have apart : outer ∉ ancestors history outer := fun around =>
        Nat.lt_irrefl outer (records.lt_of_mem_ancestors around)
      rw [records.ancestors_inside link, Set.encard_insert_of_notMem apart, ih,
        records.nested.depth_inside link, Nat.cast_add, Nat.cast_one]

/-- The entries of a scope, each with the latest value of its name. -/
theorem items (records : Records history scopes) (scope : ScopeId) :
    (scopes.bindings scope).map (fun binding => (binding.1, some binding.2)) =
      (boundNames history scope).map fun name => (name, latest history scope name) := by
  rw [← records.names, Scopes.names, Assoc.keys, List.map_map]
  apply List.map_congr_left
  intro binding member
  have own := Assoc.lookup_of_mem (records.distinct scope) member
  rw [Function.comp_apply, ← records.values, own]

end Records

theorem Arises.records {history : List Operation} {scopes : Scopes}
    (arises : Arises history scopes) : Records history scopes := by
  induction arises with
  | start => exact .start
  | @step history scopes operation _ applies ih =>
      cases operation with
      | openRoot => exact ih.create rfl (fun _ => rfl) (fun _ absent => nomatch absent)
      | openInside outer =>
          refine ih.create rfl (fun _ => rfl) ?_
          rintro around ⟨⟩
          exact applies
      | set scope name value => exact ih.bind applies name value

/-- A forest of scopes is a forest of finite maps, one inside of the other. The ways to look a
name up agree, and find the latest binding in the nearest scope that ever bound the name. One
more binding is seen in its scope and in those that look through to it, and nowhere else. A
scope lists its names in order of their first bindings, each with its latest value, and its
depth counts the scopes around it. -/
theorem scopes_refine_nested_maps {history : List Operation} {scopes : Scopes}
    (arises : Arises history scopes) {scope : ScopeId} (present : scope < scopes.next)
    (name : String) :
    (∃ found, scopes.Reports scope name found ∧
      ∀ value, found = some value ↔ Means history name scope value) ∧
    (∀ value other sought,
      (sought = name ∧ Sees history name scope other →
        (scopes.bind scope name value).Reports other sought (some value)) ∧
      (¬(sought = name ∧ Sees history name scope other) →
        ∀ found, scopes.Reports other sought found →
          (scopes.bind scope name value).Reports other sought found)) ∧
    scopes.names scope = boundNames history scope ∧ (scopes.names scope).Nodup ∧
    (scopes.bindings scope).map (fun binding => (binding.1, some binding.2)) =
      (boundNames history scope).map (fun bound => (bound, latest history scope bound)) ∧
    (ancestors history scope).encard = scopes.depth scope := by
  have records := arises.records
  refine ⟨⟨_, records.nested.reports scope name, fun value => records.means_iff.symm⟩, ?_,
    records.names scope, records.distinct scope, records.items scope,
    records.encard_ancestors scope⟩
  intro value other sought
  have after := (records.bind present name value).nested.reports other sought
  constructor
  · rintro ⟨rfl, sees⟩
    rwa [records.lookup?_of_sees present value sees] at after
  · intro apart found before
    rwa [records.lookup?_of_not_sees present value other apart, before.lookup?] at after

/-- Three scopes, one inside of the other. The innermost hides what the root binds. -/
def covering : List Operation :=
  [.openRoot, .openInside 0, .openInside 1, .set 0 "a" (.integer 0 1), .set 2 "a" .null]

def covered : Scopes :=
  covering.foldl Operation.apply empty

theorem scopes_refine_nested_maps_covered :
    Arises covering covered ∧ 1 < covered.next ∧
      covered.Reports 1 "a" (some (.integer 0 1)) ∧
      (∀ value, (covered.bind 1 "a" value).Reports 1 "a" (some value)) ∧
      (∀ value, (covered.bind 1 "a" value).Reports 2 "a" (some .null)) ∧
      (ancestors covering 1).encard = 1 := by
  have root := Arises.start.step (show Operation.Applies _ .openRoot from trivial)
  have middle := root.step (show Operation.Applies _ (.openInside 0) from (by decide : 0 < 1))
  have inmost := middle.step (show Operation.Applies _ (.openInside 1) from (by decide : 1 < 2))
  have bound := inmost.step
    (show Operation.Applies _ (.set 0 "a" (.integer 0 1)) from (by decide : 0 < 3))
  have arises : Arises covering covered :=
    bound.step (show Operation.Applies _ (.set 2 "a" .null) from (by decide : 2 < 3))
  have present : 1 < covered.next := by decide
  obtain ⟨⟨found, reports, means⟩, written, -, -, -, depth⟩ :=
    scopes_refine_nested_maps arises present "a"
  obtain rfl := (means (.integer 0 1)).mpr (.further rfl rfl (.here rfl))
  refine ⟨arises, present, reports, fun value => (written value 1 "a").1 ⟨rfl, .here⟩, ?_, depth⟩
  intro value
  have unseen : ¬("a" = "a" ∧ Sees covering "a" 1 2) := by
    rintro ⟨-, _ | ⟨absent, _, _⟩⟩
    cases absent
  exact (written value 2 "a").2 unseen _ (arises.records.nested.reports 2 "a")

end MonkeyLang.Scopes
