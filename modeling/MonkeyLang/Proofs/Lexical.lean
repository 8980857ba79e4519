import MonkeyLang.Proofs.Chains
import MonkeyLang.Proofs.Nesting
import MonkeyLang.Proofs.Parts
import MonkeyLang.Proofs.Reached

/-!
Scopes lie inside of one another as function literals do. A chart says of every scope which
literals' bodies it was opened for, the innermost first. Opening a scope adds to the chart
and changes nothing in it, so a function keeps its place however far it travels from the
scope that it was made in, and calling it opens a scope one level further in than that one.
-/

namespace MonkeyLang

structure Chart where
  paths : List (List Literal)

namespace Chart

instance : Preorder Chart where
  le chart later := chart.paths <+: later.paths
  le_refl chart := List.prefix_refl chart.paths
  le_trans _ _ _ := List.IsPrefix.trans

variable {chart later : Chart} {scope : ScopeId} {path : List Literal}

def path? (chart : Chart) (scope : ScopeId) : Option (List Literal) :=
  chart.paths[scope]?

/-- The literals that a scope lies inside of; none for a scope that does not exist. -/
def around (chart : Chart) (scope : ScopeId) : List Literal :=
  (chart.path? scope).getD []

def push (chart : Chart) (path : List Literal) : Chart :=
  ⟨chart.paths ++ [path]⟩

theorem around_eq (charted : chart.path? scope = some path) : chart.around scope = path := by
  rw [around, charted, Option.getD_some]

theorem path?_of_le (le : chart ≤ later) (charted : chart.path? scope = some path) :
    later.path? scope = some path := by
  obtain ⟨rest, grown⟩ := le
  have inside := (List.getElem?_eq_some_iff.mp charted).1
  rw [path?, ← grown, List.getElem?_append_left inside]
  exact charted

theorem le_push (chart : Chart) (path : List Literal) : chart ≤ chart.push path :=
  List.prefix_append chart.paths [path]

theorem path?_push_of_ne (old : scope ≠ chart.paths.length) :
    (chart.push path).path? scope = chart.path? scope := by
  rw [path?, path?, push]
  rcases Nat.lt_or_gt_of_ne old with inside | outside
  · exact List.getElem?_append_left inside
  · rw [List.getElem?_eq_none (Nat.le_of_lt outside), List.getElem?_eq_none]
    rw [List.length_append]
    exact outside

theorem path?_push_new : (chart.push path).path? chart.paths.length = some path := by
  simp [path?, push]

end Chart

/-- The chart tells where the scopes of a run of `root` lie. -/
structure Node.Charts (root : Node) (chart : Chart) (scopes : Scopes) : Prop where
  size : chart.paths.length = scopes.next
  ground : chart.path? 0 = some []
  outermost : scopes.outer? 0 = none
  alone : ∀ scope, chart.path? scope = some [] → scope = 0
  link : ∀ scope literal path, chart.path? scope = some (literal :: path) →
    root.Occurs path (.literal literal) ∧ ∃ outer < scope, scopes.outer? scope = some outer ∧
      chart.path? outer = some path
  names : ∀ scope path, chart.path? scope = some path → ∀ name ∈ scopes.names scope,
    root.Local path name

namespace Node.Charts

variable {root : Node} {chart : Chart} {scopes : Scopes} {scope : ScopeId} {path : List Literal}

theorem lt_next (charts : root.Charts chart scopes) (charted : chart.path? scope = some path) :
    scope < scopes.next := by
  rw [← charts.size]
  exact (List.getElem?_eq_some_iff.mp charted).1

theorem charted_of_lt (charts : root.Charts chart scopes) (present : scope < scopes.next) :
    chart.path? scope = some (chart.around scope) := by
  rw [← charts.size] at present
  have charted : chart.path? scope = some chart.paths[scope] := List.getElem?_eq_getElem present
  rw [Chart.around_eq charted, charted]

theorem nested (charts : root.Charts chart scopes) : scopes.IsNested := by
  intro scope outer link
  by_cases present : scope < scopes.next
  · have charted := charts.charted_of_lt present
    cases path : chart.around scope with
    | nil =>
        rw [path] at charted
        rw [charts.alone scope charted, charts.outermost] at link
        cases link
    | cons literal path' =>
        rw [path] at charted
        obtain ⟨-, outer', older, link', -⟩ := charts.link scope literal path' charted
        rw [link] at link'
        cases link'
        exact older
  · have absent : scopes.table[scope]? = none :=
      Array.getElem?_eq_none (Nat.le_of_not_lt present)
    rw [Scopes.outer?, absent] at link
    cases link

theorem depth_eq (charts : root.Charts chart scopes) (charted : chart.path? scope = some path) :
    scopes.depth scope = path.length := by
  induction path generalizing scope with
  | nil =>
      rw [charts.alone scope charted]
      exact Scopes.depth_ground charts.outermost
  | cons literal path ih =>
      obtain ⟨-, outer, -, link, outer_charted⟩ := charts.link scope literal path charted
      rw [charts.nested.depth_inside link, ih outer_charted, List.length_cons]

theorem getLast?_chain (charts : root.Charts chart scopes)
    (charted : chart.path? scope = some path) : (scopes.chain scope).getLast? = some 0 := by
  induction path generalizing scope with
  | nil =>
      rw [charts.alone scope charted, Scopes.chain_ground charts.outermost]
      rfl
  | cons literal path ih =>
      obtain ⟨-, outer, -, link, outer_charted⟩ := charts.link scope literal path charted
      rw [charts.nested.chain_inside link, List.getLast?_cons, ih outer_charted]
      rfl

theorem initial (root : Node) : root.Charts ⟨[[]]⟩ State.initial.scopes where
  size := rfl
  ground := rfl
  outermost := rfl
  alone scope charted := by
    have inside := (List.getElem?_eq_some_iff.mp charted).1
    exact Nat.lt_one_iff.mp inside
  link scope literal path charted := by
    have inside := (List.getElem?_eq_some_iff.mp charted).1
    rw [Nat.lt_one_iff.mp inside] at charted
    cases charted
  names scope path charted name bound := by
    have unbound : State.initial.scopes.bindings scope = [] :=
      Scopes.bindings_create Scopes.empty none scope
    rw [Scopes.names, unbound] at bound
    cases bound

theorem bind (charts : root.Charts chart scopes) (charted : chart.path? scope = some path)
    {name : String} (allowed : root.Local path name) (value : Value) :
    root.Charts chart (scopes.bind scope name value) where
  size := by rw [Scopes.next_bind, charts.size]
  ground := charts.ground
  outermost := by rw [Scopes.outer?_bind, charts.outermost]
  alone := charts.alone
  link other literal outside inside := by
    rw [Scopes.outer?_bind]
    exact charts.link other literal outside inside
  names other outside inside found bound := by
    obtain ⟨binding, member, rfl⟩ := List.mem_map.mp bound
    by_cases here : other = scope
    · subst here
      rw [charted] at inside
      cases inside
      rcases Scopes.mem_bindings_bind _ member with rfl | old
      · exact allowed
      · exact charts.names other path charted _ (List.mem_map_of_mem old)
    · rw [Scopes.bindings_bind, if_neg (fun there => here there.1)] at member
      exact charts.names other outside inside _ (List.mem_map_of_mem member)

/-- A call of a function that was made in `scope` opens a scope right inside of that one. -/
theorem enter (charts : root.Charts chart scopes) (charted : chart.path? scope = some path)
    {literal : Literal} (occurs : root.Occurs path (.literal literal))
    {bindings : List (String × Value)}
    (parameters : ∀ binding ∈ bindings, binding.1 ∈ literal.parameters) :
    root.Charts (chart.push (literal :: path))
      ((scopes.create (some scope)).bindAll scopes.next bindings) where
  size := by simp [Chart.push, charts.size]
  ground := Chart.path?_of_le (chart.le_push _) charts.ground
  outermost := by
    have old : 0 ≠ scopes.next := Nat.ne_of_lt (charts.lt_next charts.ground)
    rw [Scopes.outer?_bindAll, Scopes.outer?_create, if_neg old, charts.outermost]
  alone other inside := by
    by_cases new : other = chart.paths.length
    · rw [new, Chart.path?_push_new] at inside
      cases inside
    · rw [Chart.path?_push_of_ne new] at inside
      exact charts.alone other inside
  link other inner outside inside := by
    rw [Scopes.outer?_bindAll, Scopes.outer?_create, ← charts.size]
    by_cases new : other = chart.paths.length
    · rw [new, Chart.path?_push_new] at inside
      cases inside
      refine ⟨occurs, scope, ?_, if_pos new, Chart.path?_of_le (chart.le_push _) charted⟩
      rw [new, charts.size]
      exact charts.lt_next charted
    · rw [Chart.path?_push_of_ne new] at inside
      obtain ⟨around, outer, older, link, outer_charted⟩ := charts.link other inner outside inside
      exact ⟨around, outer, older, (if_neg new).trans link,
        Chart.path?_of_le (chart.le_push _) outer_charted⟩
  names other outside inside found bound := by
    obtain ⟨binding, member, rfl⟩ := List.mem_map.mp bound
    by_cases new : other = chart.paths.length
    · rw [new, Chart.path?_push_new] at inside
      cases inside
      rcases Scopes.mem_bindings_bindAll _ member with made | old
      · exact .inl (parameters binding made)
      · rw [Scopes.bindings_create, new, charts.size,
          Scopes.bindings_of_next_le scopes (Nat.le_refl _)] at old
        cases old
    · rw [Chart.path?_push_of_ne new] at inside
      rw [charts.size] at new
      rw [Scopes.bindings_bindAll_of_ne _ new, Scopes.bindings_create] at member
      exact charts.names other outside inside _ (List.mem_map_of_mem member)

end Node.Charts

/-- A function was made from a literal of `root`, in a scope that belongs to the literals
around that one. -/
def Value.FromLiteral (root : Node) (chart : Chart) (part : Value) : Prop :=
  ∀ serial parameters body closure, part = .function serial parameters body closure →
    ∃ path, chart.path? closure = some path ∧
      root.Occurs path (.functionLiteral parameters body)

namespace Value

variable {root : Node} {chart later : Chart}

theorem literal_containers : HoldsOfContainers (FromLiteral root chart) where
  array _ _ := by rintro _ _ _ _ ⟨⟩
  hash _ _ := by rintro _ _ _ _ ⟨⟩

theorem literal_atom {value : Value} (atom : value.IsAtom) (made : value.tag ≠ .function) :
    value.Throughout (FromLiteral root chart) := by
  refine (throughout_atom atom).mpr ?_
  rintro serial parameters body closure rfl
  exact absurd rfl made

theorem literal_function {serial : Nat} {parameters : List String} {body : Node}
    {closure : ScopeId} :
    (function serial parameters body closure).Throughout (FromLiteral root chart) ↔
      ∃ path, chart.path? closure = some path ∧
        root.Occurs path (.functionLiteral parameters body) := by
  have atom : (function serial parameters body closure).IsAtom := trivial
  rw [throughout_atom atom]
  constructor
  · exact fun made => made _ _ _ _ rfl
  · rintro made _ _ _ _ ⟨⟩
    exact made

theorem FromLiteral.of_le (le : chart ≤ later) {part : Value} (made : part.FromLiteral root chart) :
    part.FromLiteral root later := by
  intro serial parameters body closure same
  obtain ⟨path, charted, occurs⟩ := made serial parameters body closure same
  exact ⟨path, Chart.path?_of_le le charted, occurs⟩

end Value

namespace Eval.Lexical

/-- The chart is right about the scopes of a state and about the functions in it. -/
structure Held (root : Node) (chart : Chart) (state : State) : Prop where
  charts : root.Charts chart state.scopes
  functions : state.Throughout (Value.FromLiteral root chart)

theorem Held.of_scopes {root : Node} {chart : Chart} {state other : State}
    (held : Held root chart state) (same : other.scopes = state.scopes) : Held root chart other :=
  ⟨same ▸ held.charts, held.functions.of_scopes same⟩

/-- Calling a function adds the scope of the call to the chart. -/
theorem Held.entered {root : Node} {chart : Chart} {state : State} {closure : ScopeId}
    {path : List Literal} {parameters : List String} {body : Node} {arguments : List Value}
    (held : Held root chart state) (charted : chart.path? closure = some path)
    (occurs : root.Occurs path (.literal ⟨parameters, body⟩))
    (made : ∀ value ∈ arguments, value.Throughout (Value.FromLiteral root chart)) :
    ∃ later, chart ≤ later ∧
      Held root later (state.entered closure (parameters.zip arguments)) ∧
      later.path? state.scopes.next = some (⟨parameters, body⟩ :: path) := by
  have le := chart.le_push (⟨parameters, body⟩ :: path)
  refine ⟨chart.push (⟨parameters, body⟩ :: path), le, ⟨?_, ?_⟩, ?_⟩
  · apply held.charts.enter charted occurs
    intro binding member
    exact (List.of_mem_zip member).1
  · apply State.Throughout.entered
    · intro scope binding member part inside
      exact (held.functions scope binding member part inside).of_le le
    · intro binding member part inside
      exact (made binding.2 (List.of_mem_zip member).2 part inside).of_le le
  · rw [← held.charts.size]
    exact Chart.path?_push_new

/-- Every node is evaluated in a scope that belongs to the literals around the node. -/
def standard (root : Node) : Standard Chart where
  state chart first second := first = second ∧ Held root chart first
  value chart value := value.Throughout (Value.FromLiteral root chart)
  failed chart _ first second := first = second ∧ Held root chart first
  node chart _ node scope := ∃ path, chart.path? scope = some path ∧ root.Occurs path node

variable {root : Node} {chart : Chart}

theorem settles {first second : State} {value : Value} (same : first = second)
    (held : Held root chart first) (made : value.Throughout (Value.FromLiteral root chart)) :
    (standard root).Settles chart first second value := by
  cases value with
  | error serial fault => exact ⟨same, held⟩
  | _ => exact made

theorem lawful (root : Node) : (standard root).Lawful where
  grows le made part inside := (made part inside).of_le le
  node_grows le allowed := by
    obtain ⟨path, charted, occurs⟩ := allowed
    exact ⟨path, Chart.path?_of_le le charted, occurs⟩
  serial held := held.1 ▸ rfl
  next held := held.1 ▸ rfl
  traced _ held := ⟨held.1 ▸ rfl, held.2.of_scopes (State.noted_scopes ..)⟩
  counted _ held := ⟨held.1 ▸ rfl, held.2.of_scopes rfl⟩
  bumped held := ⟨held.1 ▸ rfl, held.2.of_scopes rfl⟩
  fails _ held := ⟨held.1 ▸ rfl, held.2.of_scopes (State.failed_scopes ..)⟩
  failed_stepped held := ⟨held.1 ▸ rfl, held.2.of_scopes rfl⟩
  failed_traced _ held := ⟨held.1 ▸ rfl, held.2.of_scopes (State.noted_scopes ..)⟩
  raised _ held := ⟨held.1 ▸ rfl, held.2.of_scopes (State.failed_scopes ..)⟩
  unknown _ held := ⟨held.1 ▸ rfl, held.2.of_scopes (by simp)⟩
  null := Value.literal_atom trivial (by simp [Value.tag])
  boolean _ := Value.literal_atom trivial (by simp [Value.tag])
  string _ _ := Value.literal_atom trivial (by simp [Value.tag])
  wrapped _ _ := Value.literal_atom trivial (by simp [Value.tag])
  measured _ _ _ := Value.literal_atom trivial (by simp [Value.tag])
  array _ holds := Value.literal_containers.array_iff.mpr fun value member =>
    (holds value member).2
  hash _ _ holds := Value.literal_containers.hash_iff.mpr fun entry member =>
    ⟨(holds entry member).1.2, (holds entry member).2.2⟩
  element made held value member :=
    settles held.1 held.2 (Value.literal_containers.array_iff.mp made value member)
  tail fresh made := Value.literal_containers.tail made fresh
  pushed fresh made _ item := Value.literal_containers.pushed made item fresh
  entry made held entry member :=
    settles held.1 held.2 (Value.literal_containers.hash_iff.mp made entry member).2
  inner made held := settles held.1 held.2 (Value.throughout_returned.mp made).2
  operand allowed child member := by
    obtain ⟨path, charted, occurs⟩ := allowed
    exact ⟨path, charted, occurs.operand member⟩
  step allowed child member := by
    obtain ⟨path, charted, occurs⟩ := allowed
    exact ⟨path, charted, occurs.step member⟩
  found _ held := by
    obtain ⟨rfl, held⟩ := held
    exact ⟨rfl, fun value bound => settles rfl held (held.functions.lookup? bound)⟩
  builtin _ _ := Value.literal_atom trivial (by simp [Value.tag])
  integer _ _ := Value.literal_atom trivial (by simp [Value.tag])
  function _ allowed := Value.literal_function.mpr allowed
  returned _ _ _ made := by
    refine .inr (Value.throughout_returned.mpr ⟨?_, made⟩)
    rintro _ _ _ _ ⟨⟩
  bound allowed _ made held := by
    obtain ⟨path, charted, occurs⟩ := allowed
    exact ⟨held.1 ▸ rfl, held.2.charts.bind charted (occurs.binds_local .here) _,
      held.2.functions.bound made _ _⟩
  entered made holds _ held := by
    obtain ⟨path, charted, occurs⟩ := Value.literal_function.mp made
    obtain ⟨rfl, held⟩ := held
    obtain ⟨later, le, held, inside⟩ := held.entered charted occurs
      fun value member => (holds value member).2
    exact ⟨later, le, ⟨rfl, held⟩, _, inside, .body occurs⟩

theorem diagonal (root : Node) : (standard root).Diagonal where
  state held := held.1
  failed held := held.1

theorem initial (root : Node) {before : State} (fresh : before.scopes = State.initial.scopes) :
    Held root ⟨[[]]⟩ before where
  charts := fresh ▸ .initial root
  functions := State.initial_throughout.of_scopes fresh

end Eval.Lexical

/-- A function was made from a literal of `root` in a scope at the depth of that literal:
`around` says of a scope which literals it lies inside of. -/
def Value.Captured (root : Node) (around : ScopeId → List Literal) (scopes : Scopes)
    (part : Value) : Prop :=
  ∀ serial parameters body closure, part = .function serial parameters body closure →
    closure < scopes.next ∧ root.Occurs (around closure) (.functionLiteral parameters body) ∧
      scopes.depth closure = (around closure).length

/-- The scopes and the functions of a state are placed as the literals of `root` are. -/
structure State.Mirrors (root : Node) (around : ScopeId → List Literal) (state : State) : Prop where
  functions : state.Throughout (Value.Captured root around state.scopes)
  ground : 0 < state.scopes.next ∧ around 0 = [] ∧ state.scopes.outer? 0 = none ∧
    state.scopes.depth 0 = 0
  /-- Every other scope was opened by a call of a function, right inside of the scope that
  the function was made in. -/
  opened : ∀ scope < state.scopes.next, scope ≠ 0 → ∃ literal outer,
    state.scopes.outer? scope = some outer ∧ root.Occurs (around outer) (.literal literal) ∧
      around scope = literal :: around outer ∧
      state.scopes.depth outer = (around outer).length ∧
      state.scopes.depth scope = (around outer).length + 1 ∧
      state.scopes.depth scope ≤ root.nesting ∧
      ∀ name ∈ state.scopes.names scope, name ∈ literal.parameters ∨ literal.body.Binds name
  chains : ∀ scope < state.scopes.next, (state.scopes.chain scope).Nodup ∧
    (state.scopes.chain scope).IsChain (fun inner outer =>
      state.scopes.outer? inner = some outer) ∧
    (state.scopes.chain scope).getLast? = some 0
  lookup : ∀ scope name, state.scopes.lookup? scope name =
    ((state.scopes.bindings scope).lookup name).or
      ((state.scopes.outer? scope).bind fun outer => state.scopes.lookup? outer name)

namespace Eval.Lexical

variable {root : Node} {chart : Chart} {state : State}

theorem captured (charts : root.Charts chart state.scopes) {part : Value}
    (made : part.FromLiteral root chart) : part.Captured root chart.around state.scopes := by
  intro serial parameters body closure same
  obtain ⟨path, charted, occurs⟩ := made serial parameters body closure same
  have around := Chart.around_eq charted
  exact ⟨charts.lt_next charted, around.symm ▸ occurs, around.symm ▸ charts.depth_eq charted⟩

theorem opened (charts : root.Charts chart state.scopes) {scope : ScopeId}
    (present : scope < state.scopes.next) (inner : scope ≠ 0) : ∃ literal outer,
      state.scopes.outer? scope = some outer ∧
        root.Occurs (chart.around outer) (.literal literal) ∧
        chart.around scope = literal :: chart.around outer ∧
        state.scopes.depth outer = (chart.around outer).length ∧
        state.scopes.depth scope = (chart.around outer).length + 1 ∧
        state.scopes.depth scope ≤ root.nesting ∧
        ∀ name ∈ state.scopes.names scope,
          name ∈ literal.parameters ∨ literal.body.Binds name := by
  have charted := charts.charted_of_lt present
  cases path : chart.around scope with
  | nil => exact absurd (charts.alone scope (path ▸ charted)) inner
  | cons literal around =>
      rw [path] at charted
      obtain ⟨occurs, outer, -, link, outer_charted⟩ := charts.link scope literal around charted
      have depth := charts.depth_eq charted
      -- the body of the literal is one level further in than the literal itself
      have below := occurs.body.length_add_nesting_le
      rw [List.length_cons] at depth below
      have outer_around := Chart.around_eq outer_charted
      refine ⟨literal, outer, link, ?_⟩
      rw [outer_around]
      exact ⟨occurs, rfl, charts.depth_eq outer_charted, depth,
        depth ▸ Nat.le_trans (Nat.le_add_right _ _) below, charts.names scope _ charted⟩

theorem Held.mirrors (held : Held root chart state) : state.Mirrors root chart.around where
  functions scope binding member part inside :=
    captured held.charts (held.functions scope binding member part inside)
  ground := ⟨held.charts.lt_next held.charts.ground, Chart.around_eq held.charts.ground,
    held.charts.outermost, Scopes.depth_ground held.charts.outermost⟩
  opened _ := opened held.charts
  chains scope present := ⟨held.charts.nested.nodup_chain scope,
    held.charts.nested.isChain_chain scope,
    held.charts.getLast?_chain (held.charts.charted_of_lt present)⟩
  lookup := held.charts.nested.lookup?_step

end Eval.Lexical

namespace Eval

/-- In every state that the run of a tree comes to, and in every state in which a node of it
is done, scopes and functions mirror how the literals of the tree are nested: the place of
the evaluated node, each function and each scope is that of the literals around it. -/
theorem scopes_mirror_nesting {root : Node} {before : State} {site : Site}
    (fresh : before.scopes = State.initial.scopes) (reached : Reached ⟨root, 0, before⟩ site) :
    (∃ around, site.state.Mirrors root around ∧ root.Occurs (around site.scope) site.node) ∧
      ∀ depth value after,
        evalWithin depth site.node site.scope site.state = some (value, after) →
          ∃ around, after.Mirrors root around ∧
            value.Throughout (Value.Captured root around after.scopes) := by
  have law := Lexical.lawful root
  have start : (Lexical.standard root).state ⟨[[]]⟩ before before :=
    ⟨rfl, Lexical.initial root fresh⟩
  have allowed : (Lexical.standard root).node ⟨[[]]⟩ true root 0 := ⟨[], rfl, .root⟩
  obtain ⟨chart, returns, -, allowed, held⟩ :=
    law.reached (Lexical.diagonal root) allowed start reached
  constructor
  · obtain ⟨path, charted, occurs⟩ := allowed
    exact ⟨chart.around, held.2.mirrors, (Chart.around_eq charted).symm ▸ occurs⟩
  · intro depth value after run
    obtain ⟨final, later, -, -, ends⟩ := law.finished 0 allowed held run
    rcases ends with ⟨serial, fault, rfl, -, held⟩ | ⟨⟨-, -, made⟩, -, held⟩
    · -- an error contains no function
      refine ⟨later.around, held.mirrors, ?_⟩
      rintro part (_ | _) _ _ _ _ ⟨⟩
    · refine ⟨later.around, held.mirrors, ?_⟩
      rcases made with made | ⟨-, serial, inner, rfl, -, made⟩
      · exact fun part inside => Lexical.captured held.charts (made part inside)
      · refine Value.throughout_returned.mpr ⟨?_, ?_⟩
        · rintro _ _ _ _ ⟨⟩
        · exact fun part inside => Lexical.captured held.charts (made part inside)

/-- `fn() { fn() {} }()` -/
def nestedCall : Node :=
  .callExpression (.functionLiteral [] (.blockStatement
    [.expressionStatement (.functionLiteral [] (.blockStatement []))])) []

/-- The call comes to the body of the outer literal, in a scope of its own. -/
def nestedBody : Site where
  node := .blockStatement [.expressionStatement (.functionLiteral [] (.blockStatement []))]
  scope := 1
  state := State.initial.bumped.called 0 [] []

open Classical in
theorem reached_nestedBody : Reached ⟨nestedCall, 0, State.initial⟩ nestedBody := by
  -- without an answer for the body there is none for the call
  let blocked : Node → ScopeId → Eval Value := fun node scope state =>
    if (⟨node, scope, state⟩ : Site) = nestedBody then none else evalWithin 3 node scope state
  have body : blocked nestedBody.node nestedBody.scope nestedBody.state = none := if_pos rfl
  have callee : blocked (.functionLiteral [] nestedBody.node) 0 State.initial =
      some (.function 0 [] nestedBody.node 0, State.initial.bumped) := by
    apply if_neg
    rintro ⟨⟩
  have stuck : evalNode blocked nestedCall 0 State.initial = none := by
    show (blocked (.functionLiteral [] nestedBody.node) 0 State.initial).bind _ = none
    rw [callee]
    show (blocked nestedBody.node nestedBody.scope nestedBody.state).bind _ = none
    rw [body]
    rfl
  refine Reached.root.inner ⟨blocked, fun _ _ _ apart => if_neg apart, ?_⟩
  rw [stuck]
  rintro ⟨⟩

/-- The function that the call makes is in scope 1, at depth 1, since one literal is around
its own. -/
theorem scopes_mirror_nesting_nestedCall :
    State.initial.scopes = State.initial.scopes ∧
      Reached ⟨nestedCall, 0, State.initial⟩ nestedBody ∧
      ∃ after around, after.Mirrors nestedCall around ∧
        evalWithin 3 nestedBody.node nestedBody.scope nestedBody.state =
          some (.function 1 [] (.blockStatement []) 1, after) ∧
        (Value.function 1 [] (.blockStatement []) 1).Throughout
          (Value.Captured nestedCall around after.scopes) ∧ after.scopes.depth 1 = 1 := by
  obtain ⟨after, run⟩ : ∃ after,
      evalWithin 3 nestedBody.node nestedBody.scope nestedBody.state =
        some (.function 1 [] (.blockStatement []) 1, after) := ⟨_, rfl⟩
  obtain ⟨around, mirrors, made⟩ :=
    (scopes_mirror_nesting rfl reached_nestedBody).2 3 _ after run
  refine ⟨rfl, reached_nestedBody, after, around, mirrors, run, made, ?_⟩
  cases run
  decide

end Eval

end MonkeyLang
