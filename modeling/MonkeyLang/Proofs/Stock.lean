import MonkeyLang.Proofs.Depth
import MonkeyLang.Proofs.Midway
import Mathlib.Data.Set.BooleanAlgebra
import Mathlib.Data.Set.Insert
import Mathlib.Order.CompletePartialOrder

/-!
The objects there are. A run makes objects one by one, and the stock is the set of those that
were made so far, each with what it contains. All that a state or a value holds is in stock, no
two objects in stock share an identity, and a new object has an identity of its own. This is
true of whatever a host can come by: the states between evaluations, those that a run only
passes through, and the values that evaluations answer with.
-/

namespace MonkeyLang

open Eval

/-- An object that was made is in stock. -/
def Value.Stored (stock : Set Value) (object : Value) : Prop :=
  ∀ serial, object.identity = .made serial → object ∈ stock

namespace Value

variable {stock : Set Value} {value : Value} {serial : Nat}

theorem Stored.mono {later : Set Value} (le : stock ≤ later) (stored : value.Stored stock) :
    value.Stored later :=
  fun serial made => le (stored serial made)

theorem throughout_stored_mono {later : Set Value} (le : stock ≤ later)
    (stored : value.Throughout (Stored stock)) : value.Throughout (Stored later) :=
  fun part inside => (stored part inside).mono le

theorem Built.identity {held : Value → Prop} (built : value.Built held serial) :
    value.identity = .made serial := by
  cases built <;> rfl

/-- With a new object in stock all its parts are, if what it was built of is. -/
theorem Built.throughout (built : value.Built (Throughout (Stored stock)) serial) :
    value.Throughout (Stored (insert value stock)) := by
  have whole : value.Stored (insert value stock) := fun _ _ => Set.mem_insert _ _
  have older {part : Value} (stored : part.Throughout (Stored stock)) :
      part.Throughout (Stored (insert value stock)) :=
    throughout_stored_mono (Set.subset_insert _ _) stored
  cases built with
  | integer | string => exact .of_atom whole trivial
  | array elements =>
      exact throughout_array.mpr ⟨whole, fun element member => older (elements element member)⟩
  | hash _ entries =>
      exact throughout_hash.mpr
        ⟨whole, fun entry member => (entries entry member).imp older older⟩
  | returned inner => exact throughout_returned.mpr ⟨whole, older inner⟩

/-- The constants of the language are what their identities say. -/
theorem eq_of_identity_eq {left right : Value} (same : left.identity = right.identity)
    (constant : ∀ serial, left.identity ≠ .made serial) : left = right := by
  cases left with
  | boolean | null | builtin =>
      cases right <;> cases same
      rfl
  | _ => exact absurd rfl (constant _)

end Value

/-- The stock that a state has been supplied from. -/
structure State.Stocked (stock : Set Value) (state : State) : Prop where
  bindings : state.Throughout (Value.Stored stock)
  older : ∀ object ∈ stock, ∀ serial, object.identity = .made serial → serial < state.nextSerial
  one : ∀ first ∈ stock, ∀ second ∈ stock, first.identity = second.identity → first = second

namespace State.Stocked

variable {stock : Set Value} {state other : State} {value : Value}

theorem of_same (stocked : state.Stocked stock) (scopes : other.scopes = state.scopes)
    (serial : other.nextSerial = state.nextSerial) : other.Stocked stock where
  bindings := stocked.bindings.of_scopes scopes
  older := serial ▸ stocked.older
  one := stocked.one

/-- A new object is put in stock. -/
theorem made (stocked : state.Stocked stock) (fresh : value.identity = .made state.nextSerial) :
    state.bumped.Stocked (insert value stock) where
  bindings scope binding member :=
    Value.throughout_stored_mono (Set.subset_insert _ _) (stocked.bindings scope binding member)
  older object member serial made := by
    rcases member with rfl | old
    · rw [fresh] at made
      cases made
      exact Nat.lt_succ_self _
    · exact Nat.lt_succ_of_lt (stocked.older object old serial made)
  one first member second member' same := by
    -- an older object does not have the new identity
    have apart {object : Value} (old : object ∈ stock) : object.identity ≠ value.identity := by
      intro same
      exact Nat.lt_irrefl _ (stocked.older object old _ (same.trans fresh))
    rcases member with rfl | old <;> rcases member' with rfl | old'
    · rfl
    · exact absurd same.symm (apart old')
    · exact absurd same (apart old)
    · exact stocked.one first old second old' same

/-- The same of an object without parts. -/
theorem made_atom (stocked : state.Stocked stock) (value : Value)
    (fresh : value.identity = .made state.nextSerial) (atom : value.IsAtom) :
    state.bumped.Stocked (insert value stock) ∧
      value.Throughout (Value.Stored (insert value stock)) :=
  ⟨stocked.made fresh, .of_atom (fun _ _ => Set.mem_insert _ _) atom⟩

theorem bound (stocked : state.Stocked stock) (stored : value.Throughout (Value.Stored stock))
    (scope : ScopeId) (name : String) : (state.bound scope name value).Stocked stock where
  bindings := stocked.bindings.bound stored scope name
  older := stocked.older
  one := stocked.one

theorem entered (stocked : state.Stocked stock) (outer : ScopeId)
    {bindings : List (String × Value)}
    (stored : ∀ binding ∈ bindings, binding.2.Throughout (Value.Stored stock)) :
    (state.entered outer bindings).Stocked stock where
  bindings := stocked.bindings.entered outer stored
  older := stocked.older
  one := stocked.one

/-- Of what is in stock, an identity stands for one thing only. -/
theorem eq_of_identity_eq (stocked : state.Stocked stock) {left right : Value}
    (first : left.Stored stock) (second : right.Stored stock)
    (same : left.identity = right.identity) : left = right := by
  by_cases made : ∃ serial, left.identity = .made serial
  · obtain ⟨serial, own⟩ := made
    exact stocked.one left (first serial own) right (second serial (same ▸ own)) same
  · exact Value.eq_of_identity_eq same (not_exists.mp made)

end State.Stocked

namespace Eval

/-- The world is the stock. -/
def inventory : Growth (Set Value) where
  state := State.Stocked
  value stock value := value.Throughout (Value.Stored stock)
  node _ _ _ := True

theorem inventory_lawful : inventory.Lawful where
  grows le stored := Value.throughout_stored_mono le stored
  node_grows _ _ := trivial
  noted _ _ _ held := held.of_same (State.noted_scopes ..) (State.noted_nextSerial ..)
  alarmed _ held := held.of_same rfl rfl
  counted _ _ held := held.of_same rfl rfl
  compared _ held := held.of_same rfl rfl
  fails {_ state} fault held := by
    obtain ⟨stocked, stored⟩ := held.made_atom (.error state.nextSerial fault) rfl trivial
    exact ⟨_, Set.subset_insert _ _,
      stocked.of_same (State.failed_scopes ..) (State.failed_nextSerial ..), stored⟩
  null := .of_atom nofun trivial
  boolean _ := .of_atom nofun trivial
  builtin _ := .of_atom nofun trivial
  built held built :=
    ⟨_, Set.subset_insert _ _, held.made built.identity, built.throughout⟩
  literal {_ state parameters body scope} _ held := by
    obtain ⟨stocked, stored⟩ :=
      held.made_atom (.function state.nextSerial parameters body scope) rfl trivial
    exact ⟨_, Set.subset_insert _ _, stocked, stored⟩
  child stored _ member := stored.child member
  operand _ _ _ := trivial
  step _ _ _ := trivial
  found _ held bound := held.bindings.lookup? bound
  bound _ stored held := held.bound stored _ _
  entered _ stored held :=
    ⟨_, le_rfl, held.entered _ fun _ member => stored _ (List.of_mem_zip member).2, trivial⟩

/-- What there is for a host to look at: bound somewhere or answered, or contained in that. -/
inductive AtHand (state : State) (answers : List Value) (value : Value) : Prop where
  | bound {scope binding} : binding ∈ state.scopes.bindings scope → value.Within binding.2 →
      AtHand state answers value
  | answered {answer} : answer ∈ answers → value.Within answer → AtHand state answers value

/-- The state in which a tree is evaluated. -/
def readied (state : State) (verbose : Bool) : State :=
  if verbose then { state with level := .debug } else state

/-- How a host comes by states and answers. It starts with no scopes, opens some, and evaluates
whatever trees in them; it may look into a run, bind and call what it holds, supply functions of
its own, and set level, counters and log at will. -/
inductive Arises : State → List Value → Prop where
  | start : Arises { scopes := .empty } []
  | opened {state answers} (outer : Option ScopeId) : Arises state answers →
      Arises { state with scopes := state.scopes.create outer } answers
  | configured {state answers} (level : Level) (counters : Counters) (log : Array LogRecord) :
      Arises state answers → Arises { state with level, counters, log } answers
  | supplied {state answers} (name detail : String) : Arises state answers →
      Arises state.bumped (.failing state.nextSerial name detail :: answers)
  | bound {state answers value} (scope : ScopeId) (name : String) : Arises state answers →
      AtHand state answers value → Arises (state.bound scope name value) answers
  | evaluated {state answers depth node scope verbose value after} : Arises state answers →
      evaluate depth node scope verbose state = some (value, after) →
        Arises after (value :: answers)
  | during {state answers node scope verbose site} : Arises state answers →
      Reached ⟨node, scope, readied state verbose⟩ site → Arises site.state answers
  | called {state answers depth callee arguments value after} : Arises state answers →
      AtHand state answers callee → (∀ argument ∈ arguments, AtHand state answers argument) →
        call depth callee arguments state = some (value, after) → Arises after (value :: answers)

namespace Growth

variable {World : Type} [Preorder World] (growth : Growth World)

/-- Whatever trees a host evaluates, and whatever else it does, keeps the growth. -/
structure Hosted : Prop where
  start : ∃ world, growth.state world { scopes := .empty }
  node {world} (node : Node) (scope : ScopeId) : growth.node world node scope
  opened {world state} (outer : Option ScopeId) : growth.state world state →
    growth.state world { state with scopes := state.scopes.create outer }
  configured {world state} (level : Level) (counters : Counters) (log : Array LogRecord) :
    growth.state world state → growth.state world { state with level, counters, log }
  supplied {world state} (name detail : String) : growth.state world state →
    growth.Ends world (.failing state.nextSerial name detail) state.bumped
  bound {world state value} (scope : ScopeId) (name : String) : growth.value world value →
    growth.state world state → growth.state world (state.bound scope name value)
  binding {world state scope binding} : growth.state world state →
    binding ∈ state.scopes.bindings scope → growth.value world binding.2

/-- A state and the answers that a host has got are as they should be. -/
structure Provides (world : World) (state : State) (answers : List Value) : Prop where
  state : growth.state world state
  answers : ∀ answer ∈ answers, growth.value world answer

variable {growth} {world : World} {state : State} {answers : List Value} {value : Value}

theorem Lawful.within (law : growth.Lawful) {part whole : Value} (inside : part.Within whole)
    (holds : growth.value world whole) : growth.value world part := by
  induction inside with
  | self => exact holds
  | element member _ ih => exact ih (law.child holds _ member)
  | key member _ ih =>
      exact ih (law.child holds _ (List.mem_flatMap.mpr ⟨_, member, List.mem_cons_self⟩))
  | item member _ ih =>
      refine ih (law.child holds _ (List.mem_flatMap.mpr ⟨_, member, ?_⟩))
      exact List.mem_cons_of_mem _ List.mem_cons_self
  | wrapped _ ih => exact ih (law.child holds _ List.mem_cons_self)

theorem Hosted.readied (hosted : growth.Hosted) (held : growth.state world state)
    (verbose : Bool) : growth.state world (readied state verbose) := by
  cases verbose with
  | true => exact hosted.configured .debug state.counters state.log held
  | false => exact held

theorem Hosted.uncounted (hosted : growth.Hosted) : growth.Uncounted :=
  fun _ held => hosted.configured _ _ _ held

/-- A run answers with one more value. -/
theorem Provides.answered (provides : growth.Provides world state answers) (law : growth.Lawful)
    {after : State} (ends : growth.Ends world value after) :
    ∃ later, growth.Provides later after (value :: answers) := by
  obtain ⟨later, le, held, holds⟩ := ends
  refine ⟨later, held, List.forall_mem_cons.mpr ⟨holds, fun answer member => ?_⟩⟩
  exact law.grows le (provides.answers answer member)

theorem Provides.held (provides : growth.Provides world state answers) (law : growth.Lawful)
    (hosted : growth.Hosted) (held : AtHand state answers value) : growth.value world value := by
  cases held with
  | bound member inside => exact law.within inside (hosted.binding provides.state member)
  | answered member inside => exact law.within inside (provides.answers _ member)

/-- What a host comes by is as it should be, whether or not its runs end. -/
theorem Lawful.arises (law : growth.Lawful) (hosted : growth.Hosted)
    (arises : Arises state answers) : ∃ world, growth.Provides world state answers := by
  -- the world grows with what the host evaluates, calls and supplies, and with nothing else
  induction arises with
  | start =>
      obtain ⟨world, held⟩ := hosted.start
      exact ⟨world, held, nofun⟩
  | opened outer _ ih =>
      obtain ⟨world, held, holds⟩ := ih
      exact ⟨world, hosted.opened outer held, holds⟩
  | configured level counters log _ ih =>
      obtain ⟨world, held, holds⟩ := ih
      exact ⟨world, hosted.configured level counters log held, holds⟩
  | supplied name detail _ ih =>
      obtain ⟨world, provides⟩ := ih
      exact provides.answered law (hosted.supplied name detail provides.state)
  | bound scope name _ held ih =>
      obtain ⟨world, provides⟩ := ih
      have holds := provides.held law hosted held
      exact ⟨world, hosted.bound scope name holds provides.state, provides.answers⟩
  | @evaluated _ _ depth node scope verbose value after _ run ih =>
      obtain ⟨world, provides⟩ := ih
      rw [evaluate_run, Option.map_eq_some_iff] at run
      obtain ⟨⟨result, last⟩, run, ends⟩ := run
      cases ends
      obtain ⟨later, le, held, holds⟩ := law.sound depth (hosted.node node scope)
        (hosted.readied provides.state verbose) _ _ run
      exact provides.answered law ⟨later, le, hosted.configured _ _ _ held, holds⟩
  | @during state _ node scope verbose _ _ reached ih =>
      obtain ⟨world, provides⟩ := ih
      have started : growth.state world (Site.mk node scope (Eval.readied state verbose)).state :=
        hosted.readied provides.state verbose
      obtain ⟨later, le, -, held⟩ :=
        law.reached hosted.uncounted (hosted.node node scope) started reached
      -- what was answered before is as it should be, though the run has gone further by now
      exact ⟨later, held, fun answer member => law.grows le (provides.answers answer member)⟩
  | @called _ _ depth _ _ _ _ _ callee arguments run ih =>
      obtain ⟨world, provides⟩ := ih
      have holds {held : Value} (at_hand : AtHand _ _ held) := provides.held law hosted at_hand
      exact provides.answered law (law.keeps_call (law.sound depth) provides.state (holds callee)
        (fun argument member => holds (arguments argument member)) _ _ run)

end Growth

theorem inventory_hosted : inventory.Hosted where
  start := by
    refine ⟨∅, ?_, nofun, nofun⟩
    intro scope binding member
    rw [Scopes.bindings_of_next_le _ (Nat.zero_le _)] at member
    cases member
  node _ _ := trivial
  opened _ held :=
    ⟨fun scope binding member => held.bindings scope binding (Scopes.bindings_create .. ▸ member),
      held.older, held.one⟩
  configured _ _ _ held := held.of_same rfl rfl
  supplied {_ state} name detail held := by
    obtain ⟨stocked, stored⟩ := held.made_atom (.failing state.nextSerial name detail) rfl trivial
    exact ⟨_, Set.subset_insert _ _, stocked, stored⟩
  bound scope name holds held := held.bound holds scope name
  binding held member := held.bindings _ _ member

/-- All that is held is in stock. -/
structure Supplied (stock : Set Value) (state : State) (answers : List Value) : Prop where
  stocked : state.Stocked stock
  stored : ∀ answer ∈ answers, answer.Throughout (Value.Stored stock)

theorem Supplied.held {stock : Set Value} {state : State} {answers : List Value} {value : Value}
    (supplied : Supplied stock state answers) (held : AtHand state answers value) :
    value.Throughout (Value.Stored stock) := by
  have provides : inventory.Provides stock state answers := ⟨supplied.stocked, supplied.stored⟩
  exact provides.held inventory_lawful inventory_hosted held

theorem Arises.supplied_from {state : State} {answers : List Value}
    (arises : Arises state answers) : ∃ stock, Supplied stock state answers := by
  obtain ⟨stock, stocked, stored⟩ := inventory_lawful.arises inventory_hosted arises
  exact ⟨stock, stocked, stored⟩

end Eval

end MonkeyLang
