import MonkeyLang.Proofs.Growth
import MonkeyLang.Proofs.Reached

/-!
What a growth says of the middle of a run. A run is simulated by itself, through states that
are as they should be; and if the answers that evaluations give are changed only where the
state is not as it should be, nothing is changed. So every evaluation that a run comes to
starts in a state as it should be, whether or not the run ends.
-/

namespace MonkeyLang.Eval.Growth

variable {World : Type} [Preorder World] {growth : Growth World}

/-- Both sides are in one state and hand on one value. -/
def simulation (growth : Growth World) : Simulation World where
  state world first second := first = second ∧ growth.state world first
  value world value other := value = other ∧ value.isError = false ∧ growth.value world value
  failed world value after other final := value = other ∧ after = final ∧ growth.state world after

/-- The counters are of no account. -/
def Uncounted (growth : Growth World) : Prop :=
  ∀ {world state} {change : Counters → Counters}, Counters.IsGain change →
    growth.state world state → growth.state world (state.counted change)

variable {world : World} {before : State}

theorem simulation_meets {value : Value} (held : growth.state world before)
    (holds : growth.value world value) :
    growth.simulation.Meets growth.simulation.value world value before value before := by
  cases failed : value.isError with
  | true => exact .inl ⟨failed, failed, rfl, rfl, held⟩
  | false => exact .inr ⟨failed, failed, ⟨rfl, failed, holds⟩, rfl, held⟩

theorem Keeps.simulates {computation : Eval Value}
    (keeps : growth.Keeps world computation before) :
    growth.simulation.Matches growth.simulation.value world computation computation before
      before := by
  intro value after run
  obtain ⟨later, le, held, holds⟩ := keeps value after run
  exact ⟨value, after, later, run, le, simulation_meets held holds⟩

theorem eq_of_forall₂ {values others : List Value}
    (related : List.Forall₂ (growth.simulation.value world) values others) :
    values = others ∧ ∀ value ∈ values, growth.value world value := by
  induction related with
  | nil => exact ⟨rfl, by simp⟩
  | cons first _ ih => exact ⟨by rw [first.1, ih.1], List.forall_mem_cons.mpr ⟨first.2.2, ih.2⟩⟩

theorem eq_of_entries {entries others : List (HashKey × Value × Value)}
    (related : List.Forall₂ (growth.simulation.Entry world) entries others) :
    entries = others ∧
      ∀ entry ∈ entries, growth.value world entry.2.1 ∧ growth.value world entry.2.2 := by
  induction related with
  | nil => exact ⟨rfl, by simp⟩
  | @cons entry other _ _ first _ ih =>
      obtain ⟨slot, key, value⟩ := first
      refine ⟨?_, List.forall_mem_cons.mpr ⟨⟨key.2.2, value.2.2⟩, ih.2⟩⟩
      rw [ih.1, Prod.ext slot (Prod.ext key.1 value.1)]

section Laws
variable (law : growth.Lawful) (uncounted : growth.Uncounted)
include law

theorem Lawful.simulation_passes : growth.simulation.Passes growth.simulation.value where
  operand related := related
  tag related := by rw [related.1]
  sound related := related.2.1
  unwrapped related held := by
    obtain ⟨rfl, held⟩ := held
    rw [← related.1]
    exact simulation_meets held (law.keeps_unwrapped related.2.2)

theorem Lawful.simulation_admits {node : Node} {scope : ScopeId}
    (allowed : growth.node world node scope) :
    growth.simulation.Admits growth.simulation.value world scope scope node := by
  cases node with
  | letStatement name value =>
      rintro later value _ first _ le ⟨rfl, -, holds⟩ ⟨rfl, held⟩
      exact ⟨rfl, law.bound (law.node_grows le allowed) holds held⟩
  | returnStatement value =>
      rintro later value _ first _ le ⟨rfl, -, holds⟩ ⟨rfl, held⟩
      exact (law.keeps_make (.returned · value) held (.returned holds)).simulates
  | identifier name =>
      rintro later first _ le ⟨rfl, held⟩
      exact (law.keeps_identifier (law.node_grows le allowed) held).simulates
  | integerLiteral value =>
      rintro later first _ le ⟨rfl, held⟩
      exact (law.keeps_make (.integer · value) held (.integer value)).simulates
  | functionLiteral parameters body =>
      rintro later first _ le ⟨rfl, held⟩
      exact (keeps_run (make_run (.function · parameters body scope) first)
        (law.literal (law.node_grows le allowed) held)).simulates
  | unknown name =>
      rintro later first _ le ⟨rfl, held⟩
      exact (keeps_step (report_run _ _) (law.keeps_fail (law.noted _ _ _ held) _)).simulates
  | _ => trivial

include uncounted

theorem Lawful.simulation_lawful : growth.simulation.Lawful where
  grows le related := related.imp id (And.imp_right (law.grows le))
  tag related := by rw [related.1]
  truth related := by rw [related.1]
  key related := by rw [related.1]
  sound related := related.2.1
  null := ⟨rfl, rfl, law.null⟩
  boolean truth := ⟨rfl, rfl, law.boolean truth⟩
  traced event held := ⟨by rw [held.1], law.noted _ _ event held.2⟩
  finished related held := ⟨by rw [held.1, related.1], law.noted _ _ _ held.2⟩
  returned meets := by
    rcases meets with ⟨failed, failed', rfl, rfl, held⟩ | ⟨sound, sound', related, rfl, held⟩
    · exact .inl ⟨failed, failed', rfl, rfl, law.noted _ _ _ held⟩
    · exact .inr ⟨sound, sound', related, by rw [related.1], law.noted _ _ _ held⟩
  counted gain held := ⟨by rw [held.1], uncounted gain held.2⟩
  failed_stepped failed := ⟨failed.1, by rw [failed.2.1], uncounted .statement failed.2.2⟩
  failed_interrupted failed := ⟨failed.1, by rw [failed.2.1], law.noted _ _ _ failed.2.2⟩
  failed_shown failed := by
    obtain ⟨same, rfl, held⟩ := failed
    cases same
    exact ⟨rfl, rfl, law.noted _ _ _ held⟩
  fails fault held := by
    obtain ⟨rfl, held⟩ := held
    exact (law.keeps_fail held fault).simulates
  string text held := by
    obtain ⟨rfl, held⟩ := held
    exact (law.keeps_make (.string · text) held (.string text)).simulates
  array related held := by
    obtain ⟨rfl, held⟩ := held
    obtain ⟨rfl, holds⟩ := eq_of_forall₂ related
    exact (law.keeps_make (.array · _) held (.array holds)).simulates
  hash related filed held := by
    obtain ⟨rfl, held⟩ := held
    obtain ⟨rfl, holds⟩ := eq_of_entries related
    exact (law.keeps_make (.hash · _) held (.hash filed holds)).simulates
  prefixed operator related held := by
    obtain ⟨rfl, held⟩ := held
    obtain ⟨rfl, -, holds⟩ := related
    exact (law.keeps_prefix operator held holds).simulates
  infixed operator related related' held := by
    obtain ⟨rfl, held⟩ := held
    obtain ⟨rfl, -, holds⟩ := related
    obtain ⟨rfl, -, holds'⟩ := related'
    exact (law.keeps_infix operator held holds holds').simulates
  indexed related related' held := by
    obtain ⟨rfl, held⟩ := held
    obtain ⟨rfl, -, holds⟩ := related
    obtain ⟨rfl, -, holds'⟩ := related'
    exact (law.keeps_index held holds holds').simulates

end Laws

/-- Where the growth allows evaluations to start, an evaluator answers as the one of some depth
does. -/
def Follows (growth : Growth World) (world : World) (depth : Nat)
    (recur : Node → ScopeId → Eval Value) : Prop :=
  ∀ later node scope state, world ≤ later → growth.node later node scope →
    growth.state later state → recur node scope state = evalWithin depth node scope state

section Sites
variable (law : growth.Lawful) (uncounted : growth.Uncounted) {depth : Nat}
  {left right : Node → ScopeId → Eval Value}
include law

theorem Lawful.simulates_sub (left_follows : growth.Follows world depth left)
    (right_follows : growth.Follows world depth right) {node : Node} {scope : ScopeId}
    {later : World} {after final : State} (le : world ≤ later)
    (allowed : growth.node later node scope) (held : growth.simulation.state later after final) :
    growth.simulation.Matches growth.simulation.value later (left node scope) (right node scope)
      after final := by
  obtain ⟨rfl, held⟩ := held
  exact Simulates.of_eq (law.sound depth allowed held).simulates
    (left_follows later node scope after le allowed held)
    (right_follows later node scope after le allowed held)

include uncounted

theorem Lawful.simulates_call (left_follows : growth.Follows world depth left)
    (right_follows : growth.Follows world depth right) {callee : Value} {arguments : List Value}
    {later : World} {state : State} (le : world ≤ later) (held : growth.state later state)
    (known : growth.value later callee)
    (holds : ∀ argument ∈ arguments, growth.value later argument) :
    growth.simulation.Matches growth.simulation.value later (applyFunction left callee arguments)
      (applyFunction right callee arguments) state state := by
  cases callee with
  | function serial parameters body closure =>
      apply Simulates.step (count_run _ _) (count_run _ _)
      have counted := uncounted .functionCall held
      split
      · exact (law.keeps_fail counted _).simulates
      · apply Simulates.step (enter_run _ _ _) (enter_run _ _ _)
        obtain ⟨last, further, entered, allowed⟩ := law.entered known holds counted
        apply Simulates.step (trace_run _ _) (trace_run _ _)
        apply Simulates.of_later further
        refine Simulates.bind (Simulates.mono (law.simulates_sub left_follows right_follows
          (le_trans le further) allowed ⟨rfl, law.noted _ _ _ entered⟩) ?_)
        rintro final value after _ _ _
          (⟨failed, -, rfl, rfl, held⟩ | ⟨-, -, ⟨rfl, -, holds⟩, rfl, held⟩)
        · obtain ⟨serial, fault, rfl⟩ := Value.eq_error failed
          exact Simulates.done rfl rfl (.inl ⟨rfl, rfl, rfl, rfl, held⟩)
        · exact Simulates.done rfl rfl (simulation_meets held (law.keeps_unwrapped holds))
  | _ => exact (law.keeps_call (law.sound depth) held known holds).simulates

theorem Lawful.simulates_node (left_follows : growth.Follows world depth left)
    (right_follows : growth.Follows world depth right) {node : Node} {scope : ScopeId}
    {state : State} (allowed : growth.node world node scope) (held : growth.state world state) :
    growth.simulation.Matches growth.simulation.value world (evalNode left node scope)
      (evalNode right node scope) state state := by
  refine Simulation.Matches.node (law.simulation_lawful uncounted) law.simulation_passes
    (law.simulation_admits allowed) ?_ ?_ ?_ ⟨rfl, held⟩
  · intro child member later after final le
    exact law.simulates_sub left_follows right_follows le
      (law.operand (law.node_grows le allowed) child member)
  · intro child member later after final le
    exact law.simulates_sub left_follows right_follows le
      (law.step (law.node_grows le allowed) child member)
  · rintro later callee _ arguments others after _ le ⟨rfl, -, known⟩ related ⟨rfl, held⟩
    obtain ⟨rfl, holds⟩ := eq_of_forall₂ related
    exact law.simulates_call uncounted left_follows right_follows le held known holds

/-- Two evaluators that follow a third one give a node one meaning. -/
theorem Lawful.evalNode_eq (left_follows : growth.Follows world depth left)
    (right_follows : growth.Follows world depth right) {node : Node} {scope : ScopeId}
    {state : State} (allowed : growth.node world node scope) (held : growth.state world state) :
    evalNode left node scope state = evalNode right node scope state := by
  have one {computation other : Eval Value} (forth : growth.simulation.Matches
      growth.simulation.value world computation other state state) {value : Value}
      {after : State} (run : computation state = some (value, after)) :
      other state = some (value, after) := by
    obtain ⟨_, _, _, run', -, ⟨-, -, rfl, rfl, -⟩ | ⟨-, -, ⟨rfl, -⟩, rfl, -⟩⟩ := forth _ _ run
    · exact run'
    · exact run'
  apply Option.ext
  rintro ⟨value, after⟩
  exact ⟨one (law.simulates_node uncounted left_follows right_follows allowed held),
    one (law.simulates_node uncounted right_follows left_follows allowed held)⟩

/-- Allowed evaluations come to allowed evaluations only. -/
theorem Lawful.reached {root site : Site} (allowed : growth.node world root.node root.scope)
    (held : growth.state world root.state) (reached : Reached root site) :
    ∃ later, world ≤ later ∧ growth.node later site.node site.scope ∧
      growth.state later site.state := by
  refine Reached.admitted ?_ ⟨world, le_rfl, allowed, held⟩ reached
  rintro depth recur site ⟨later, le, allowed, held⟩ agrees
  have follows : growth.Follows later depth recur := by
    intro last node scope state further allowed held
    exact agrees ⟨node, scope, state⟩ ⟨last, le_trans le further, allowed, held⟩
  have itself : growth.Follows later depth (evalWithin depth) := fun _ _ _ _ _ _ _ => rfl
  exact law.evalNode_eq uncounted follows itself allowed held

end Sites

end MonkeyLang.Eval.Growth
