import MonkeyLang.Proofs.Matched
import MonkeyLang.Proofs.Positions
import MonkeyLang.Proofs.Steps
import Mathlib.Order.Defs.PartialOrder

/-!
Two evaluations side by side. `Simulates` says of a pair of computations that whenever
the first finishes, so does the second, with results that are related. What relates
two values can grow while a computation runs, because both sides make objects, so the
relation is read in a world and results may be related in a later one.

`Matches.node` is the one case analysis over the kinds of nodes: two evaluators that
simulate each other on the parts of a node do so on the node. A property of
single runs is the case in which both sides are the same.
-/

namespace MonkeyLang

theorem Value.isError_iff (value : Value) : value.isError = true ↔ value.tag = .error := by
  cases value <;> simp [isError, tag]

theorem Value.isInterrupt_iff (value : Value) :
    value.isInterrupt = true ↔ value.tag = .returned ∨ value.tag = .error := by
  cases value <;> simp [isInterrupt, tag]

theorem Value.eq_error {value : Value} (failure : value.isError = true) :
    ∃ serial fault, value = .error serial fault := by
  cases value with
  | error serial fault => exact ⟨serial, fault, rfl⟩
  | _ => cases failure

theorem Value.eq_returned {value : Value} (wrapped : value.tag = .returned) :
    ∃ serial inner, value = .returned serial inner := by
  cases value with
  | returned serial inner => exact ⟨serial, inner, rfl⟩
  | _ => cases wrapped

theorem Value.unwrapped_of_calm {value : Value} (calm : value.isInterrupt = false) :
    value.unwrapped = value := by
  cases value <;> first | rfl | cases calm

namespace Eval

/-- What a program does with the value of a statement. -/
def settle (sub : Node → Eval Value) (position : Nat) (rest : List Node) : Value → Eval Value
  | .returned _ inner => do
      trace (.programReturned inner)
      return inner
  | .error serial fault => do
      trace (.programFailed fault)
      return .error serial fault
  | value => runProgram sub (position + 1) value rest

theorem runProgram_cons (sub : Node → Eval Value) (position : Nat) (result : Value)
    (statement : Node) (rest : List Node) :
    runProgram sub position result (statement :: rest) = (do
      trace (.statementReached position statement.kind)
      let value ← sub statement
      countStatement
      settle sub position rest value) := by
  rw [runProgram]
  congr
  funext _
  congr
  funext value
  congr
  funext _
  cases value <;> rfl

theorem settle_calm {sub : Node → Eval Value} {position : Nat} {rest : List Node} {value : Value}
    (calm : value.isInterrupt = false) :
    settle sub position rest value = runProgram sub (position + 1) value rest := by
  cases value <;> first | rfl | cases calm

variable {World : Type} [Preorder World] {α β γ δ : Type}

def Simulates (world : World) (left : Eval α) (right : Eval β) (first second : State)
    (post : World → α → State → β → State → Prop) : Prop :=
  ∀ value after, left first = some (value, after) →
    ∃ other final later, right second = some (other, final) ∧ world ≤ later ∧
      post later value after other final

namespace Simulates

variable {world later : World} {left : Eval α} {right : Eval β} {first second : State}
  {post weaker : World → α → State → β → State → Prop}

theorem mono (run : Simulates world left right first second post)
    (weakens : ∀ later value after other final, world ≤ later →
      post later value after other final → weaker later value after other final) :
    Simulates world left right first second weaker := by
  intro value after finished
  obtain ⟨other, final, later, other_finished, le, holds⟩ := run value after finished
  exact ⟨other, final, later, other_finished, le, weakens _ _ _ _ _ le holds⟩

theorem of_later (le : world ≤ later) (run : Simulates later left right first second post) :
    Simulates world left right first second post := by
  intro value after finished
  obtain ⟨other, final, last, other_finished, le', holds⟩ := run value after finished
  exact ⟨other, final, last, other_finished, le_trans le le', holds⟩

/-- Computations that are known to finish. -/
theorem done {value : α} {other : β} {after final : State}
    (left_run : left first = some (value, after)) (right_run : right second = some (other, final))
    (holds : post world value after other final) :
    Simulates world left right first second post := by
  intro found found_after finished
  rw [left_run] at finished
  cases finished
  exact ⟨other, final, world, right_run, le_rfl, holds⟩

theorem bind {next : α → Eval γ} {next' : β → Eval δ}
    {post : World → γ → State → δ → State → Prop}
    (head : Simulates world left right first second fun later value after other final =>
      Simulates later (next value) (next' other) after final post) :
    Simulates world (left >>= next) (right >>= next') first second post := by
  intro value after finished
  cases left_run : left first with
  | none =>
      have stuck : (left >>= next) first = none := by
        show (left first).bind _ = none
        rw [left_run]
        rfl
      rw [stuck] at finished
      cases finished
  | some middle =>
      have moves : (left >>= next) first = next middle.1 middle.2 := by
        show (left first).bind _ = _
        rw [left_run]
        rfl
      rw [moves] at finished
      obtain ⟨other, between, during, right_run, le, tail⟩ := head _ _ left_run
      obtain ⟨last, final, later, last_run, le', holds⟩ := tail _ _ finished
      refine ⟨last, final, later, ?_, le_trans le le', holds⟩
      show (right second).bind _ = _
      rw [right_run]
      exact last_run

/-- First computations that are known to finish. -/
theorem step {next : α → Eval γ} {next' : β → Eval δ}
    {post : World → γ → State → δ → State → Prop}
    {value : α} {other : β} {after final : State}
    (left_run : left first = some (value, after)) (right_run : right second = some (other, final))
    (tail : Simulates world (next value) (next' other) after final post) :
    Simulates world (left >>= next) (right >>= next') first second post :=
  bind (done left_run right_run tail)

end Simulates

/-- What a simulation relates: states between evaluations, values that are handed to
an operation, and the errors that end an evaluation together with their states. -/
structure Simulation (World : Type) [Preorder World] where
  state : World → State → State → Prop
  value : World → Value → Value → Prop
  failed : World → Value → State → Value → State → Prop

/-- Entries of a hash under construction: each is filed under the key of its own key
object, and no key occurs twice. -/
def Filed (entries : List (HashKey × Value × Value)) : Prop :=
  (∀ entry ∈ entries, entry.2.1.hashKey? = some entry.1) ∧ (Assoc.keys entries).Nodup

theorem filed_nil : Filed [] :=
  ⟨by simp, List.nodup_nil⟩

theorem filed_insert {slot : HashKey} {key value : Value}
    {entries : List (HashKey × Value × Value)} (filed : Filed entries)
    (own : key.hashKey? = some slot) : Filed (Assoc.insert slot (key, value) entries) := by
  constructor
  · intro entry member
    rcases Assoc.mem_insert member with rfl | member
    · exact own
    · exact filed.1 entry member
  · rw [Assoc.keys_insert]
    split
    · exact filed.2
    · next absent => exact List.nodup_append.mpr ⟨filed.2, by simp, by
        intro present member other last
        rw [List.mem_singleton.mp last]
        rintro rfl
        exact absent member⟩

namespace Simulation

variable (sim : Simulation World)

/-- How two evaluations end: both with errors, or both with values of the kind that
`good` relates. -/
def Meets (good : World → Value → Value → Prop) :
    World → Value → State → Value → State → Prop :=
  fun world value after other final =>
    (value.isError = true ∧ other.isError = true ∧ sim.failed world value after other final) ∨
    (value.isError = false ∧ other.isError = false ∧ good world value other ∧
      sim.state world after final)

abbrev Matches (good : World → Value → Value → Prop) (world : World)
    (left right : Eval Value) (first second : State) : Prop :=
  Simulates world left right first second (sim.Meets good)

/-- Entries of two hashes under construction. -/
def Entry (world : World) (left right : HashKey × Value × Value) : Prop :=
  left.1 = right.1 ∧ sim.value world left.2.1 right.2.1 ∧ sim.value world left.2.2 right.2.2

/-- What the operations keep. -/
structure Lawful : Prop where
  grows {world later value other} :
    world ≤ later → sim.value world value other → sim.value later value other
  tag {world value other} : sim.value world value other → value.tag = other.tag
  truth {world value other} : sim.value world value other → value.isTruthy = other.isTruthy
  key {world value other} : sim.value world value other → value.hashKey? = other.hashKey?
  sound {world value other} : sim.value world value other → value.isError = false
  null {world} : sim.value world .null .null
  boolean {world} (truth : Bool) : sim.value world (.boolean truth) (.boolean truth)
  traced {world first second} (event : Event) :
    sim.state world first second → sim.state world (first.traced event) (second.traced event)
  finished {world value other first second} : sim.value world value other →
    sim.state world first second →
      sim.state world (first.traced (.programFinished value))
        (second.traced (.programFinished other))
  returned {world value other first second} :
    sim.Meets sim.value world value first other second →
      sim.Meets sim.value world value (first.traced (.programReturned value)) other
        (second.traced (.programReturned other))
  counted {world first second} {change : Counters → Counters} (gain : Counters.IsGain change) :
    sim.state world first second → sim.state world (first.counted change) (second.counted change)
  failed_stepped {world value after other final} : sim.failed world value after other final →
    sim.failed world value after.stepped other final.stepped
  failed_interrupted {world value after other final} :
    sim.failed world value after other final →
      sim.failed world value (after.traced (.blockInterrupted .error)) other
        (final.traced (.blockInterrupted .error))
  failed_shown {world serial fault after serial' fault' final} :
    sim.failed world (.error serial fault) after (.error serial' fault') final →
      sim.failed world (.error serial fault) (after.traced (.programFailed fault))
        (.error serial' fault') (final.traced (.programFailed fault'))
  fails {world first second} (fault : Fault) : sim.state world first second →
    sim.Matches sim.value world (fail fault) (fail fault) first second
  string {world first second} (text : String) : sim.state world first second →
    sim.Matches sim.value world (makeString text) (makeString text) first second
  array {world first second values others} : List.Forall₂ (sim.value world) values others →
    sim.state world first second →
      sim.Matches sim.value world (makeArray values) (makeArray others) first second
  hash {world first second entries others} : List.Forall₂ (sim.Entry world) entries others →
    Filed entries → sim.state world first second →
      sim.Matches sim.value world (makeHash entries) (makeHash others) first second
  prefixed {world first second value other} (operator : Operator) :
    sim.value world value other → sim.state world first second →
      sim.Matches sim.value world (applyPrefix operator value) (applyPrefix operator other)
        first second
  infixed {world first second value other value' other'} (operator : Operator) :
    sim.value world value other → sim.value world value' other' →
      sim.state world first second →
        sim.Matches sim.value world (applyInfix operator value value')
          (applyInfix operator other other') first second
  indexed {world first second value other value' other'} :
    sim.value world value other → sim.value world value' other' →
      sim.state world first second →
        sim.Matches sim.value world (applyIndex value value') (applyIndex other other')
          first second

/-- What the values of statements may be, beside those of operands. -/
structure Passes (passed : World → Value → Value → Prop) : Prop where
  operand {world value other} : sim.value world value other → passed world value other
  tag {world value other} : passed world value other → value.tag = other.tag
  sound {world value other} : passed world value other → value.isError = false
  unwrapped {world value other first second} : passed world value other →
    sim.state world first second →
      sim.Meets sim.value world value.unwrapped first other.unwrapped second

/-- From `world` on, what a node does beside evaluating its parts is simulated. -/
def Admits (passed : World → Value → Value → Prop) (world : World) (here there : ScopeId) :
    Node → Prop
  | .letStatement name _ => ∀ later value other first second, world ≤ later →
      sim.value later value other → sim.state later first second →
        sim.state later (first.bound here name value) (second.bound there name other)
  | .returnStatement _ => ∀ later value other first second, world ≤ later →
      sim.value later value other → sim.state later first second →
        sim.Matches passed later (make fun serial => .returned serial value)
          (make fun serial => .returned serial other) first second
  | .identifier name => ∀ later first second, world ≤ later → sim.state later first second →
      sim.Matches sim.value later (evalIdentifier name here) (evalIdentifier name there)
        first second
  | .integerLiteral value => ∀ later first second, world ≤ later →
      sim.state later first second →
        sim.Matches sim.value later (makeInteger value) (makeInteger value) first second
  | .functionLiteral parameters body => ∀ later first second, world ≤ later →
      sim.state later first second →
        sim.Matches sim.value later (make fun serial => .function serial parameters body here)
          (make fun serial => .function serial parameters body there) first second
  | .unknown name => ∀ later first second, world ≤ later → sim.state later first second →
      sim.Matches sim.value later (do report (.unknownNodeReached name); fail (.unknownNode name))
        (do report (.unknownNodeReached name); fail (.unknownNode name)) first second
  | _ => True

section Rules
variable {sim} {world : World} {first second : State} {good passed : World → Value → Value → Prop}

theorem Meets.of_good {value other : Value} (sound : value.isError = false)
    (same : value.tag = other.tag) (related : good world value other)
    (held : sim.state world first second) : sim.Meets good world value first other second := by
  have other_sound : other.isError = false := by
    rw [← sound, Bool.eq_iff_iff, Value.isError_iff, Value.isError_iff, same]
  exact .inr ⟨sound, other_sound, related, held⟩

theorem Lawful.meets_value (law : sim.Lawful) {value other : Value}
    (related : sim.value world value other) (held : sim.state world first second) :
    sim.Meets sim.value world value first other second :=
  Meets.of_good (law.sound related) (law.tag related) related held

theorem Lawful.stepped (law : sim.Lawful) (held : sim.state world first second) :
    sim.state world first.stepped second.stepped :=
  law.counted .statement held

theorem Passes.meets (passes : sim.Passes passed) {value other : Value}
    (related : passed world value other) (held : sim.state world first second) :
    sim.Meets passed world value first other second :=
  Meets.of_good (passes.sound related) (passes.tag related) related held

theorem Matches.weaken (passes : sim.Passes passed) {left right : Eval Value}
    (run : sim.Matches sim.value world left right first second) :
    sim.Matches passed world left right first second := by
  apply Simulates.mono run
  rintro later value after other final _ (failure | ⟨sound, other_sound, related, held⟩)
  · exact .inl failure
  · exact .inr ⟨sound, other_sound, passes.operand related, held⟩

/-- An error of the operand is handed on; any other value reaches what follows. -/
theorem Matches.operand {left right : Eval Value} {next next' : Value → Eval Value}
    (head : sim.Matches sim.value world left right first second)
    (tail : ∀ later value after other final, world ≤ later → sim.value later value other →
      sim.state later after final →
        sim.Matches good later (next value) (next' other) after final) :
    sim.Matches good world (Eval.operand left next) (Eval.operand right next') first second := by
  refine Simulates.bind (Simulates.mono head ?_)
  rintro later value after other final le (failure | ⟨sound, other_sound, related, held⟩)
  · rw [if_pos failure.1, if_pos failure.2.1]
    exact Simulates.done rfl rfl (.inl failure)
  · rw [if_neg (by simp [sound]), if_neg (by simp [other_sound])]
    exact tail later value after other final le related held

theorem Matches.operands (law : sim.Lawful) {left right : Node → Eval Value} {nodes : List Node}
    {next next' : List Value → Eval Value}
    (each : ∀ node ∈ nodes, ∀ later after final, world ≤ later → sim.state later after final →
      sim.Matches sim.value later (left node) (right node) after final)
    (tail : ∀ later values after others final, world ≤ later →
      List.Forall₂ (sim.value later) values others → sim.state later after final →
        sim.Matches good later (next values) (next' others) after final)
    (held : sim.state world first second) :
    sim.Matches good world (Eval.operands left nodes next) (Eval.operands right nodes next')
      first second := by
  induction nodes generalizing world first second next next' with
  | nil => exact tail world [] first [] second le_rfl .nil held
  | cons node rest ih =>
      apply Matches.operand (each node (by simp) world first second le_rfl held)
      intro later value after other final le related held
      apply ih _ _ held
      · intro node member last after final le' held
        exact each node (by simp [member]) last after final (le_trans le le') held
      · intro last values after others final le' relateds held
        -- the first value was related before the others were evaluated
        exact tail last _ after _ final (le_trans le le')
          (.cons (law.grows le' related) relateds) held

theorem entries_insert {slot : HashKey} {key key' value value' : Value}
    {entries others : List (HashKey × Value × Value)}
    (keys : sim.value world key key') (values : sim.value world value value')
    (related : List.Forall₂ (sim.Entry world) entries others) :
    List.Forall₂ (sim.Entry world) (Assoc.insert slot (key, value) entries)
      (Assoc.insert slot (key', value') others) := by
  have matched : Assoc.Matched (fun (pair pair' : Value × Value) =>
      sim.value world pair.1 pair'.1 ∧ sim.value world pair.2 pair'.2) entries others := related
  exact matched.insert ⟨keys, values⟩ slot

theorem Lawful.entries_grow (law : sim.Lawful) {later : World} (le : world ≤ later)
    {entries others : List (HashKey × Value × Value)}
    (related : List.Forall₂ (sim.Entry world) entries others) :
    List.Forall₂ (sim.Entry later) entries others :=
  related.imp fun _ _ entry => ⟨entry.1, law.grows le entry.2.1, law.grows le entry.2.2⟩

theorem Matches.pairs (law : sim.Lawful) {left right : Node → Eval Value}
    {pairs : List (Node × Node)} {entries others : List (HashKey × Value × Value)}
    (each : ∀ node ∈ pairs.flatMap fun pair => [pair.1, pair.2], ∀ later after final,
      world ≤ later → sim.state later after final →
        sim.Matches sim.value later (left node) (right node) after final)
    (related : List.Forall₂ (sim.Entry world) entries others)
    (filed : Filed entries) (held : sim.state world first second) :
    sim.Matches sim.value world (evalPairs left pairs entries) (evalPairs right pairs others)
      first second := by
  induction pairs generalizing world first second entries others with
  | nil => exact law.hash related filed held
  | cons pair rest ih =>
      rcases pair with ⟨keyNode, valueNode⟩
      apply Matches.operand (each keyNode (by simp) world first second le_rfl held)
      intro keyed key after key' final le keys held
      -- both sides file the pair under the same key, or both keys are unhashable
      simp only [← law.key keys, ← law.tag keys]
      cases own : key.hashKey? with
      | none => exact law.fails _ held
      | some slot =>
          apply Matches.operand (each valueNode (by simp) keyed after final le held)
          intro valued value after value' final le' values held
          have grown := law.entries_grow (le_trans le le') related
          apply ih _ (entries_insert (law.grows le' keys) values grown)
            (filed_insert filed own) held
          intro node member last after final le'' held
          have among : node ∈ ((keyNode, valueNode) :: rest).flatMap fun pair => [pair.1, pair.2] :=
            List.mem_append_right _ member
          exact each node among last after final (le_trans le (le_trans le' le'')) held

/-- Statements of a block. `result` is the value of the last one before them. -/
theorem Matches.block (law : sim.Lawful) (passes : sim.Passes passed)
    {left right : Node → Eval Value} {statements : List Node} {result other : Value}
    (each : ∀ statement ∈ statements, ∀ later after final, world ≤ later →
      sim.state later after final →
        sim.Matches passed later (left statement) (right statement) after final)
    (related : passed world result other) (held : sim.state world first second) :
    sim.Matches passed world (runBlock left result statements) (runBlock right other statements)
      first second := by
  induction statements generalizing world first second result other with
  | nil => exact Simulates.done rfl rfl (passes.meets related held)
  | cons statement rest ih =>
      refine Simulates.bind (Simulates.mono
        (each statement (by simp) world first second le_rfl held) ?_)
      rintro later value after other final le (⟨failure, failure', failed⟩ | ⟨_, _, related, held⟩)
      · apply Simulates.step (countStatement_run _) (countStatement_run _)
        have interrupts := (value.isInterrupt_iff).mpr (.inr ((value.isError_iff).mp failure))
        have interrupts' := (other.isInterrupt_iff).mpr (.inr ((other.isError_iff).mp failure'))
        rw [if_pos interrupts, if_pos interrupts', (value.isError_iff).mp failure,
          (other.isError_iff).mp failure']
        exact Simulates.done rfl rfl
          (.inl ⟨failure, failure', law.failed_interrupted (law.failed_stepped failed)⟩)
      · apply Simulates.step (countStatement_run _) (countStatement_run _)
        have held := law.stepped held
        -- returned values are told from others by their tags, which agree
        have same := passes.tag related
        have interrupts : value.isInterrupt = other.isInterrupt := by
          rw [Bool.eq_iff_iff, Value.isInterrupt_iff, Value.isInterrupt_iff, same]
        rw [← interrupts, ← same]
        cases value.isInterrupt with
        | true => exact Simulates.done rfl rfl (passes.meets related (law.traced _ held))
        | false =>
            apply ih _ related held
            intro statement member last after final le' held
            exact each statement (by simp [member]) last after final (le_trans le le') held

/-- Statements of a program. What a returned value wraps is the value of the program. -/
theorem Matches.program (law : sim.Lawful) (passes : sim.Passes passed)
    {left right : Node → Eval Value} {statements : List Node} {position : Nat}
    {result other : Value}
    (each : ∀ statement ∈ statements, ∀ later after final, world ≤ later →
      sim.state later after final →
        sim.Matches passed later (left statement) (right statement) after final)
    (related : sim.value world result other) (held : sim.state world first second) :
    sim.Matches sim.value world (runProgram left position result statements)
      (runProgram right position other statements) first second := by
  induction statements generalizing world first second result other position with
  | nil =>
      exact Simulates.step (trace_run _ _) (trace_run _ _)
        (Simulates.done rfl rfl (law.meets_value related (law.finished related held)))
  | cons statement rest ih =>
      rw [runProgram_cons, runProgram_cons]
      apply Simulates.step (trace_run _ _) (trace_run _ _)
      refine Simulates.bind (Simulates.mono
        (each statement (by simp) world _ _ le_rfl (law.traced _ held)) ?_)
      rintro later value after other final le (⟨failure, failure', failed⟩ | ⟨_, _, related, held⟩)
      · apply Simulates.step (countStatement_run _) (countStatement_run _)
        obtain ⟨serial, fault, rfl⟩ := Value.eq_error failure
        obtain ⟨serial', fault', rfl⟩ := Value.eq_error failure'
        exact Simulates.step (trace_run _ _) (trace_run _ _) (Simulates.done rfl rfl
          (.inl ⟨rfl, rfl, law.failed_shown (law.failed_stepped failed)⟩))
      · apply Simulates.step (countStatement_run _) (countStatement_run _)
        have held := law.stepped held
        have same := passes.tag related
        -- what is left when the wrapper is taken off is fit to be the value of the program
        have inner_meets := passes.unwrapped related held
        by_cases wrapped : value.tag = .returned
        · obtain ⟨serial, inner, rfl⟩ := Value.eq_returned wrapped
          obtain ⟨serial', inner', rfl⟩ := Value.eq_returned (same.symm.trans wrapped)
          exact Simulates.step (trace_run _ _) (trace_run _ _)
            (Simulates.done rfl rfl (law.returned inner_meets))
        · have calm : value.isInterrupt = false := by
            rw [Bool.eq_false_iff, ne_eq, Value.isInterrupt_iff, not_or, ← Value.isError_iff,
              passes.sound related]
            exact ⟨wrapped, Bool.false_ne_true⟩
          have calm' : other.isInterrupt = false := by
            rw [← calm, Bool.eq_iff_iff, Value.isInterrupt_iff, Value.isInterrupt_iff, same]
          rw [settle_calm calm, settle_calm calm']
          rw [Value.unwrapped_of_calm calm, Value.unwrapped_of_calm calm'] at inner_meets
          have inner_related := (inner_meets.resolve_left fun failure => by
            rw [passes.sound related] at failure
            cases failure.1).2.2.1
          apply ih _ inner_related held
          intro statement member last after final le' held
          exact each statement (by simp [member]) last after final (le_trans le le') held

/-- Two evaluators that simulate each other on the parts of a node do so on the node. -/
theorem Matches.node (law : sim.Lawful) (passes : sim.Passes passed)
    {left right : Node → ScopeId → Eval Value} {here there : ScopeId} {node : Node}
    (admits : sim.Admits passed world here there node)
    (operands : ∀ child ∈ node.operands, ∀ later after final, world ≤ later →
      sim.state later after final →
        sim.Matches sim.value later (left child here) (right child there) after final)
    (steps : ∀ child ∈ node.steps, ∀ later after final, world ≤ later →
      sim.state later after final →
        sim.Matches passed later (left child here) (right child there) after final)
    (calls : ∀ later callee other arguments others after final, world ≤ later →
      sim.value later callee other → List.Forall₂ (sim.value later) arguments others →
        sim.state later after final →
          sim.Matches sim.value later (applyFunction left callee arguments)
            (applyFunction right other others) after final)
    (held : sim.state world first second) :
    sim.Matches passed world (evalNode left node here) (evalNode right node there)
      first second := by
  cases node with
  | program statements =>
      exact Simulates.step (trace_run _ _) (trace_run _ _)
        ((Matches.program law passes steps law.null (law.traced _ held)).weaken passes)
  | letStatement name value =>
      apply Simulates.step (trace_run _ _) (trace_run _ _)
      apply Matches.operand
        (operands value (by simp [Node.operands]) world _ _ le_rfl (law.traced _ held))
      intro later value after other final le related held
      have bound := admits later value other after final le related held
      exact Simulates.step (bind_run _ _ _ _) (bind_run _ _ _ _)
        (Simulates.done rfl rfl (passes.meets (passes.operand law.null) bound))
  | returnStatement value =>
      apply Matches.operand (operands value (by simp [Node.operands]) world _ _ le_rfl held)
      intro later value after other final le related held
      exact admits later value other after final le related held
  | expressionStatement expression =>
      exact steps expression (by simp [Node.steps]) world _ _ le_rfl held
  | blockStatement statements =>
      apply Simulates.step (trace_run _ _) (trace_run _ _)
      apply Simulates.step (count_run _ _) (count_run _ _)
      exact Matches.block law passes steps (passes.operand law.null)
        (law.counted (.block _) (law.traced _ held))
  | identifier name => exact (admits world first second le_rfl held).weaken passes
  | integerLiteral value => exact (admits world first second le_rfl held).weaken passes
  | stringLiteral text => exact (law.string text held).weaken passes
  | booleanLiteral value =>
      exact Simulates.done rfl rfl (passes.meets (passes.operand (law.boolean value)) held)
  | prefixExpression operator right =>
      apply Matches.weaken passes
      apply Simulates.step (trace_run _ _) (trace_run _ _)
      apply Matches.operand
        (operands right (by simp [Node.operands]) world _ _ le_rfl (law.traced _ held))
      intro later value after other final _ related held
      exact law.prefixed operator related held
  | infixExpression left operator right =>
      apply Matches.weaken passes
      apply Simulates.step (trace_run _ _) (trace_run _ _)
      apply Matches.operand
        (operands left (by simp [Node.operands]) world _ _ le_rfl (law.traced _ held))
      intro later value after other final le related held
      apply Matches.operand (operands right (by simp [Node.operands]) later _ _ le held)
      intro last value' after other' final le' related' held
      exact law.infixed operator (law.grows le' related) related' held
  | ifExpression condition consequence alternative =>
      apply Simulates.step (trace_run _ _) (trace_run _ _)
      apply Matches.operand
        (operands condition (by simp [Node.operands]) world _ _ le_rfl (law.traced _ held))
      intro later value after other final le related held
      rw [← law.truth related]
      cases value.isTruthy with
      | true =>
          exact Simulates.step (trace_run _ _) (trace_run _ _)
            (steps consequence (by simp [Node.steps]) later _ _ le (law.traced _ held))
      | false =>
          cases alternative with
          | some alternative =>
              exact Simulates.step (trace_run _ _) (trace_run _ _)
                (steps alternative (by simp [Node.steps]) later _ _ le (law.traced _ held))
          | none =>
              exact Simulates.step (trace_run _ _) (trace_run _ _) (Simulates.done rfl rfl
                (passes.meets (passes.operand law.null) (law.traced _ held)))
  | functionLiteral parameters body => exact (admits world first second le_rfl held).weaken passes
  | callExpression callee arguments =>
      apply Matches.weaken passes
      apply Simulates.step (trace_run _ _) (trace_run _ _)
      apply Matches.operand
        (operands callee (by simp [Node.operands]) world _ _ le_rfl (law.traced _ held))
      intro later callee after other final le related held
      refine Matches.operands law ?_ ?_ held
      · intro node member last after final le' held
        exact operands node (by simp [Node.operands, member]) last _ _ (le_trans le le') held
      · intro last values after others final le' relateds held
        -- the callee was related before the arguments made the world grow
        rw [← relateds.length_eq]
        exact Simulates.step (trace_run _ _) (trace_run _ _)
          (calls last callee other values others _ _ (le_trans le le') (law.grows le' related)
            relateds (law.traced _ held))
  | arrayLiteral elements =>
      apply Matches.weaken passes
      refine Matches.operands law operands ?_ held
      intro later values after others final _ relateds held
      exact law.array relateds held
  | indexExpression left index =>
      apply Matches.weaken passes
      apply Matches.operand (operands left (by simp [Node.operands]) world _ _ le_rfl held)
      intro later value after other final le related held
      apply Matches.operand (operands index (by simp [Node.operands]) later _ _ le held)
      intro last value' after other' final le' related' held
      exact law.indexed (law.grows le' related) related' held
  | hashLiteral pairs =>
      apply Matches.weaken passes
      exact Simulates.step (trace_run _ _) (trace_run _ _)
        (Matches.pairs law operands .nil ⟨by simp, List.nodup_nil⟩ (law.traced _ held))
  | unknown name => exact (admits world first second le_rfl held).weaken passes

end Rules

end Simulation

end Eval

end MonkeyLang
