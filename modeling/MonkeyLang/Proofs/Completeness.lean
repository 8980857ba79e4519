import MonkeyLang.Proofs.Errors
import MonkeyLang.Proofs.Soundness

/-!
Whatever evaluation computes, the rules derive, provided that trees come from documents and that
no function of a host can be reached. With soundness this makes the rules and the evaluator
two descriptions of the same outcomes, of which there is at most one.
-/

namespace MonkeyLang

/-- A part of a value that the rules are about. -/
def Value.Supported (part : Value) : Prop :=
  part.isNative = true ∧ ∀ serial parameters body scope,
    part = .function serial parameters body scope → body.wellFormed = true

namespace Eval.Support

theorem containers : Value.HoldsOfContainers Value.Supported where
  array _ _ := ⟨rfl, by rintro _ _ _ _ ⟨⟩⟩
  hash _ _ := ⟨rfl, by rintro _ _ _ _ ⟨⟩⟩

theorem atom {value : Value} (atom : value.IsAtom) (native : value.isNative = true)
    (plain : value.tag ≠ .function) : value.Throughout Value.Supported := by
  refine (Value.throughout_atom atom).mpr ⟨native, ?_⟩
  rintro serial parameters body scope rfl
  exact absurd rfl plain

theorem returned_iff {serial : Nat} {value : Value} :
    (Value.returned serial value).Throughout Value.Supported ↔
      value.Throughout Value.Supported := by
  rw [Value.throughout_returned]
  exact and_iff_right ⟨rfl, by rintro _ _ _ _ ⟨⟩⟩

/-- Whatever is made from trees that documents describe is supported. -/
def invariant : Invariant where
  state state := state.Throughout Value.Supported
  value value := value.Throughout Value.Supported
  failed _ state := state.Throughout Value.Supported
  node _ node _ := node.wellFormed = true

theorem settles {state : State} (held : state.Throughout Value.Supported) {value : Value}
    (supported : value.Throughout Value.Supported) : invariant.Settles state value := by
  cases value with
  | error serial fault => exact held
  | _ => exact supported

theorem lawful : invariant.Lawful where
  traced event held := held.traced event
  counted _ held := held
  bumped held := held
  fails _ held := held.of_scopes (State.failed_scopes ..)
  failed_stepped held := held
  failed_traced event held := held.traced event
  raised known _ := absurd known.whole.1 Bool.false_ne_true
  unknown formed _ := by cases formed
  null := atom trivial rfl (by simp [Value.tag])
  boolean _ := atom trivial rfl (by simp [Value.tag])
  string _ _ := atom trivial rfl (by simp [Value.tag])
  wrapped _ _ := atom trivial rfl (by simp [Value.tag])
  measured _ _ _ := atom trivial rfl (by simp [Value.tag])
  array _ holds := containers.array_iff.mpr fun value member => (holds value member).2
  hash _ _ holds := containers.hash_iff.mpr fun entry member =>
    ⟨(holds entry member).1.2, (holds entry member).2.2⟩
  element supported held value member :=
    settles held (containers.array_iff.mp supported value member)
  tail fresh supported := containers.tail supported fresh
  pushed fresh supported _ item := containers.pushed supported item fresh
  entry supported held entry member :=
    settles held (containers.hash_iff.mp supported entry member).2
  inner supported held := settles held (returned_iff.mp supported)
  operand formed child member := Node.wellFormed_operand formed child member
  step formed child member := Node.wellFormed_step formed child member
  found _ held bound := settles held (held.lookup? bound)
  builtin _ _ := atom trivial rfl (by simp [Value.tag])
  integer _ _ := atom trivial rfl (by simp [Value.tag])
  function serial formed := by
    refine (Value.throughout_atom ?_).mpr ⟨rfl, ?_⟩
    · trivial
    · rintro serial parameters body scope ⟨⟩
      exact Node.wellFormed_body formed
  returned _ _ _ supported := .inr (returned_iff.mpr supported)
  bound _ _ supported held := held.bound supported _ _
  entered callee holds _ held :=
    ⟨held.entered _ fun binding member => (holds binding.2 (List.of_mem_zip member).2).2,
      callee.whole.2 _ _ _ _ rfl⟩

theorem finished {depth : Nat} {node : Node} {scope : ScopeId} {before after : State}
    {value : Value} (held : before.Throughout Value.Supported) (formed : node.wellFormed = true)
    (run : evalWithin depth node scope before = some (value, after)) :
    after.Throughout Value.Supported ∧ value.Throughout Value.Supported := by
  have allowed : invariant.node false node scope := formed
  rcases lawful.finished allowed held run with
    ⟨serial, fault, rfl, held⟩ | ⟨-, held, supported | ⟨impossible, -⟩⟩
  · exact ⟨held, atom trivial rfl (by simp [Value.tag])⟩
  · exact ⟨held, supported⟩
  · cases impossible

end Eval.Support

namespace Semantics

open Eval

/-- Where a node may be evaluated: in a scope that is there, in a state that can arise and whose
values are supported. -/
structure Scene (home : ScopeId) (state : State) : Prop where
  coherent : state.Coherent
  present : home < state.scopes.next
  supported : state.Throughout Value.Supported

/-- What a value has to be for being called or handed over. -/
structure Usable (state : State) (value : Value) : Prop where
  known : state.Knows value
  supported : value.Throughout Value.Supported

variable {depth : Nat} {home : ScopeId} {before middle after : State} {node : Node} {value : Value}

theorem Usable.mono (usable : Usable before value) (earlier : before.Precedes after) :
    Usable after value :=
  ⟨usable.known.mono earlier, usable.supported⟩

theorem Scene.of_store (scene : Scene home before) (same : after.store = before.store) :
    Scene home after := by
  have scopes : after.scopes = before.scopes := congrArg Store.scopes same
  exact ⟨scene.coherent.of_store same, scopes ▸ scene.present, scene.supported.of_scopes scopes⟩

theorem Scene.traced (scene : Scene home before) (event : Event) :
    Scene home (before.traced event) :=
  scene.of_store (before.traced_store event)

theorem Scene.later (scene : Scene home before) (formed : node.wellFormed = true)
    (run : evalWithin depth node home before = some (value, after)) :
    Scene home after ∧ Usable after value ∧ before.Precedes after := by
  obtain ⟨coherent, known, earlier⟩ := evalWithin_coherent scene.coherent scene.present run
  obtain ⟨held, supported⟩ := Support.finished scene.supported formed run
  exact ⟨⟨coherent, Nat.lt_of_lt_of_le scene.present earlier.scopes, held⟩, ⟨known, supported⟩,
    earlier⟩

/-- The scene in which the body of a called function runs. -/
theorem Scene.called {serial : Nat} {parameters : List String} {body : Node} {closure : ScopeId}
    {arguments : List Value} (coherent : before.Coherent)
    (supported : before.Throughout Value.Supported)
    (callable : Usable before (.function serial parameters body closure))
    (usable : ∀ argument ∈ arguments, Usable before argument) :
    Scene before.scopes.next (before.called closure parameters arguments) := by
  have standing := standing_called rfl coherent callable.known
    fun argument member => (usable argument member).known
  have bound : ∀ binding ∈ parameters.zip arguments, binding.2.Throughout Value.Supported :=
    fun binding member => (usable binding.2 (List.of_mem_zip member).2).supported
  have scopes : (before.called closure parameters arguments).scopes =
      (before.entered closure (parameters.zip arguments)).scopes := State.noted_scopes ..
  exact ⟨standing.coherent, standing.present, (supported.entered closure bound).of_scopes scopes⟩

/-- Runs to a depth are derivable. -/
def Derivable (depth : Nat) : Prop :=
  ∀ node home before value after, node.wellFormed = true → Scene home before →
    evalWithin depth node home before = some (value, after) →
      Derives node home before.store value after.store

theorem Answer.eq_of_run {answer : Answer} {operation : Eval Value}
    (answers : operation = answer.run) (run : operation before = some (value, after)) :
    value = answer.value before.store ∧ after.store = answer.after before.store := by
  obtain ⟨last, answered, same⟩ := answer.run_store before
  rw [answers] at run
  cases run.symm.trans answered
  exact ⟨rfl, same⟩

section Values
variable {store store' : Store} {values : List Value}

theorem Operands.of_one (ran : Operands [node] home store (.ok values) store') :
    ∃ value, values = [value] ∧ Derives node home store value store' ∧ value.isError = false := by
  cases ran with
  | cons first sound rest =>
      cases rest
      exact ⟨_, rfl, first, sound⟩

theorem Operands.of_two {left right : Node}
    (ran : Operands [left, right] home store (.ok values) store') :
    ∃ first second middle, values = [first, second] ∧
      Derives left home store first middle ∧ first.isError = false ∧
        Derives right home middle second store' ∧ second.isError = false := by
  cases ran with
  | cons first sound rest =>
      obtain ⟨second, rfl, other, other_sound⟩ := rest.of_one
      exact ⟨_, second, _, rfl, first, sound, other, other_sound⟩

end Values

theorem identifier_derivable {name : String} (scene : Scene home before)
    (run : evalIdentifier name home before = some (value, after)) :
    Derives (.identifier name) home before.store value after.store := by
  have nested := scene.coherent.nested
  rcases finds_or_unbound nested name home with ⟨bound, finds⟩ | unbound
  · rw [evalIdentifier_found (finds.lookup? nested)] at run
    cases run
    rw [State.traced_store]
    exact .bound finds
  · have absent := unbound.lookup? nested
    by_cases builtin : ∃ callee : Builtin, callee.name = name
    · obtain ⟨callee, rfl⟩ := builtin
      rw [evalIdentifier_builtin absent] at run
      cases run
      rw [State.traced_store, State.traced_store]
      exact .builtin unbound
    · have unknown := not_exists.mp builtin
      rw [evalIdentifier_unbound absent unknown] at run
      cases run
      rw [State.failed_store, State.traced_store]
      exact .unbound unbound unknown

section Parts
variable (derivable : Derivable depth)
include derivable

theorem operands_derivable {nodes : List Node} {next : List Value → Eval Value}
    (formed : ∀ node ∈ nodes, node.wellFormed = true) (scene : Scene home before)
    (run : operands (fun child => evalWithin depth child home) nodes next before =
      some (value, after)) :
    Operands nodes home before.store (.error value) after.store ∨
      ∃ values middle, Operands nodes home before.store (.ok values) middle.store ∧
        Scene home middle ∧ (∀ value ∈ values, Usable middle value) ∧
        before.Precedes middle ∧ next values middle = some (value, after) := by
  induction nodes generalizing before next with
  | nil => exact .inr ⟨[], before, .nil, scene, by simp, .refl before, run⟩
  | cons node rest ih =>
      obtain ⟨head_formed, rest_formed⟩ := List.forall_mem_cons.mp formed
      rcases exists_of_operand_run run with ⟨failed_run, failed⟩ | ⟨head, middle, first, sound, run⟩
      · exact .inl (.fails (derivable _ _ _ _ _ head_formed scene failed_run) failed)
      · have derives := derivable _ _ _ _ _ head_formed scene first
        obtain ⟨scene, usable, earlier⟩ := scene.later head_formed first
        rcases ih rest_formed scene run with fails | ⟨values, last, others, scene, all, later, run⟩
        · exact .inl (.fails_later derives sound fails)
        · refine .inr ⟨head :: values, last, .cons derives sound others, scene, ?_,
            earlier.trans later, run⟩
          exact List.forall_mem_cons.mpr ⟨usable.mono later, all⟩

theorem applies_derivable {callee : Value} {arguments : List Value} (coherent : before.Coherent)
    (supported : before.Throughout Value.Supported) (callable : Usable before callee)
    (usable : ∀ argument ∈ arguments, Usable before argument)
    (run : call depth callee arguments before = some (value, after)) :
    Applies callee arguments before.store value after.store := by
  cases callee with
  | function serial parameters body closure =>
      by_cases fits : arguments.length = parameters.length
      · rw [call_of_arity_eq fits] at run
        obtain ⟨⟨result, last⟩, body_run, ends⟩ := Option.map_eq_some_iff.mp run
        cases ends
        have scene := Scene.called coherent supported callable usable
        have derives := derivable _ _ _ _ _ (callable.supported.whole.2 _ _ _ _ rfl) scene body_run
        rw [State.called_store] at derives
        by_cases returned : result.tag = .returned
        · obtain ⟨serial', inner, rfl⟩ := Value.eq_returned returned
          exact .body_returns fits derives
        · rw [unwrapped_of_tag returned]
          exact .body_ends fits derives returned
      · rw [call_of_arity_ne fits, fail_run] at run
        cases run
        rw [State.failed_store, State.counted_store]
        exact .wrong_arity fits
  | builtin callee =>
      obtain ⟨answer, rule⟩ := BuiltinAnswer.total callee arguments
      rw [call, applyFunction, bind_run_of (count_run _ _), bind_run_of (trace_run _ _)] at run
      obtain ⟨rfl, same⟩ := Answer.eq_of_run rule.run run
      rw [same, State.traced_store, State.counted_store]
      exact .builtin rule
  -- there is no rule for it, and it cannot be reached
  | failing serial name detail => cases callable.supported.whole.1
  | _ =>
      rw [call_other (by simp [Value.tag]) (by simp [Value.tag]), fail_run] at run
      cases run
      rw [State.failed_store]
      exact .not_a_function (by simp [Value.tag]) (by simp [Value.tag])

theorem branch_derivable {condition consequence : Node} {alternative : Option Node}
    {truth : Value} {store : Store}
    (formed : ∀ child ∈ (Node.ifExpression condition consequence alternative).steps,
      child.wellFormed = true)
    (first : Derives condition home store truth before.store) (sound : truth.isError = false)
    (scene : Scene home before)
    (run : branch (fun child => evalWithin depth child home) consequence alternative truth before =
      some (value, after)) :
    Derives (.ifExpression condition consequence alternative) home store value after.store := by
  cases falsy : truth.isTruthy with
  | true =>
      rw [branch_truthy _ falsy] at run
      have taken := derivable _ _ _ _ _ (formed _ List.mem_cons_self) (scene.traced _) run
      rw [State.traced_store] at taken
      exact .consequence first sound (by simp [falsy_iff, falsy]) taken
  | false =>
      cases alternative with
      | none =>
          rw [branch_none falsy] at run
          cases run
          rw [State.traced_store]
          exact .neither first (falsy_iff.mpr falsy)
      | some alternative =>
          rw [branch_some falsy] at run
          have taken := derivable _ _ _ _ _ (formed alternative (by simp [Node.steps]))
            (scene.traced _) run
          rw [State.traced_store] at taken
          exact .alternative first (falsy_iff.mpr falsy) taken

/-- What a strict node makes of the values of its operands, the rules derive. -/
theorem proceed_derivable {store : Store} {values : List Value} (formed : node.wellFormed = true)
    (strict : node.isStrict = true)
    (ran : Operands node.operands home store (.ok values) before.store) (scene : Scene home before)
    (usable : ∀ value ∈ values, Usable before value)
    (run : proceed (evalWithin depth) home node values before = some (value, after)) :
    Derives node home store value after.store := by
  cases node with
  | letStatement name expression =>
      obtain ⟨result, rfl, derives, sound⟩ := ran.of_one
      cases run
      exact .binding derives sound
  | returnStatement expression =>
      obtain ⟨result, rfl, derives, sound⟩ := ran.of_one
      cases run
      exact .return_ derives sound
  | prefixExpression operator right =>
      obtain ⟨result, rfl, derives, sound⟩ := ran.of_one
      simp only [Node.wellFormed, Bool.and_eq_true, decide_eq_true_eq] at formed
      obtain ⟨answer, rule⟩ := PrefixAnswer.total formed.1 result
      obtain ⟨rfl, same⟩ := Answer.eq_of_run rule.run run
      rw [same]
      exact .prefixed derives sound rule
  | infixExpression left operator right =>
      obtain ⟨first, second, middle, rfl, left, left_sound, right, right_sound⟩ := ran.of_two
      obtain ⟨answer, rule⟩ := InfixAnswer.total operator first second
      obtain ⟨rfl, same⟩ := Answer.eq_of_run rule.run run
      rw [same]
      exact .infixed left left_sound right right_sound rule
  | ifExpression condition consequence alternative =>
      obtain ⟨truth, rfl, derives, sound⟩ := ran.of_one
      exact branch_derivable derivable (Node.wellFormed_step formed) derives sound scene run
  | callExpression callee arguments =>
      cases ran with
      | @cons _ _ _ _ function _ values _ first sound rest =>
          have ready := scene.traced (.argumentsReady values.length)
          have later := before.precedes_traced (.argumentsReady values.length)
          have applied := applies_derivable derivable ready.coherent ready.supported
            ((usable function List.mem_cons_self).mono later)
            (fun value member => (usable value (List.mem_cons_of_mem _ member)).mono later) run
          rw [State.traced_store] at applied
          exact .call first sound rest applied
  | arrayLiteral elements =>
      cases run
      exact .array ran
  | indexExpression left index =>
      obtain ⟨first, second, middle, rfl, left, left_sound, right, right_sound⟩ := ran.of_two
      obtain ⟨answer, rule⟩ := IndexAnswer.total first second
      obtain ⟨rfl, same⟩ := Answer.eq_of_run rule.run run
      rw [same]
      exact .indexed left left_sound right right_sound rule
  | _ => cases strict

theorem block_derivable {statements : List Node} {last : Value}
    (formed : ∀ statement ∈ statements, statement.wellFormed = true) (scene : Scene home before)
    (run : runBlock (fun child => evalWithin depth child home) last statements before =
      some (value, after)) : Sequence statements home last before.store value after.store := by
  induction statements generalizing before last with
  | nil =>
      cases run
      exact .nil
  | cons statement rest ih =>
      obtain ⟨head_formed, rest_formed⟩ := List.forall_mem_cons.mp formed
      obtain ⟨first, middle, ran, -⟩ := exists_of_bind_run run
      have derives := derivable _ _ _ _ _ head_formed scene ran
      cases interrupts : first.isInterrupt with
      | true =>
          rw [runBlock_interrupt ran interrupts] at run
          cases run
          rw [State.traced_store, State.stepped_store]
          exact .ends derives ((Value.isInterrupt_iff _).mp interrupts)
      | false =>
          rw [runBlock_calm ran interrupts] at run
          obtain ⟨plain, sound⟩ := calm_iff.mp interrupts
          have next := (scene.later head_formed ran).1.of_store middle.stepped_store
          have others := ih rest_formed next run
          exact .cons derives plain sound others

/-- A program unwraps the value that its statements end in. -/
theorem program_derivable {statements : List Node} {last : Value} {position : Nat}
    (formed : ∀ statement ∈ statements, statement.wellFormed = true) (scene : Scene home before)
    (unwrapped : last.tag ≠ .returned)
    (run : runProgram (fun child => evalWithin depth child home) position last statements before =
      some (value, after)) :
    ∃ result, Sequence statements home last before.store result after.store ∧
      value = result.unwrapped := by
  induction statements generalizing before last position with
  | nil =>
      rw [runProgram, bind_run_of (trace_run _ _)] at run
      cases run
      rw [State.traced_store]
      exact ⟨_, .nil, (unwrapped_of_tag unwrapped).symm⟩
  | cons statement rest ih =>
      obtain ⟨head_formed, rest_formed⟩ := List.forall_mem_cons.mp formed
      have reached := scene.traced (.statementReached position statement.kind)
      rw [runProgram_cons, bind_run_of (trace_run _ _)] at run
      obtain ⟨first, middle, ran, run⟩ := exists_of_bind_run run
      rw [bind_run_of (countStatement_run _)] at run
      have derives := derivable _ _ _ _ _ head_formed reached ran
      rw [State.traced_store] at derives
      cases interrupts : first.isInterrupt with
      | true =>
          have tags := (Value.isInterrupt_iff _).mp interrupts
          obtain ⟨last, same, ends⟩ := settle_interrupt middle.stepped tags
          rw [ends] at run
          cases run
          rw [same]
          exact ⟨first, .ends derives tags, rfl⟩
      | false =>
          rw [settle_calm interrupts] at run
          obtain ⟨plain, sound⟩ := calm_iff.mp interrupts
          have next := (reached.later head_formed ran).1.of_store middle.stepped_store
          obtain ⟨result, others, rfl⟩ := ih rest_formed next plain run
          exact ⟨result, .cons derives plain sound others, rfl⟩

theorem pairs_derivable {pairs : List (Node × Node)} {entries : Entries}
    (formed : ∀ pair ∈ pairs, pair.1.wellFormed = true ∧ pair.2.wellFormed = true)
    (scene : Scene home before)
    (run : evalPairs (fun child => evalWithin depth child home) pairs entries before =
      some (value, after)) :
    Pairs pairs home entries before.store (.error value) after.store ∨
      ∃ filed middle, Pairs pairs home entries before.store (.ok filed) middle.store ∧
        makeHash filed middle = some (value, after) := by
  induction pairs generalizing before entries with
  | nil => exact .inr ⟨entries, before, .nil, run⟩
  | cons pair rest ih =>
      obtain ⟨⟨key_formed, item_formed⟩, rest_formed⟩ := List.forall_mem_cons.mp formed
      rw [evalPairs] at run
      rcases exists_of_operand_run run with ⟨failed_run, failed⟩ | ⟨own, keyed, first, sound, run⟩
      · exact .inl (.key_fails (derivable _ _ _ _ _ key_formed scene failed_run) failed)
      · have key := derivable _ _ _ _ _ key_formed scene first
        have scene := (scene.later key_formed first).1
        cases hashable : own.hashKey? with
        | none =>
            simp only [hashable, fail_run] at run
            cases run
            rw [State.failed_store]
            exact .inl (.not_hashable key sound hashable)
        | some slot =>
            simp only [hashable] at run
            rcases exists_of_operand_run run with
              ⟨failed_run, failed⟩ | ⟨item, valued, second, item_sound, run⟩
            · exact .inl (.value_fails key sound hashable
                (derivable _ _ _ _ _ item_formed scene failed_run) failed)
            · have value := derivable _ _ _ _ _ item_formed scene second
              rcases ih rest_formed (scene.later item_formed second).1 run with
                fails | ⟨filed, last, others, run⟩
              · exact .inl (.cons key sound hashable value item_sound fails)
              · exact .inr ⟨filed, last, .cons key sound hashable value item_sound others, run⟩

theorem node_derivable (formed : node.wellFormed = true) (scene : Scene home before)
    (run : evalNode (evalWithin depth) node home before = some (value, after)) :
    Derives node home before.store value after.store := by
  cases strict : node.isStrict with
  | true =>
      rw [evalNode_strict _ strict] at run
      have announced := scene.of_store (before.announced_store node)
      rcases operands_derivable derivable (Node.wellFormed_operand formed) announced run with
        fails | ⟨values, middle, ran, scene, usable, -, run⟩
      · rw [State.announced_store] at fails
        exact .operand_fails (by rintro pairs rfl; cases strict) fails
      · rw [State.announced_store] at ran
        exact proceed_derivable derivable formed strict ran scene usable run
  | false =>
      cases node with
      | program statements =>
          rw [evalNode, bind_run_of (trace_run _ _)] at run
          have no_value : Value.null.tag ≠ .returned := by simp [Value.tag]
          obtain ⟨result, ran, rfl⟩ := program_derivable derivable
            (Node.allWellFormed_iff.mp formed) (scene.traced _) no_value run
          rw [State.traced_store] at ran
          by_cases returned : result.tag = .returned
          · obtain ⟨serial, inner, rfl⟩ := Value.eq_returned returned
            exact .program_returns ran
          · rw [unwrapped_of_tag returned]
            exact .program_ends ran returned
      | expressionStatement expression =>
          exact .expression (derivable _ _ _ _ _ formed scene run)
      | blockStatement statements =>
          rw [evalNode, bind_run_of (trace_run _ _), bind_run_of (count_run _ _)] at run
          have ran := block_derivable derivable (Node.allWellFormed_iff.mp formed)
            (scene.of_store (before.opened_store statements.length)) run
          rw [State.opened_store] at ran
          exact .block ran
      | identifier name => exact identifier_derivable scene run
      | integerLiteral number =>
          cases run
          exact .integer
      | stringLiteral text =>
          cases run
          exact .string
      | booleanLiteral truth =>
          cases run
          exact .boolean
      | functionLiteral parameters body =>
          cases run
          exact .function
      | hashLiteral pairs =>
          rw [evalNode, bind_run_of (trace_run _ _)] at run
          rcases pairs_derivable derivable (Node.pairsWellFormed_iff.mp formed)
            (scene.traced _) run with fails | ⟨filed, middle, ran, run⟩
          · rw [State.traced_store] at fails
            exact .hash_fails fails
          · rw [State.traced_store] at ran
            cases run
            exact .hash ran
      | unknown name => cases formed
      | _ => cases strict

end Parts

/-- Whatever evaluation computes, the rules derive. -/
theorem derivable_evalWithin (depth : Nat) : Derivable depth := by
  induction depth with
  | zero =>
      intro node home before value after formed scene run
      cases run
  | succ depth ih =>
      intro node home before value after formed scene run
      exact node_derivable ih formed scene run

/-- `{ -x }` -/
def negativeBody : Node :=
  .blockStatement [.expressionStatement (.prefixExpression .minus (.identifier "x"))]

theorem negativeBody_describable : Document.Describable negativeBody := by
  refine ⟨.object [("node", .string "BlockStatement"), ("statements", .array [
    .object [("node", .string "ExpressionStatement"),
      ("expression", .object [("node", .string "PrefixExpression"), ("operator", .string "-"),
        ("right", .object [("node", .string "Identifier"), ("value", .string "x")])])]])], ?_⟩
  rfl

/-- The state after `let negate = fn(x) { -x }`. -/
def negating : State :=
  State.initial.bumped.bound 0 "negate" (.function 0 ["x"] negativeBody 0)

theorem negating_coherent : negating.Coherent := by
  have run : evalWithin 2 (.letStatement "negate" (.functionLiteral ["x"] negativeBody)) 0
    State.initial = some (.null, negating) := rfl
  exact (evalWithin_coherent State.initial_coherent (by decide) run).1

/-- `negate(5)` -/
def negation : Node :=
  .callExpression (.identifier "negate") [.integerLiteral 5]

theorem negation_describable : Document.Describable negation := by
  refine ⟨.object [("node", .string "CallExpression"),
    ("function", .object [("node", .string "Identifier"), ("value", .string "negate")]),
    ("arguments", .array [
      .object [("node", .string "IntegerLiteral"), ("value", .integer 5)]])], ?_⟩
  rfl

end Semantics

end MonkeyLang
