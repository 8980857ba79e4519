import MonkeyLang.Proofs.Batches
import MonkeyLang.Proofs.Soundness

/-!
First errors. A construct evaluates its operands in order, and the first that comes to an error, or
to a key that cannot be hashed, decides what the construct comes to: whatever stands behind it is
not looked at. So what stands there may be replaced, and so may the branch that an `if` does not
take.
-/

namespace MonkeyLang

/-- A part of a construct that is evaluated in its turn. -/
inductive Operand where
  | plain (node : Node)
  /-- The key of a pair in a hash literal. -/
  | key (node : Node)

def Operand.node : Operand → Node
  | plain node => node
  | key node => node

/-- A value with which a construct goes on to its next operand. -/
def Operand.Admits : Operand → Value → Prop
  | plain _, value => value.isError = false
  | key _, value => value.isError = false ∧ value.hashKey?.isSome = true

/-- The operands of a construct in the order of their evaluation. -/
def Node.ordered : Node → List Operand
  | .hashLiteral pairs => pairs.flatMap fun pair => [.key pair.1, .plain pair.2]
  | node => node.operands.map .plain

theorem State.silenced_failed (state : State) (fault : Fault) :
    (state.failed fault).silenced =
      (state.silenced.counted fun counters =>
        { counters with errors := counters.errors + 1 }).bumped := by
  rw [failed, noted]
  split <;> rfl

theorem State.silenced_announced (state : State) (node : Node) :
    (state.announced node).silenced = state.silenced := by
  cases node <;> first | rfl | exact state.silenced_traced _

theorem State.nextSerial_of_silenced {first second : State}
    (same : first.silenced = second.silenced) : first.nextSerial = second.nextSerial := by
  have serial := congrArg State.nextSerial same
  exact serial

namespace Eval

/-- Operands are evaluated in turn, and the last of them is the first that the construct cannot go
on with. The failure is the error that it comes to, or the one that arises from its value. -/
inductive BreaksOff (scope : ScopeId) : List Operand → State → Value → State → Prop where
  | error {operand before failure after} : Yields operand.node scope before failure after →
      failure.isError = true → BreaksOff scope [operand] before failure after
  | notHashable {node before value after} : Yields node scope before value after →
      value.isError = false → value.hashKey? = none →
        BreaksOff scope [.key node] before (.error after.nextSerial (.notHashable value.tag))
          (after.failed (.notHashable value.tag))
  | later {operand rest before value middle failure after} :
      Yields operand.node scope before value middle → operand.Admits value →
        BreaksOff scope rest middle failure after →
          BreaksOff scope (operand :: rest) before failure after

theorem Yields.unlogged {node : Node} {scope : ScopeId} {first second after : State} {value : Value}
    (yields : Yields node scope first value after) (same : first.silenced = second.silenced) :
    ∃ final, Yields node scope second value final ∧ final.silenced = after.silenced := by
  obtain ⟨depth, run⟩ := yields
  have alike := Unlogged.evalWithin depth node scope first second same
  rw [run, Option.map_some, eq_comm, Option.map_eq_some_iff] at alike
  obtain ⟨⟨other, final⟩, run', ends⟩ := alike
  obtain ⟨rfl, silent⟩ := Prod.ext_iff.mp ends
  exact ⟨final, ⟨depth, run'⟩, silent⟩

namespace BreaksOff

variable {scope : ScopeId} {operands : List Operand} {before after : State} {failure : Value}

theorem isError (breaks : BreaksOff scope operands before failure after) :
    failure.isError = true := by
  induction breaks with
  | error _ failed => exact failed
  | notHashable => rfl
  | later _ _ _ ih => exact ih

theorem ne_nil (breaks : BreaksOff scope operands before failure after) : operands ≠ [] := by
  cases breaks <;> exact List.cons_ne_nil _ _

/-- What was logged before makes no difference. -/
theorem unlogged (breaks : BreaksOff scope operands before failure after) {other : State}
    (same : before.silenced = other.silenced) :
    ∃ final, BreaksOff scope operands other failure final ∧ final.silenced = after.silenced := by
  induction breaks generalizing other with
  | error yields failed =>
      obtain ⟨final, yields, silent⟩ := yields.unlogged same
      exact ⟨final, .error yields failed, silent⟩
  | notHashable yields sound unhashable =>
      obtain ⟨final, yields, silent⟩ := yields.unlogged same
      rw [← State.nextSerial_of_silenced silent]
      refine ⟨_, .notHashable yields sound unhashable, ?_⟩
      rw [State.silenced_failed, State.silenced_failed, silent]
  | later yields admits _ ih =>
      obtain ⟨middle, yields, silent⟩ := yields.unlogged same
      obtain ⟨final, breaks, silent⟩ := ih silent.symm
      exact ⟨final, .later yields admits breaks, silent⟩

/-- How operands run of which all are plain, whatever stands behind them. -/
theorem operandsRun (breaks : BreaksOff scope operands before failure after) {nodes : List Node}
    (begins : operands <+: nodes.map .plain) :
    Semantics.OperandsRun nodes scope before (.error failure) after := by
  induction breaks generalizing nodes with
  | error yields failed =>
      cases nodes with
      | nil => cases List.prefix_nil.mp begins
      | cons node rest =>
          obtain ⟨rfl, -⟩ := List.cons_prefix_cons.mp begins
          exact .fails yields failed
  | notHashable =>
      cases nodes with
      | nil => cases List.prefix_nil.mp begins
      | cons node rest => cases (List.cons_prefix_cons.mp begins).1
  | later yields admits _ ih =>
      cases nodes with
      | nil => cases List.prefix_nil.mp begins
      | cons node rest =>
          obtain ⟨rfl, others⟩ := List.cons_prefix_cons.mp begins
          exact .cons yields admits (ih others)

omit operands after failure in
theorem evalPairs_keyed {depth : Nat} {key value : Node} {rest : List (Node × Node)} {own : Value}
    {slot : HashKey} {keyed : State} (run : evalWithin depth key scope before = some (own, keyed))
    (sound : own.isError = false) (hashes : own.hashKey? = some slot)
    (entries : List (HashKey × Value × Value)) :
    evalPairs (fun child => evalWithin depth child scope) ((key, value) :: rest) entries before =
      operand (evalWithin depth value scope) (fun value =>
        evalPairs (fun child => evalWithin depth child scope) rest
          (Assoc.insert slot (own, value) entries)) keyed := by
  rw [evalPairs, operand_run run sound, hashes]

/-- How the pairs of a hash literal run. -/
theorem pairsRun (breaks : BreaksOff scope operands before failure after)
    {pairs : List (Node × Node)}
    (begins : operands <+: pairs.flatMap fun pair => [.key pair.1, .plain pair.2]) :
    Finally fun depth => ∀ entries,
      evalPairs (fun child => evalWithin depth child scope) pairs entries before =
        some (failure, after) := by
  induction pairs generalizing operands before with
  | nil => exact absurd (List.prefix_nil.mp begins) breaks.ne_nil
  | cons pair rest ih =>
      cases breaks with
      | error yields failed =>
          obtain ⟨rfl, -⟩ := List.cons_prefix_cons.mp begins
          refine yields.eventually.mono fun depth run entries => ?_
          exact operand_failed run failed
      | notHashable yields sound unhashable =>
          obtain ⟨same, -⟩ := List.cons_prefix_cons.mp begins
          cases same
          refine yields.eventually.mono fun depth run entries => ?_
          rw [evalPairs, operand_run run sound, unhashable]
          exact fail_run _ _
      | later yields admits breaks =>
          obtain ⟨rfl, others⟩ := List.cons_prefix_cons.mp begins
          obtain ⟨sound, hashable⟩ := admits
          obtain ⟨slot, keyed⟩ := Option.isSome_iff_exists.mp hashable
          cases breaks with
          | error yields' failed =>
              obtain ⟨rfl, -⟩ := List.cons_prefix_cons.mp others
              refine (yields.eventually.and yields'.eventually).mono ?_
              rintro depth ⟨run, run'⟩ entries
              exact (evalPairs_keyed run sound keyed entries).trans (operand_failed run' failed)
          | notHashable => cases (List.cons_prefix_cons.mp others).1
          | later yields' admits breaks =>
              obtain ⟨rfl, behind⟩ := List.cons_prefix_cons.mp others
              refine ((yields.eventually.and yields'.eventually).and (ih breaks behind)).mono ?_
              rintro depth ⟨⟨run, run'⟩, rest_run⟩ entries
              exact (evalPairs_keyed run sound keyed entries).trans
                ((operand_run run' admits).trans (rest_run _))

theorem yields_strict (breaks : BreaksOff scope operands before failure after) {node : Node}
    (strict : node.isStrict = true) (begins : operands <+: node.operands.map .plain) :
    ∃ last, Yields node scope before failure last ∧ last.silenced = after.silenced := by
  obtain ⟨last, breaks, silent⟩ := breaks.unlogged (before.silenced_announced node).symm
  exact ⟨last, Semantics.yields_strict strict (breaks.operandsRun begins) (.of_all fun _ => rfl),
    silent⟩

theorem yields_hash (breaks : BreaksOff scope operands before failure after)
    {pairs : List (Node × Node)} (begins : operands <+: (Node.hashLiteral pairs).ordered) :
    ∃ last, Yields (.hashLiteral pairs) scope before failure last ∧
      last.silenced = after.silenced := by
  obtain ⟨last, breaks, silent⟩ :=
    breaks.unlogged (before.silenced_traced (.hashStarted pairs.length)).symm
  refine ⟨last, Semantics.yields_of_node ?_, silent⟩
  refine (breaks.pairsRun begins).mono fun depth run => ?_
  exact (bind_run_of (trace_run _ _)).trans (run [])

/-- A construct ends where its operands break off, whatever there is behind them. -/
theorem yields (breaks : BreaksOff scope operands before failure after) {node : Node}
    (begins : operands <+: node.ordered) :
    ∃ last, Yields node scope before failure last ∧ last.silenced = after.silenced := by
  cases node with
  | hashLiteral pairs => exact breaks.yields_hash begins
  | letStatement | returnStatement | prefixExpression | infixExpression | ifExpression
  | callExpression | arrayLiteral | indexExpression => exact breaks.yields_strict rfl begins
  | _ => exact absurd (List.prefix_nil.mp begins) breaks.ne_nil

end BreaksOff

section Branches
variable {scope : ScopeId} {condition : Node} {truth : Value} {before middle : State}

/-- An `if` whose condition is evaluated goes on with the branch only. -/
theorem if_congr {consequence consequence' : Node} {alternative alternative' : Option Node}
    (yields : Yields condition scope before truth middle)
    (same : ∀ depth after, branch (fun child => evalWithin depth child scope) consequence
      alternative truth after =
        branch (fun child => evalWithin depth child scope) consequence' alternative' truth after)
    (depth : Nat) :
    evalWithin depth (.ifExpression condition consequence alternative) scope before =
      evalWithin depth (.ifExpression condition consequence' alternative') scope before := by
  cases depth with
  | zero => rfl
  | succ depth =>
      obtain ⟨final, yields', -⟩ :=
        yields.unlogged (before.silenced_traced .conditionStarted).symm
      have parts (consequence : Node) (alternative : Option Node) :
          evalWithin (depth + 1) (.ifExpression condition consequence alternative) scope before =
            operand (evalWithin depth condition scope)
              (branch (fun child => evalWithin depth child scope) consequence alternative)
              (before.traced .conditionStarted) := bind_run_of (trace_run _ _)
      rw [parts, parts]
      cases run : evalWithin depth condition scope (before.traced .conditionStarted) with
      | none => rw [operand, operand, bind_run_none run, bind_run_none run]
      | some ended =>
          obtain ⟨value, after⟩ := ended
          obtain ⟨rfl, -⟩ := yields'.unique ⟨depth, run⟩
          cases failed : truth.isError with
          | true => rw [operand_failed run failed, operand_failed run failed]
          | false => rw [operand_run run failed, operand_run run failed, same]

end Branches

/-- The first error among the operands of a construct, or the first key that cannot be hashed,
decides the result, and nothing behind it is evaluated: with the same operands up to there, two
constructs end with the same error, the same scopes and the same counters. Of the branches of an
`if` only the one that is taken matters. -/
theorem first_error_decides (scope : ScopeId) (before : State) :
    (∀ operands failure after, BreaksOff scope operands before failure after →
      failure.isError = true ∧ ∀ node other : Node, operands <+: node.ordered →
        operands <+: other.ordered → ∃ last last', Yields node scope before failure last ∧
          Yields other scope before failure last' ∧ last.silenced = after.silenced ∧
          last'.silenced = after.silenced) ∧
    ∀ condition truth middle, Yields condition scope before truth middle →
      (truth.isTruthy = true → ∀ consequence alternative other depth,
        evalWithin depth (.ifExpression condition consequence alternative) scope before =
          evalWithin depth (.ifExpression condition consequence other) scope before) ∧
      (truth.isTruthy = false → ∀ consequence other alternative depth,
        evalWithin depth (.ifExpression condition consequence alternative) scope before =
          evalWithin depth (.ifExpression condition other alternative) scope before) := by
  refine ⟨fun operands failure after breaks => ⟨breaks.isError, ?_⟩, ?_⟩
  · intro node other begins begins'
    obtain ⟨last, yields, silent⟩ := breaks.yields begins
    obtain ⟨last', yields', silent'⟩ := breaks.yields begins'
    exact ⟨last, last', yields, yields', silent, silent'⟩
  · intro condition truth middle yields
    constructor
    · intro truthy consequence alternative other
      refine if_congr yields fun depth after => ?_
      rw [branch_truthy _ truthy, branch_truthy _ truthy]
    · intro falsy consequence other alternative
      refine if_congr yields fun depth after => ?_
      cases alternative with
      | none => rw [branch_none falsy, branch_none falsy]
      | some alternative => rw [branch_some falsy, branch_some falsy]

/-- `(fn(a) { a })(x, ...)` -/
def unboundArgument (more : List Node) : Node :=
  .callExpression (.functionLiteral ["a"] (.identifier "a")) (.identifier "x" :: more)

/-- `{[]: value, ...}` -/
def arrayAsKey (value : Node) (more : List (Node × Node)) : Node :=
  .hashLiteral ((.arrayLiteral [], value) :: more)

/-- A name that is not bound is the error of its call, whether the number of arguments is right or
not; a key that cannot be hashed is that of its hash literal, whatever its value is. -/
theorem first_error_decides_unboundArgument :
    (∃ after last last',
      BreaksOff 0 [.plain (.functionLiteral ["a"] (.identifier "a")), .plain (.identifier "x")]
        State.initial (.error 1 (.unboundIdentifier "x")) after ∧
      Yields (unboundArgument []) 0 State.initial (.error 1 (.unboundIdentifier "x")) last ∧
      Yields (unboundArgument [.identifier "y", .integerLiteral 2]) 0 State.initial
        (.error 1 (.unboundIdentifier "x")) last' ∧
      last.silenced = last'.silenced) ∧
    (∃ after last last',
      BreaksOff 0 [.key (.arrayLiteral [])] State.initial (.error 1 (.notHashable .array)) after ∧
      Yields (arrayAsKey (.integerLiteral 1) []) 0 State.initial
        (.error 1 (.notHashable .array)) last ∧
      Yields (arrayAsKey (.identifier "y") [(.identifier "z", .integerLiteral 2)]) 0 State.initial
        (.error 1 (.notHashable .array)) last' ∧
      last.silenced = last'.silenced) ∧
    evalWithin 2 (.ifExpression (.booleanLiteral true) (.integerLiteral 1) none) 0 State.initial =
      evalWithin 2 (.ifExpression (.booleanLiteral true) (.integerLiteral 1)
        (some (.identifier "x"))) 0 State.initial := by
  obtain ⟨decides, branches⟩ := first_error_decides 0 State.initial
  refine ⟨?_, ?_, ?_⟩
  · obtain ⟨after, breaks⟩ : ∃ after, BreaksOff 0
        [.plain (.functionLiteral ["a"] (.identifier "a")), .plain (.identifier "x")]
        State.initial (.error 1 (.unboundIdentifier "x")) after :=
      ⟨_, .later ⟨1, rfl⟩ rfl (.error ⟨1, rfl⟩ rfl)⟩
    obtain ⟨-, alike⟩ := decides _ _ _ breaks
    obtain ⟨last, last', yields, yields', same, same'⟩ := alike (unboundArgument [])
      (unboundArgument [.identifier "y", .integerLiteral 2]) ⟨_, rfl⟩ ⟨_, rfl⟩
    exact ⟨after, last, last', breaks, yields, yields', same.trans same'.symm⟩
  · have array : Yields (.arrayLiteral []) 0 State.initial (.array 0 []) State.initial.bumped :=
      ⟨2, rfl⟩
    have breaks : BreaksOff 0 [.key (.arrayLiteral [])] State.initial
        (.error 1 (.notHashable .array)) (State.initial.bumped.failed (.notHashable .array)) :=
      .notHashable array rfl rfl
    obtain ⟨-, alike⟩ := decides _ _ _ breaks
    obtain ⟨last, last', yields, yields', same, same'⟩ := alike
      (arrayAsKey (.integerLiteral 1) [])
      (arrayAsKey (.identifier "y") [(.identifier "z", .integerLiteral 2)]) ⟨_, rfl⟩ ⟨_, rfl⟩
    exact ⟨_, last, last', breaks, yields, yields', same.trans same'.symm⟩
  · exact (branches (.booleanLiteral true) (.boolean true) _ ⟨1, rfl⟩).1 rfl _ _ _ 2

end Eval

end MonkeyLang
