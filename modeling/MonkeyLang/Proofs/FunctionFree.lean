import MonkeyLang.Proofs.Everywhere
import MonkeyLang.Proofs.Measures
import MonkeyLang.Proofs.Reachable

/-!
Programs without functions. Where a tree has no function literal and no function can be reached,
no call gets to the body of a function, and evaluation goes down the tree and no further: it
ends within the height of the tree, each entry of a list of statements is evaluated at most once
and so is each call. Builtins may be called, kept in arrays and hashes and bound to other names.
-/

namespace MonkeyLang

namespace Node

def isFunctionLiteral : Node → Bool
  | functionLiteral _ _ => true
  | _ => false

def IsFunctionFree (node : Node) : Prop :=
  node.Everywhere fun part => part.isFunctionLiteral = false

/-- The entries of the list of statements that a node has. -/
def listed : Node → Nat
  | program statements => statements.length
  | blockStatement statements => statements.length
  | _ => 0

def called : Node → Nat
  | callExpression _ _ => 1
  | _ => 0

/-- The entries of all lists of statements in a tree. -/
def entries (node : Node) : Nat :=
  node.total listed

/-- The call expressions in a tree. -/
def calls (node : Node) : Nat :=
  node.total called

theorem entries_eq (node : Node) :
    node.entries = node.listed + (node.children.map entries).sum :=
  total_eq listed node

theorem calls_eq (node : Node) : node.calls = node.called + (node.children.map calls).sum :=
  total_eq called node

end Node

namespace Eval

namespace FunctionFree

/-- No function literal is evaluated and no function is called. -/
def terms : Terms where
  fine := Node.IsFunctionFree
  callable _ := False
  block _ := True

theorem terms_lawful : terms.Lawful where
  operand free := Node.Everywhere.operand free
  step free := Node.Everywhere.step free
  literal free := nomatch free.here
  body := False.elim
  compared _ _ := trivial

/-- What has been counted on the way from one state to another. -/
structure Spent (entries calls : Nat) (before after : State) : Prop where
  statements : after.counters.statements ≤ before.counters.statements + entries
  builtinCalls : after.counters.builtinCalls ≤ before.counters.builtinCalls + calls
  functionCalls : after.counters.functionCalls = before.counters.functionCalls

/-- The computation has a result, and counts no more than this. -/
def Finishes (entries calls : Nat) (computation : Eval Value) (before : State) : Prop :=
  ∃ value after, computation before = some (value, after) ∧ Spent entries calls before after

variable {entries calls entries' calls' : Nat} {before middle after : State}

theorem Spent.trans (first : Spent entries calls before middle)
    (second : Spent entries' calls' middle after) :
    Spent (entries + entries') (calls + calls') before after where
  statements := by have := first.statements; have := second.statements; omega
  builtinCalls := by have := first.builtinCalls; have := second.builtinCalls; omega
  functionCalls := second.functionCalls.trans first.functionCalls

theorem Spent.noted (state : State) (severity : Severity) (level : Level) (event : Event) :
    Spent 0 0 state (state.noted severity level event) where
  statements := by rw [State.noted_counters]; exact le_rfl
  builtinCalls := by rw [State.noted_counters]; exact le_rfl
  functionCalls := by rw [State.noted_counters]

theorem Spent.failed (state : State) (fault : Fault) : Spent 0 0 state (state.failed fault) where
  statements := by rw [State.failed_counters]; exact le_rfl
  builtinCalls := by rw [State.failed_counters]; exact le_rfl
  functionCalls := by rw [State.failed_counters]

theorem Spent.same {other : State} (same : other.counters = before.counters) :
    Spent 0 0 before other where
  statements := by rw [same]; exact le_rfl
  builtinCalls := by rw [same]; exact le_rfl
  functionCalls := by rw [same]

theorem Spent.counted (state : State) (change : Counters → Counters)
    (same : ∀ counters, (change counters).functionCalls = counters.functionCalls)
    (statements : ∀ counters, (change counters).statements ≤ counters.statements + entries)
    (builtinCalls : ∀ counters, (change counters).builtinCalls ≤ counters.builtinCalls + calls) :
    Spent entries calls state (state.counted change) where
  statements := statements _
  builtinCalls := builtinCalls _
  functionCalls := same _

theorem Spent.stepped (state : State) : Spent 1 0 state state.stepped :=
  .counted state _ (fun _ => rfl) (fun _ => le_rfl) (fun _ => le_rfl)

section Rules
variable {world : Set ScopeId}

theorem Finishes.mono {computation : Eval Value} (finishes : Finishes entries calls computation before)
    (enough : entries ≤ entries') (enough' : calls ≤ calls') :
    Finishes entries' calls' computation before := by
  obtain ⟨value, after, run, spent⟩ := finishes
  refine ⟨value, after, run, ?_, ?_, spent.functionCalls⟩
  · exact Nat.le_trans spent.statements (Nat.add_le_add_left enough _)
  · exact Nat.le_trans spent.builtinCalls (Nat.add_le_add_left enough' _)

theorem finishes_run {computation : Eval Value} {value : Value}
    (run : computation before = some (value, after)) (spent : Spent entries calls before after) :
    Finishes entries calls computation before :=
  ⟨value, after, run, spent⟩

theorem finishes_pure (value : Value) (state : State) : Finishes 0 0 (pure value) state :=
  finishes_run rfl (.same rfl)

theorem finishes_step {α : Type} {head : Eval α} {next : α → Eval Value} {part : α}
    (run : head before = some (part, middle)) (spent : Spent entries calls before middle)
    (tail : Finishes entries' calls' (next part) middle) :
    Finishes (entries + entries') (calls + calls') (head >>= next) before := by
  obtain ⟨value, after, finished, spent'⟩ := tail
  exact ⟨value, after, (bind_run_of run).trans finished, spent.trans spent'⟩

/-- A step that counts nothing. -/
theorem finishes_free {α : Type} {head : Eval α} {next : α → Eval Value} {part : α}
    (run : head before = some (part, middle)) (free : Spent 0 0 before middle)
    (tail : Finishes entries calls (next part) middle) :
    Finishes entries calls (head >>= next) before :=
  (finishes_step run free tail).mono (by omega) (by omega)

theorem finishes_traced {event : Event} {next : Unit → Eval Value}
    (tail : Finishes entries calls (next ()) (before.traced event)) :
    Finishes entries calls (trace event >>= next) before :=
  finishes_free (trace_run event before) (.noted _ _ _ _) tail

theorem finishes_bind {head : Eval Value} {next : Value → Eval Value}
    (first : Finishes entries calls head before) (keeps : terms.growth.Keeps world head before)
    (rest : ∀ later value middle, world ≤ later → terms.growth.state later middle →
      terms.growth.value later value → Finishes entries' calls' (next value) middle) :
    Finishes (entries + entries') (calls + calls') (head >>= next) before := by
  obtain ⟨value, middle, run, spent⟩ := first
  obtain ⟨later, le, held, holds⟩ := keeps value middle run
  exact finishes_step run spent (rest later value middle le held holds)

theorem finishes_operand {head : Eval Value} {next : Value → Eval Value}
    (first : Finishes entries calls head before) (keeps : terms.growth.Keeps world head before)
    (rest : ∀ later value middle, world ≤ later → terms.growth.state later middle →
      terms.growth.value later value → Finishes entries' calls' (next value) middle) :
    Finishes (entries + entries') (calls + calls') (operand head next) before := by
  apply finishes_bind first keeps
  intro later value middle le held holds
  split
  · exact (finishes_pure value middle).mono (Nat.zero_le _) (Nat.zero_le _)
  · exact rest later value middle le held holds

theorem finishes_fail (fault : Fault) (state : State) : Finishes 0 0 (fail fault) state :=
  finishes_run (fail_run fault state) (.failed state fault)

theorem finishes_make (build : Nat → Value) (state : State) : Finishes 0 0 (make build) state :=
  finishes_run (make_run build state) (.same rfl)

theorem finishes_answered {given : List Value} {computation : Eval Value}
    (answered : ∃ answer : Semantics.Answer, answer.From given ∧ computation = answer.run)
    (state : State) : Finishes 0 0 computation state := by
  obtain ⟨answer, -, rfl⟩ := answered
  cases answer with
  | plain value => exact finishes_pure value state
  | fresh build => exact finishes_make build state
  | failure fault => exact finishes_fail fault state

end Rules

theorem cost_cons (statement : Node) (statements : List Node) :
    (statement :: statements).length + ((statement :: statements).map Node.entries).sum =
      statement.entries + (1 + (statements.length + (statements.map Node.entries).sum)) := by
  simp only [List.length_cons, List.map_cons, List.sum_cons]
  omega

theorem calls_cons (statement : Node) (statements : List Node) :
    ((statement :: statements).map Node.calls).sum =
      statement.calls + (0 + (statements.map Node.calls).sum) := by
  rw [List.map_cons, List.sum_cons, Nat.zero_add]

/-- Trees up to a height finish, if no function is in sight, and count no more than what is in
them. -/
def FinishesBelow (height : Nat) (recur : Node → ScopeId → Eval Value) : Prop :=
  ∀ {world node scope before}, node.height ≤ height → terms.growth.node world node scope →
    terms.growth.state world before → Finishes node.entries node.calls (recur node scope) before

section Nodes
variable {recur : Node → ScopeId → Eval Value} {height : Nat} {world : Set ScopeId}
  {scope : ScopeId} (sound : terms.growth.Sound recur) (below : FinishesBelow height recur)

include sound below

theorem finishes_operands {nodes : List Node} {next : List Value → Eval Value}
    (low : ∀ node ∈ nodes, node.height ≤ height)
    (allowed : ∀ node ∈ nodes, terms.growth.node world node scope)
    (held : terms.growth.state world before)
    (rest : ∀ later values middle, world ≤ later → terms.growth.state later middle →
      (∀ value ∈ values, terms.growth.value later value) →
        Finishes entries calls (next values) middle) :
    Finishes ((nodes.map Node.entries).sum + entries) ((nodes.map Node.calls).sum + calls)
      (operands (fun node => recur node scope) nodes next) before := by
  have law := terms_lawful.growth
  induction nodes generalizing world before next with
  | nil =>
      simp only [List.map_nil, List.sum_nil, Nat.zero_add]
      exact rest world [] before le_rfl held (by simp)
  | cons node nodes ih =>
      obtain ⟨low_node, low_nodes⟩ := List.forall_mem_cons.mp low
      obtain ⟨node_allowed, nodes_allowed⟩ := List.forall_mem_cons.mp allowed
      simp only [List.map_cons, List.sum_cons, Nat.add_assoc]
      apply finishes_operand (below low_node node_allowed held) (sound node_allowed held)
      intro later value middle le held holds
      apply ih low_nodes (fun node member => law.node_grows le (nodes_allowed node member)) held
      intro last values final further held all
      apply rest last (value :: values) final (le.trans further) held
      exact List.forall_mem_cons.mpr ⟨law.grows further holds, all⟩

theorem finishes_pairs {pairs : List (Node × Node)} {filed : List (HashKey × Value × Value)}
    (low : ∀ pair ∈ pairs, pair.1.height ≤ height ∧ pair.2.height ≤ height)
    (allowed : ∀ pair ∈ pairs, terms.growth.node world pair.1 scope ∧
      terms.growth.node world pair.2 scope)
    (held : terms.growth.state world before) :
    Finishes ((pairs.flatMap fun pair => [pair.1, pair.2]).map Node.entries).sum
      ((pairs.flatMap fun pair => [pair.1, pair.2]).map Node.calls).sum
      (evalPairs (fun node => recur node scope) pairs filed) before := by
  have law := terms_lawful.growth
  induction pairs generalizing world before filed with
  | nil => exact finishes_make (.hash · filed) before
  | cons pair pairs ih =>
      obtain ⟨⟨low_key, low_value⟩, low_pairs⟩ := List.forall_mem_cons.mp low
      obtain ⟨⟨key_allowed, value_allowed⟩, pairs_allowed⟩ := List.forall_mem_cons.mp allowed
      simp only [List.flatMap_cons, List.cons_append, List.nil_append, List.map_cons, List.sum_cons]
      apply finishes_operand (below low_key key_allowed held) (sound key_allowed held)
      intro later key middle le held _
      cases key.hashKey? with
      | none => exact (finishes_fail _ _).mono (Nat.zero_le _) (Nat.zero_le _)
      | some slot =>
          have value_allowed := law.node_grows le value_allowed
          apply finishes_operand (below low_value value_allowed held) (sound value_allowed held)
          intro last value final further held _
          refine ih low_pairs (fun pair member => ?_) held
          exact (pairs_allowed pair member).imp (law.node_grows (le.trans further))
            (law.node_grows (le.trans further))

theorem finishes_program {statements : List Node} {position : Nat} {result : Value}
    (low : ∀ node ∈ statements, node.height ≤ height)
    (allowed : ∀ node ∈ statements, terms.growth.node world node scope)
    (held : terms.growth.state world before) :
    Finishes (statements.length + (statements.map Node.entries).sum)
      (statements.map Node.calls).sum
      (runProgram (fun node => recur node scope) position result statements) before := by
  have law := terms_lawful.growth
  induction statements generalizing world before position result with
  | nil => exact finishes_traced (finishes_pure _ _)
  | cons statement statements ih =>
      obtain ⟨low_node, low_nodes⟩ := List.forall_mem_cons.mp low
      obtain ⟨node_allowed, nodes_allowed⟩ := List.forall_mem_cons.mp allowed
      have traced := law.noted .debug .debug (.statementReached position statement.kind) held
      rw [cost_cons, calls_cons]
      apply finishes_traced
      apply finishes_bind (below low_node node_allowed traced) (sound node_allowed traced)
      intro later value middle le held _
      apply finishes_step (countStatement_run middle) (.stepped middle)
      have counted := law.counted Counters.IsGain.statement (fun _ => rfl) held
      split
      · exact (finishes_traced (finishes_pure _ _)).mono (Nat.zero_le _) (Nat.zero_le _)
      · exact (finishes_traced (finishes_pure _ _)).mono (Nat.zero_le _) (Nat.zero_le _)
      · exact ih low_nodes (fun node member => law.node_grows le (nodes_allowed node member))
          counted

theorem finishes_block {statements : List Node} {result : Value}
    (low : ∀ node ∈ statements, node.height ≤ height)
    (allowed : ∀ node ∈ statements, terms.growth.node world node scope)
    (held : terms.growth.state world before) :
    Finishes (statements.length + (statements.map Node.entries).sum)
      (statements.map Node.calls).sum
      (runBlock (fun node => recur node scope) result statements) before := by
  have law := terms_lawful.growth
  induction statements generalizing world before result with
  | nil => exact finishes_pure _ _
  | cons statement statements ih =>
      obtain ⟨low_node, low_nodes⟩ := List.forall_mem_cons.mp low
      obtain ⟨node_allowed, nodes_allowed⟩ := List.forall_mem_cons.mp allowed
      rw [cost_cons, calls_cons]
      apply finishes_bind (below low_node node_allowed held) (sound node_allowed held)
      intro later value middle le held _
      apply finishes_step (countStatement_run middle) (.stepped middle)
      have counted := law.counted Counters.IsGain.statement (fun _ => rfl) held
      split
      · exact (finishes_traced (finishes_pure _ _)).mono (Nat.zero_le _) (Nat.zero_le _)
      · exact ih low_nodes (fun node member => law.node_grows le (nodes_allowed node member))
          counted

omit sound below

/-- What is called is no function, so the call ends at once. -/
theorem finishes_call {callee : Value} (known : terms.growth.value world callee)
    (arguments : List Value) (before : State) :
    Finishes 0 1 (applyFunction recur callee arguments) before := by
  have counted (state : State) : Spent 0 1 state (state.counted fun counters =>
      { counters with builtinCalls := counters.builtinCalls + 1 }) :=
    .counted state _ (fun _ => rfl) (fun _ => le_rfl) (fun _ => le_rfl)
  cases callee with
  | function serial parameters body closure => exact known.whole.2.elim
  | builtin builtin =>
      show Finishes (0 + 0) (1 + 0) _ _
      apply finishes_step (count_run _ _) (counted before)
      apply finishes_traced
      exact finishes_answered (Semantics.applyBuiltin_from builtin arguments) _
  | failing serial name detail =>
      show Finishes (0 + 0) (1 + 0) _ _
      apply finishes_step (count_run _ _) (counted before)
      apply finishes_traced
      exact finishes_free (alarm_run _ _) (.same rfl) (finishes_fail _ _)
  | _ => exact (finishes_fail _ _).mono le_rfl (Nat.zero_le _)

theorem finishes_identifier (name : String) (scope : ScopeId) (before : State) :
    Finishes 0 0 (evalIdentifier name scope) before := by
  apply finishes_traced
  apply finishes_free (lookup?_run _ _ _) (.same rfl)
  cases (before.traced (.lookupStarted name)).scopes.lookup? scope name with
  | some value => exact finishes_pure value _
  | none =>
      cases Builtin.ofName? name with
      | some builtin => exact finishes_traced (finishes_pure _ _)
      | none => exact finishes_fail _ _

/-- What is spent on the nodes below is spent on the node. -/
theorem Finishes.of_children {node : Node} {computation : Eval Value}
    (finishes : Finishes (node.children.map Node.entries).sum (node.children.map Node.calls).sum
      computation before) : Finishes node.entries node.calls computation before := by
  rw [Node.entries_eq, Node.calls_eq]
  exact finishes.mono (Nat.le_add_left _ _) (Nat.le_add_left _ _)

/-- An operand of a node finishes, and what follows. -/
theorem finishes_child {node child : Node} {next : Value → Eval Value} {later : Set ScopeId}
    (sound : terms.growth.Sound recur) (below : FinishesBelow height recur)
    (low : ∀ child ∈ node.children, child.height ≤ height)
    (allowed : terms.growth.node world node scope) (member : child ∈ node.operands)
    (le : world ≤ later) (held : terms.growth.state later before)
    (rest : ∀ last value middle, later ≤ last → terms.growth.state last middle →
      terms.growth.value last value → Finishes entries calls (next value) middle) :
    Finishes (child.entries + entries) (child.calls + calls)
      (operand (recur child scope) next) before := by
  have law := terms_lawful.growth
  have child_allowed := law.node_grows le (law.operand allowed child member)
  exact finishes_operand (below (low child (node.operands_subset member)) child_allowed held)
    (sound child_allowed held) rest

/-- A node finishes if those below it do. -/
theorem finishes_node {node : Node} (sound : terms.growth.Sound recur)
    (below : FinishesBelow height recur) (low : ∀ child ∈ node.children, child.height ≤ height)
    (allowed : terms.growth.node world node scope) (held : terms.growth.state world before) :
    Finishes node.entries node.calls (evalNode recur node scope) before := by
  have law := terms_lawful.growth
  have zero_le {number : Nat} : 0 ≤ number := Nat.zero_le number
  have operand {child : Node} (member : child ∈ node.operands) {later : Set ScopeId}
      (le : world ≤ later) : terms.growth.node later child scope :=
    law.node_grows le (law.operand allowed child member)
  have traced (event : Event) : terms.growth.state world (before.traced event) :=
    law.noted _ _ event held
  cases node with
  | program statements =>
      rw [Node.entries_eq, Node.calls_eq]
      show Finishes (statements.length + (statements.map Node.entries).sum)
        (0 + (statements.map Node.calls).sum) _ _
      rw [Nat.zero_add]
      apply finishes_traced
      exact finishes_program sound below low (law.step allowed) (traced _)
  | letStatement name value =>
      apply Finishes.of_children
      show Finishes (value.entries + 0) (value.calls + 0) _ _
      apply finishes_traced
      apply finishes_child sound below low allowed List.mem_cons_self le_rfl (traced _)
      intro later result middle _ _ _
      exact finishes_free (bind_run _ _ _ _) (.same rfl) (finishes_pure _ _)
  | returnStatement value =>
      apply Finishes.of_children
      show Finishes (value.entries + 0) (value.calls + 0) _ _
      apply finishes_child sound below low allowed List.mem_cons_self le_rfl held
      intro later result middle _ _ _
      exact finishes_make (.returned · result) middle
  | expressionStatement expression =>
      apply Finishes.of_children
      show Finishes expression.entries expression.calls _ _
      exact below (low expression List.mem_cons_self)
        (law.step allowed expression List.mem_cons_self) held
  | blockStatement statements =>
      rw [Node.entries_eq, Node.calls_eq]
      show Finishes (statements.length + (statements.map Node.entries).sum)
        (0 + (statements.map Node.calls).sum) _ _
      rw [Nat.zero_add]
      apply finishes_traced
      apply finishes_free (count_run _ _)
      · exact .counted _ _ (fun _ => rfl) (fun _ => le_rfl) (fun _ => le_rfl)
      · exact finishes_block sound below low (law.step allowed) (law.compared allowed (traced _))
  | identifier name => exact (finishes_identifier name scope before).mono zero_le zero_le
  | integerLiteral value => exact (finishes_make (.integer · value) before).mono zero_le zero_le
  | stringLiteral text => exact (finishes_make (.string · text) before).mono zero_le zero_le
  | booleanLiteral value => exact (finishes_pure _ before).mono zero_le zero_le
  | prefixExpression operator right =>
      apply Finishes.of_children
      show Finishes (right.entries + 0) (right.calls + 0) _ _
      apply finishes_traced
      apply finishes_child sound below low allowed List.mem_cons_self le_rfl (traced _)
      intro later value middle _ _ _
      exact finishes_answered (Semantics.applyPrefix_from operator value) middle
  | infixExpression left operator right =>
      apply Finishes.of_children
      show Finishes (left.entries + (right.entries + 0)) (left.calls + (right.calls + 0)) _ _
      have second : right ∈ (Node.infixExpression left operator right).operands :=
        List.mem_cons_of_mem _ List.mem_cons_self
      apply finishes_traced
      apply finishes_child sound below low allowed List.mem_cons_self le_rfl (traced _)
      intro later value middle le held _
      apply finishes_child sound below low allowed second le held
      intro last other final _ _ _
      exact finishes_answered (Semantics.applyInfix_from operator value other) final
  | ifExpression condition consequence alternative =>
      apply Finishes.of_children
      show Finishes (condition.entries + (consequence.entries +
          (alternative.toList.map Node.entries).sum)) (condition.calls + (consequence.calls +
          (alternative.toList.map Node.calls).sum)) _ _
      apply finishes_traced
      apply finishes_child sound below low allowed List.mem_cons_self le_rfl (traced _)
      intro later value middle le held _
      have branch {child : Node} (member : child ∈ consequence :: alternative.toList)
          (event : Event) :
          Finishes child.entries child.calls (recur child scope) (middle.traced event) :=
        below (low child (List.mem_cons_of_mem _ member))
          (law.node_grows le (law.step allowed child member)) (law.noted _ _ event held)
      split
      · apply finishes_traced
        exact (branch List.mem_cons_self _).mono (Nat.le_add_right _ _) (Nat.le_add_right _ _)
      · cases alternative with
        | some alternative =>
            apply finishes_traced
            exact (branch (List.mem_cons_of_mem _ List.mem_cons_self) _).mono
              (Nat.le_add_left _ _) (Nat.le_add_left _ _)
        | none => exact (finishes_traced (finishes_pure _ _)).mono (Nat.zero_le _) (Nat.zero_le _)
  | functionLiteral parameters body => exact (nomatch allowed.2.here)
  | callExpression callee arguments =>
      rw [Node.entries_eq, Node.calls_eq]
      show Finishes (0 + (callee.entries + ((arguments.map Node.entries).sum + 0)))
        (1 + (callee.calls + (arguments.map Node.calls).sum)) _ _
      have argument {child : Node} (member : child ∈ arguments) :
          child ∈ (Node.callExpression callee arguments).operands :=
        List.mem_cons_of_mem _ member
      rw [Nat.zero_add, Nat.add_comm 1, Nat.add_assoc]
      apply finishes_traced
      apply finishes_child sound below low allowed List.mem_cons_self le_rfl (traced _)
      intro later function middle le held known
      refine finishes_operands sound below (fun child member =>
        low child (List.mem_cons_of_mem _ member)) (fun child member =>
          operand (argument member) le) held ?_
      intro last values final further held _
      apply finishes_traced
      exact finishes_call (law.grows further known) values _
  | arrayLiteral elements =>
      apply Finishes.of_children
      show Finishes ((elements.map Node.entries).sum + 0) ((elements.map Node.calls).sum + 0) _ _
      refine finishes_operands sound below low (fun child member => operand member le_rfl) held ?_
      intro later values middle _ _ _
      exact finishes_make (.array · values) middle
  | indexExpression left index =>
      apply Finishes.of_children
      show Finishes (left.entries + (index.entries + 0)) (left.calls + (index.calls + 0)) _ _
      have second : index ∈ (Node.indexExpression left index).operands :=
        List.mem_cons_of_mem _ List.mem_cons_self
      apply finishes_child sound below low allowed List.mem_cons_self le_rfl held
      intro later value middle le held _
      apply finishes_child sound below low allowed second le held
      intro last other final _ _ _
      exact finishes_answered (Semantics.applyIndex_from value other) final
  | hashLiteral pairs =>
      have inside {pair : Node × Node} (member : pair ∈ pairs) {child : Node}
          (either : child ∈ [pair.1, pair.2]) : child ∈ (Node.hashLiteral pairs).operands :=
        List.mem_flatMap.mpr ⟨pair, member, either⟩
      have key {pair : Node × Node} (member : pair ∈ pairs) := inside member List.mem_cons_self
      have item {pair : Node × Node} (member : pair ∈ pairs) :=
        inside member (List.mem_cons_of_mem _ List.mem_cons_self)
      apply Finishes.of_children
      apply finishes_traced
      refine finishes_pairs sound below (fun pair member => ?_) (fun pair member => ?_) (traced _)
      · exact ⟨low _ (key member), low _ (item member)⟩
      · exact ⟨operand (key member) le_rfl, operand (item member) le_rfl⟩
  | unknown name =>
      have fails : Finishes 0 0 (report (.unknownNodeReached name) >>= fun _ =>
          fail (.unknownNode name)) before :=
        finishes_free (report_run _ _) (.noted _ _ _ _) (finishes_fail _ _)
      exact fails.mono zero_le zero_le

omit sound below

theorem finishesBelow (height : Nat) : FinishesBelow height (evalWithin height) := by
  induction height with
  | zero =>
      intro world node scope before low
      rw [Node.height_eq] at low
      cases low
  | succ height ih =>
      intro world node scope before low allowed held
      refine finishes_node (terms_lawful.growth.sound height) ih (fun child member => ?_)
        allowed held
      exact Nat.le_of_lt_succ (Nat.lt_of_lt_of_le (Node.height_lt member) low)

end Nodes

end FunctionFree

/-- A tree without function literals, evaluated where no function can be reached, ends within
its height. It counts no more statements than its lists have entries and no more calls of
builtins than it has call expressions, and no call of a function. Afterwards there is still no
function, neither in the value nor within reach. -/
theorem function_free_finishes {node : Node} {home : ScopeId} {before : State}
    (free : node.IsFunctionFree)
    (unreachable : ∀ serial parameters body closure,
      ¬before.scopes.Offers home (.function serial parameters body closure)) :
    ∃ value after, evalWithin node.height node home before = some (value, after) ∧
      after.counters.statements ≤ before.counters.statements + node.entries ∧
      after.counters.builtinCalls ≤ before.counters.builtinCalls + node.calls ∧
      after.counters.functionCalls = before.counters.functionCalls ∧
      ∀ serial parameters body closure,
        ¬(Value.function serial parameters body closure).Within value ∧
          ¬after.scopes.Offers home (.function serial parameters body closure) := by
  have starts : FunctionFree.terms.Confines {scope | before.scopes.Reaches home scope} before :=
    Terms.confines_reached trivial fun serial parameters body closure offered =>
      unreachable serial parameters body closure offered
  have allowed : FunctionFree.terms.growth.node {scope | before.scopes.Reaches home scope}
      node home := ⟨.home, free⟩
  obtain ⟨value, after, run, spent⟩ := FunctionFree.finishesBelow node.height le_rfl allowed starts
  obtain ⟨later, le, held, holds⟩ :=
    FunctionFree.terms_lawful.growth.sound node.height allowed starts value after run
  refine ⟨value, after, run, spent.statements, spent.builtinCalls, spent.functionCalls, ?_⟩
  intro serial parameters body closure
  constructor
  · exact fun within => (holds _ within).2
  · exact fun offered => (held.offers (le .home) offered).2

theorem initial_offers_nothing (home : ScopeId) (value : Value) :
    ¬State.initial.scopes.Offers home value := by
  rintro ⟨scope, -, binding, member, -⟩
  have unbound : State.initial.scopes.bindings scope = [] :=
    Scopes.bindings_create Scopes.empty none scope
  rw [unbound] at member
  cases member

/-- A builtin under another name is called in the branch of an `if`. -/
def renamed : Node :=
  .program
    [.letStatement "size" (.identifier "len"),
      .expressionStatement (.ifExpression (.booleanLiteral true)
        (.blockStatement [.expressionStatement (.callExpression (.identifier "size")
          [.arrayLiteral [.integerLiteral 1]])]) none)]

theorem function_free_finishes_renamed :
    renamed.IsFunctionFree ∧
      (∀ serial parameters body closure,
        ¬State.initial.scopes.Offers 0 (.function serial parameters body closure)) ∧
      ∃ value after, evalWithin 8 renamed 0 State.initial = some (value, after) ∧
        after.counters.statements ≤ 3 ∧ after.counters.builtinCalls ≤ 1 ∧
          after.counters.functionCalls = 0 := by
  have free : renamed.IsFunctionFree := .of_holdsWithin 8 (by decide)
  have unreachable (serial : Nat) (parameters : List String) (body : Node) (closure : ScopeId) :=
    initial_offers_nothing 0 (.function serial parameters body closure)
  obtain ⟨value, after, run, statements, builtinCalls, functionCalls, -⟩ :=
    function_free_finishes free unreachable
  exact ⟨free, unreachable, value, after, run, statements, builtinCalls, functionCalls⟩

end Eval

end MonkeyLang
