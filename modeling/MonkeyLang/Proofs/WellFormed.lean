import MonkeyLang.Document
import MonkeyLang.Proofs.Positions

/-!
Well-formed trees: no node of an unknown kind, operators of the language in their
positions, integers of 64 bits, and blocks as bodies and branches. Whatever tree a
document describes is well-formed.
-/

namespace MonkeyLang

namespace Node

def isBlock : Node → Bool
  | blockStatement _ => true
  | _ => false

mutual

def wellFormed : Node → Bool
  | program statements => allWellFormed statements
  | letStatement _ value => value.wellFormed
  | returnStatement value => value.wellFormed
  | expressionStatement expression => expression.wellFormed
  | blockStatement statements => allWellFormed statements
  | identifier _ => true
  | integerLiteral value => decide (Word.InRange value)
  | stringLiteral _ => true
  | booleanLiteral _ => true
  | prefixExpression operator right => decide (operator ∈ Operator.unary) && right.wellFormed
  | infixExpression left operator right =>
      left.wellFormed && decide (operator ∈ Operator.all) && right.wellFormed
  | ifExpression condition consequence none =>
      condition.wellFormed && (consequence.isBlock && consequence.wellFormed)
  | ifExpression condition consequence (some alternative) =>
      condition.wellFormed && (consequence.isBlock && consequence.wellFormed) &&
        (alternative.isBlock && alternative.wellFormed)
  | functionLiteral _ body => body.isBlock && body.wellFormed
  | callExpression callee arguments => callee.wellFormed && allWellFormed arguments
  | arrayLiteral elements => allWellFormed elements
  | indexExpression left index => left.wellFormed && index.wellFormed
  | hashLiteral pairs => pairsWellFormed pairs
  | unknown _ => false

def allWellFormed : List Node → Bool
  | [] => true
  | node :: rest => node.wellFormed && allWellFormed rest

def pairsWellFormed : List (Node × Node) → Bool
  | [] => true
  | (key, value) :: rest => (key.wellFormed && value.wellFormed) && pairsWellFormed rest

end

theorem allWellFormed_iff {nodes : List Node} :
    allWellFormed nodes = true ↔ ∀ node ∈ nodes, node.wellFormed = true := by
  induction nodes with
  | nil => simp [allWellFormed]
  | cons node rest ih => simp [allWellFormed, ih]

theorem pairsWellFormed_iff {pairs : List (Node × Node)} :
    pairsWellFormed pairs = true ↔
      ∀ pair ∈ pairs, pair.1.wellFormed = true ∧ pair.2.wellFormed = true := by
  induction pairs with
  | nil => simp [pairsWellFormed]
  | cons pair rest ih => simp [pairsWellFormed, ih]

/-- The parts of a well-formed node are well-formed. -/
theorem wellFormed_operand {node : Node} (formed : node.wellFormed = true) :
    ∀ child ∈ node.operands, child.wellFormed = true := by
  intro child member
  cases node with
  | ifExpression condition consequence alternative =>
      cases alternative <;> simp_all [operands, wellFormed]
  | callExpression callee arguments =>
      simp only [wellFormed, Bool.and_eq_true, allWellFormed_iff] at formed
      rcases List.mem_cons.mp member with rfl | argument
      · exact formed.1
      · exact formed.2 child argument
  | arrayLiteral elements => exact allWellFormed_iff.mp formed child member
  | hashLiteral pairs =>
      obtain ⟨pair, among, inside⟩ := List.mem_flatMap.mp member
      have parts := pairsWellFormed_iff.mp formed pair among
      rcases List.mem_cons.mp inside with rfl | second
      · exact parts.1
      · exact List.mem_singleton.mp second ▸ parts.2
  | infixExpression left operator right =>
      simp only [wellFormed, Bool.and_eq_true] at formed
      rcases List.mem_cons.mp member with rfl | second
      · exact formed.1.1
      · exact List.mem_singleton.mp second ▸ formed.2
  | indexExpression left index =>
      simp only [wellFormed, Bool.and_eq_true] at formed
      rcases List.mem_cons.mp member with rfl | second
      · exact formed.1
      · exact List.mem_singleton.mp second ▸ formed.2
  | _ => simp_all [operands, wellFormed]

theorem wellFormed_step {node : Node} (formed : node.wellFormed = true) :
    ∀ child ∈ node.steps, child.wellFormed = true := by
  intro child member
  cases node with
  | program statements => exact allWellFormed_iff.mp formed child member
  | blockStatement statements => exact allWellFormed_iff.mp formed child member
  | expressionStatement expression => exact List.mem_singleton.mp member ▸ formed
  | ifExpression condition consequence alternative =>
      cases alternative with
      | none => simp_all [steps, wellFormed]
      | some alternative =>
          simp only [wellFormed, Bool.and_eq_true] at formed
          rcases List.mem_cons.mp member with rfl | second
          · exact formed.1.2.2
          · exact List.mem_singleton.mp second ▸ formed.2.2
  | _ => simp [steps] at member

theorem wellFormed_body {parameters : List String} {body : Node}
    (formed : (functionLiteral parameters body).wellFormed = true) : body.wellFormed = true := by
  simp only [wellFormed, Bool.and_eq_true] at formed
  exact formed.2

end Node

namespace Document

theorem bind_eq_ok {α β : Type} {first : Decoded α} {next : α → Decoded β} {result : β} :
    (first >>= next) = .ok result ↔ ∃ value, first = .ok value ∧ next value = .ok result := by
  cases first with
  | error fault => simp [bind, Except.bind]
  | ok value => simp [bind, Except.bind]

theorem decodeEach_all {α : Type} {decode : Json.Value → Decoded α} {good : α → Prop}
    (each : ∀ value item, decode value = .ok item → good item) {values : List Json.Value}
    {items : List α} (decoded : decodeEach decode values = .ok items) :
    ∀ item ∈ items, good item := by
  induction values generalizing items with
  | nil =>
      cases decoded
      simp
  | cons value rest ih =>
      simp only [decodeEach, bind_eq_ok] at decoded
      rcases decoded with ⟨first, head, others, tail, finish⟩
      cases finish
      exact List.forall_mem_cons.mpr ⟨each value first head, ih tail⟩

theorem decodeOperator_mem {kind : String} {allowed : List Operator} {value : Json.Value}
    {operator : Operator} (decoded : decodeOperator kind allowed value = .ok operator) :
    operator ∈ allowed := by
  cases value with
  | string text =>
      simp only [decodeOperator] at decoded
      split at decoded
      · cases decoded
        assumption
      · cases decoded
  | _ => cases decoded

theorem decodeInteger_inRange {value : Json.Value} {number : Int}
    (decoded : decodeInteger value = .ok number) : Word.InRange number := by
  cases value with
  | integer found =>
      simp only [decodeInteger] at decoded
      split at decoded
      · cases decoded
        assumption
      · cases decoded
  | _ => cases decoded

section Kinds
variable {sub : Json.Value → Decoded Node}
  (parts : ∀ value node, sub value = .ok node → node.wellFormed = true)
include parts

theorem decodeNodes_wellFormed {value : Json.Value} {nodes : List Node}
    (decoded : decodeNodes sub value = .ok nodes) : Node.allWellFormed nodes = true := by
  cases value with
  | array elements => exact Node.allWellFormed_iff.mpr (decodeEach_all parts decoded)
  | _ => cases decoded

theorem decodeBlock_wellFormed {value : Json.Value} {node : Node}
    (decoded : decodeBlock sub value = .ok node) : (node.isBlock && node.wellFormed) = true := by
  obtain ⟨block, found, finish⟩ := bind_eq_ok.mp decoded
  cases block with
  | blockStatement statements =>
      cases finish
      simpa [Node.isBlock] using parts value _ found
  | _ => cases finish

theorem decodeAlternative_wellFormed {found : Option Json.Value} {node : Node}
    (decoded : decodeAlternative sub found = .ok (some node)) :
    (node.isBlock && node.wellFormed) = true := by
  unfold decodeAlternative at decoded
  split at decoded
  · cases decoded
  · cases decoded
  · obtain ⟨block, found, finish⟩ := bind_eq_ok.mp decoded
    cases finish
    exact decodeBlock_wellFormed parts found

theorem decodePairs_wellFormed {value : Json.Value} {pairs : List (Node × Node)}
    (decoded : decodePairs sub value = .ok pairs) : Node.pairsWellFormed pairs = true := by
  cases value with
  | array elements =>
      refine Node.pairsWellFormed_iff.mpr (decodeEach_all ?_ decoded)
      intro value pair decoded
      unfold decodePair at decoded
      split at decoded
      · simp only [bind_eq_ok] at decoded
        rcases decoded with ⟨key, keyed, item, valued, finish⟩
        cases finish
        exact ⟨parts _ _ keyed, parts _ _ valued⟩
      · cases decoded
  | _ => cases decoded

theorem decodeKind_wellFormed {kind : String} {members : Members} {node : Node}
    (decoded : decodeKind sub kind members = .ok node) : node.wellFormed = true := by
  unfold decodeKind at decoded
  -- one case for each kind, in the order of the definition
  split at decoded <;> simp only [bind_eq_ok] at decoded
  · rcases decoded with ⟨_, -, statements, found, finish⟩
    cases finish
    exact decodeNodes_wellFormed parts found
  · rcases decoded with ⟨_, -, statements, found, finish⟩
    cases finish
    exact decodeNodes_wellFormed parts found
  · rcases decoded with ⟨_, -, expression, found, finish⟩
    cases finish
    have formed := parts _ _ found
    exact formed
  · rcases decoded with ⟨_, -, name, -, _, -, value, found, finish⟩
    cases finish
    have formed := parts _ _ found
    exact formed
  · rcases decoded with ⟨_, -, value, found, finish⟩
    cases finish
    have formed := parts _ _ found
    exact formed
  · rcases decoded with ⟨_, -, name, -, finish⟩
    cases finish
    rfl
  · rcases decoded with ⟨_, -, number, found, finish⟩
    cases finish
    exact decide_eq_true (decodeInteger_inRange found)
  · rcases decoded with ⟨_, -, text, -, finish⟩
    cases finish
    rfl
  · rcases decoded with ⟨_, -, truth, -, finish⟩
    cases finish
    rfl
  · rcases decoded with ⟨_, -, operator, known, _, -, right, found, finish⟩
    cases finish
    simp [Node.wellFormed, decodeOperator_mem known, parts _ _ found]
  · rcases decoded with ⟨_, -, left, found, _, -, operator, known, _, -, right, found', finish⟩
    cases finish
    simp [Node.wellFormed, decodeOperator_mem known, parts _ _ found, parts _ _ found']
  · rcases decoded with
      ⟨_, -, condition, found, _, -, consequence, block, alternative, branch, finish⟩
    cases finish
    have first := parts _ _ found
    have second := decodeBlock_wellFormed parts block
    cases alternative with
    | none => simp [Node.wellFormed, first, second]
    | some alternative =>
        simp [Node.wellFormed, first, second, decodeAlternative_wellFormed parts branch]
  · rcases decoded with ⟨_, -, parameters, -, _, -, body, found, finish⟩
    cases finish
    exact decodeBlock_wellFormed parts found
  · rcases decoded with ⟨_, -, callee, found, _, -, arguments, found', finish⟩
    cases finish
    simp [Node.wellFormed, parts _ _ found, decodeNodes_wellFormed parts found']
  · rcases decoded with ⟨_, -, elements, found, finish⟩
    cases finish
    exact decodeNodes_wellFormed parts found
  · rcases decoded with ⟨_, -, left, found, _, -, index, found', finish⟩
    cases finish
    simp [Node.wellFormed, parts _ _ found, parts _ _ found']
  · rcases decoded with ⟨_, -, pairs, found, finish⟩
    cases finish
    exact decodePairs_wellFormed parts found
  · cases decoded

theorem decodeNode_wellFormed {value : Json.Value} {node : Node}
    (decoded : decodeNode sub value = .ok node) : node.wellFormed = true := by
  unfold decodeNode at decoded
  split at decoded
  · split at decoded
    · exact decodeKind_wellFormed parts decoded
    all_goals cases decoded
  · cases decoded

end Kinds

theorem decodeWithin_wellFormed {depth : Nat} {value : Json.Value} {node : Node}
    (decoded : decodeWithin depth value = .ok node) : node.wellFormed = true := by
  induction depth generalizing value node with
  | zero => cases decoded
  | succ depth ih => exact decodeNode_wellFormed (fun _ _ => ih) decoded

/-- Whether some document describes a tree. -/
def Describable (node : Node) : Prop :=
  ∃ document, decode document = .ok node

theorem Describable.wellFormed {node : Node} (described : Describable node) :
    node.wellFormed = true := by
  rcases described with ⟨document, decoded⟩
  exact decodeWithin_wellFormed decoded

end Document

end MonkeyLang
