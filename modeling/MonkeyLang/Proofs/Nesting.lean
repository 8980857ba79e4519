import MonkeyLang.Proofs.Positions
import Mathlib.Data.List.Basic

/-!
Function literals inside of one another. A node of a tree stands under those literals whose
bodies it is in, the innermost first. The `let` statements of a body that stand in no inner
literal are those that bind names when the function is called.
-/

namespace MonkeyLang

structure Literal where
  parameters : List String
  body : Node

namespace Node

def literal (literal : Literal) : Node :=
  functionLiteral literal.parameters literal.body

/-- A node stands somewhere in the tree `root`, in the bodies of exactly these literals. -/
inductive Occurs (root : Node) : List Literal → Node → Prop where
  | root : Occurs root [] root
  | operand {path node child} : Occurs root path node → child ∈ node.operands →
      Occurs root path child
  | step {path node child} : Occurs root path node → child ∈ node.steps → Occurs root path child
  | body {path literal} : Occurs root path (.literal literal) →
      Occurs root (literal :: path) literal.body

/-- The names that a call of the innermost literal can bind in its scope; under no literal,
those that the tree can bind in the scope it is evaluated in. -/
def Local (root : Node) : List Literal → String → Prop
  | [], name => root.Binds name
  | literal :: _, name => name ∈ literal.parameters ∨ literal.body.Binds name

theorem Occurs.binds_local {root node : Node} {path : List Literal} (occurs : root.Occurs path node)
    {name : String} (binds : node.Binds name) : root.Local path name := by
  induction occurs with
  | root => exact binds
  | operand _ member ih => exact ih (.operand member binds)
  | step _ member ih => exact ih (.step member binds)
  | body _ _ => exact .inr binds

mutual

/-- How many function literals stand inside of one another at most. -/
def nesting : Node → Nat
  | program statements => nestingAll statements
  | letStatement _ value => value.nesting
  | returnStatement value => value.nesting
  | expressionStatement expression => expression.nesting
  | blockStatement statements => nestingAll statements
  | prefixExpression _ right => right.nesting
  | infixExpression left _ right => max left.nesting right.nesting
  | ifExpression condition consequence none => max condition.nesting consequence.nesting
  | ifExpression condition consequence (some alternative) =>
      max condition.nesting (max consequence.nesting alternative.nesting)
  | functionLiteral _ body => body.nesting + 1
  | callExpression callee arguments => max callee.nesting (nestingAll arguments)
  | arrayLiteral elements => nestingAll elements
  | indexExpression left index => max left.nesting index.nesting
  | hashLiteral pairs => nestingPairs pairs
  | _ => 0

def nestingAll : List Node → Nat
  | [] => 0
  | node :: rest => max node.nesting (nestingAll rest)

def nestingPairs : List (Node × Node) → Nat
  | [] => 0
  | (key, value) :: rest => max (max key.nesting value.nesting) (nestingPairs rest)

end

theorem nesting_le_nestingAll {node : Node} {nodes : List Node} (member : node ∈ nodes) :
    node.nesting ≤ nestingAll nodes := by
  induction nodes with
  | nil => cases member
  | cons first rest ih =>
      rw [nestingAll]
      rcases List.mem_cons.mp member with rfl | later
      · exact Nat.le_max_left _ _
      · exact Nat.le_trans (ih later) (Nat.le_max_right _ _)

theorem nesting_le_nestingPairs {pair : Node × Node} {pairs : List (Node × Node)}
    (member : pair ∈ pairs) : max pair.1.nesting pair.2.nesting ≤ nestingPairs pairs := by
  induction pairs with
  | nil => cases member
  | cons first rest ih =>
      rw [nestingPairs]
      rcases List.mem_cons.mp member with rfl | later
      · exact Nat.le_max_left _ _
      · exact Nat.le_trans (ih later) (Nat.le_max_right _ _)

theorem nesting_operand {node child : Node} (member : child ∈ node.operands) :
    child.nesting ≤ node.nesting := by
  cases node with
  | hashLiteral pairs =>
      obtain ⟨pair, among, inside⟩ := List.mem_flatMap.mp member
      have below := nesting_le_nestingPairs among
      rw [nesting]
      rcases List.mem_pair.mp inside with rfl | rfl
      · exact Nat.le_trans (Nat.le_max_left _ _) below
      · exact Nat.le_trans (Nat.le_max_right _ _) below
  | infixExpression left _ right =>
      rcases List.mem_pair.mp member with rfl | rfl
      · exact Nat.le_max_left _ _
      · exact Nat.le_max_right _ _
  | indexExpression left index =>
      rcases List.mem_pair.mp member with rfl | rfl
      · exact Nat.le_max_left _ _
      · exact Nat.le_max_right _ _
  | callExpression callee arguments =>
      rw [nesting]
      rcases List.mem_cons.mp member with rfl | argument
      · exact Nat.le_max_left _ _
      · exact Nat.le_trans (nesting_le_nestingAll argument) (Nat.le_max_right _ _)
  | arrayLiteral elements => exact nesting_le_nestingAll member
  | ifExpression condition consequence alternative =>
      rw [List.mem_singleton.mp member]
      cases alternative <;> exact Nat.le_max_left _ _
  | _ => simp_all [operands, nesting]

theorem nesting_step {node child : Node} (member : child ∈ node.steps) :
    child.nesting ≤ node.nesting := by
  cases node with
  | program statements => exact nesting_le_nestingAll member
  | blockStatement statements => exact nesting_le_nestingAll member
  | expressionStatement expression =>
      rw [List.mem_singleton.mp member]
      exact Nat.le_refl _
  | ifExpression condition consequence alternative =>
      cases alternative with
      | none =>
          rw [List.mem_singleton.mp member]
          exact Nat.le_max_right _ _
      | some alternative =>
          rw [nesting]
          rcases List.mem_pair.mp member with rfl | rfl
          · exact Nat.le_trans (Nat.le_max_left _ _) (Nat.le_max_right _ _)
          · exact Nat.le_trans (Nat.le_max_right _ _) (Nat.le_max_right _ _)
  | _ => cases member

/-- The literals around a node and those inside of it stand inside of one another. -/
theorem Occurs.length_add_nesting_le {root node : Node} {path : List Literal}
    (occurs : root.Occurs path node) : path.length + node.nesting ≤ root.nesting := by
  induction occurs with
  | root => simp
  | operand _ member ih => exact Nat.le_trans (Nat.add_le_add_left (nesting_operand member) _) ih
  | step _ member ih => exact Nat.le_trans (Nat.add_le_add_left (nesting_step member) _) ih
  | body _ ih =>
      rw [literal, nesting] at ih
      rw [List.length_cons]
      omega

end Node

end MonkeyLang
