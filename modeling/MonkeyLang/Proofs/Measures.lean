import MonkeyLang.Proofs.Positions
import Mathlib.Algebra.GroupWithZero.Nat
import Mathlib.Data.List.Basic

/-!
Numbers that belong to a tree: how high it is, and how much of something there is in it, all
places taken together.
-/

namespace MonkeyLang.Node

/-- The nodes directly below, the body of a function literal included. -/
def children : Node → List Node
  | program statements => statements
  | letStatement _ value => [value]
  | returnStatement value => [value]
  | expressionStatement expression => [expression]
  | blockStatement statements => statements
  | prefixExpression _ right => [right]
  | infixExpression left _ right => [left, right]
  | ifExpression condition consequence alternative =>
      condition :: consequence :: alternative.toList
  | functionLiteral _ body => [body]
  | callExpression callee arguments => callee :: arguments
  | arrayLiteral elements => elements
  | indexExpression left index => [left, index]
  | hashLiteral pairs => pairs.flatMap fun pair => [pair.1, pair.2]
  | _ => []

theorem operands_subset (node : Node) : node.operands ⊆ node.children := by
  cases node <;> simp [operands, children]

mutual

/-- The number of a tree, from the numbers of the trees directly below. -/
def fold (visit : Node → List Nat → Nat) : Node → Nat
  | program statements => visit (program statements) (foldAll visit statements)
  | letStatement name value => visit (letStatement name value) [value.fold visit]
  | returnStatement value => visit (returnStatement value) [value.fold visit]
  | expressionStatement expression =>
      visit (expressionStatement expression) [expression.fold visit]
  | blockStatement statements => visit (blockStatement statements) (foldAll visit statements)
  | prefixExpression operator right => visit (prefixExpression operator right) [right.fold visit]
  | infixExpression left operator right =>
      visit (infixExpression left operator right) [left.fold visit, right.fold visit]
  | ifExpression condition consequence none =>
      visit (ifExpression condition consequence none)
        [condition.fold visit, consequence.fold visit]
  | ifExpression condition consequence (some alternative) =>
      visit (ifExpression condition consequence (some alternative))
        [condition.fold visit, consequence.fold visit, alternative.fold visit]
  | functionLiteral parameters body => visit (functionLiteral parameters body) [body.fold visit]
  | callExpression callee arguments =>
      visit (callExpression callee arguments) (callee.fold visit :: foldAll visit arguments)
  | arrayLiteral elements => visit (arrayLiteral elements) (foldAll visit elements)
  | indexExpression left index =>
      visit (indexExpression left index) [left.fold visit, index.fold visit]
  | hashLiteral pairs => visit (hashLiteral pairs) (foldPairs visit pairs)
  | node => visit node []

def foldAll (visit : Node → List Nat → Nat) : List Node → List Nat
  | [] => []
  | node :: rest => node.fold visit :: foldAll visit rest

def foldPairs (visit : Node → List Nat → Nat) : List (Node × Node) → List Nat
  | [] => []
  | (key, value) :: rest => key.fold visit :: value.fold visit :: foldPairs visit rest

end

theorem foldAll_eq (visit : Node → List Nat → Nat) (nodes : List Node) :
    foldAll visit nodes = nodes.map (fold visit) := by
  induction nodes with
  | nil => rfl
  | cons node rest ih => rw [foldAll, List.map_cons, ih]

theorem foldPairs_eq (visit : Node → List Nat → Nat) (pairs : List (Node × Node)) :
    foldPairs visit pairs = (pairs.flatMap fun pair => [pair.1, pair.2]).map (fold visit) := by
  induction pairs with
  | nil => rfl
  | cons pair rest ih => rw [foldPairs, ih]; rfl

theorem fold_eq (visit : Node → List Nat → Nat) (node : Node) :
    node.fold visit = visit node (node.children.map (fold visit)) := by
  cases node with
  | ifExpression condition consequence alternative => cases alternative <;> rfl
  | program | blockStatement | callExpression | arrayLiteral =>
      simp only [fold, children, foldAll_eq, List.map_cons]
  | hashLiteral => rw [fold, foldPairs_eq, children]
  | _ => rfl

/-- How many nodes stand on the longest way down. -/
def height : Node → Nat :=
  fold fun _ below => below.foldr max 0 + 1

/-- The sum of the weights of all nodes of a tree. -/
def total (weight : Node → Nat) : Node → Nat :=
  fold fun node below => weight node + below.sum

theorem height_eq (node : Node) : node.height = (node.children.map height).foldr max 0 + 1 :=
  fold_eq _ node

theorem total_eq (weight : Node → Nat) (node : Node) :
    node.total weight = weight node + (node.children.map (total weight)).sum :=
  fold_eq _ node

theorem le_foldr_max {number : Nat} {numbers : List Nat} (member : number ∈ numbers) :
    number ≤ numbers.foldr max 0 := by
  induction numbers with
  | nil => cases member
  | cons first rest ih =>
      rw [List.foldr_cons]
      rcases List.mem_cons.mp member with rfl | later
      · exact Nat.le_max_left _ _
      · exact Nat.le_trans (ih later) (Nat.le_max_right _ _)

theorem height_lt {node child : Node} (member : child ∈ node.children) :
    child.height < node.height := by
  rw [height_eq node]
  exact Nat.lt_succ_of_le (le_foldr_max (List.mem_map_of_mem member))

end MonkeyLang.Node
