import MonkeyLang.Proofs.Nesting

/-!
What is true of a tree at every place, the bodies of its function literals included. It is
then true of each part of the tree in the same way.
-/

namespace MonkeyLang.Node

/-- The body of a function literal, which is evaluated when the function is called. -/
def bodies : Node → List Node
  | functionLiteral _ body => [body]
  | _ => []

def Everywhere (good : Node → Prop) (node : Node) : Prop :=
  ∀ path part, node.Occurs path part → good part

/-- Looks at every place of a tree that is at most `depth` nodes deep. -/
def holdsWithin (good : Node → Prop) [DecidablePred good] : Nat → Node → Bool
  | 0, _ => false
  | depth + 1, node =>
      decide (good node) &&
        (node.operands ++ node.steps ++ node.bodies).all (holdsWithin good depth)

variable {node child part inside : Node} {path : List Literal} {parameters : List String}

theorem Occurs.of_operand (member : child ∈ node.operands) (occurs : child.Occurs path part) :
    node.Occurs path part := by
  induction occurs with
  | root => exact .operand .root member
  | operand _ below ih => exact .operand ih below
  | step _ below ih => exact .step ih below
  | body _ ih => exact .body ih

theorem Occurs.of_step (member : child ∈ node.steps) (occurs : child.Occurs path part) :
    node.Occurs path part := by
  induction occurs with
  | root => exact .step .root member
  | operand _ below ih => exact .operand ih below
  | step _ below ih => exact .step ih below
  | body _ ih => exact .body ih

theorem Occurs.of_body (occurs : inside.Occurs path part) :
    (functionLiteral parameters inside).Occurs (path ++ [⟨parameters, inside⟩]) part := by
  have literal : (functionLiteral parameters inside).Occurs [] (.literal ⟨parameters, inside⟩) :=
    .root
  induction occurs with
  | root => exact .body literal
  | operand _ below ih => exact .operand ih below
  | step _ below ih => exact .step ih below
  | body _ ih => exact .body ih

/-- What stands in a tree is the tree itself or stands in one of its parts. -/
theorem Occurs.here_or_below (occurs : node.Occurs path part) :
    part = node ∨ ∃ child ∈ node.operands ++ node.steps ++ node.bodies, ∃ path,
      child.Occurs path part := by
  induction occurs with
  | root => exact .inl rfl
  | operand _ member ih =>
      rcases ih with rfl | ⟨child, among, path, occurs⟩
      · exact .inr ⟨_, by simp [member], [], .root⟩
      · exact .inr ⟨child, among, path, .operand occurs member⟩
  | step _ member ih =>
      rcases ih with rfl | ⟨child, among, path, occurs⟩
      · exact .inr ⟨_, by simp [member], [], .root⟩
      · exact .inr ⟨child, among, path, .step occurs member⟩
  | @body _ literal _ ih =>
      rcases ih with same | ⟨child, among, path, occurs⟩
      · rw [← same]
        exact .inr ⟨literal.body, by simp [Node.literal, bodies], [], .root⟩
      · exact .inr ⟨child, among, _, .body occurs⟩

namespace Everywhere

variable {good : Node → Prop}

theorem here (everywhere : node.Everywhere good) : good node :=
  everywhere [] node .root

theorem operand (everywhere : node.Everywhere good) :
    ∀ child ∈ node.operands, child.Everywhere good := by
  intro child member path part occurs
  exact everywhere path part (occurs.of_operand member)

theorem step (everywhere : node.Everywhere good) :
    ∀ child ∈ node.steps, child.Everywhere good := by
  intro child member path part occurs
  exact everywhere path part (occurs.of_step member)

theorem body (everywhere : (functionLiteral parameters inside).Everywhere good) :
    inside.Everywhere good := by
  intro path part occurs
  exact everywhere _ part occurs.of_body

theorem of_holdsWithin [DecidablePred good] (depth : Nat)
    (holds : node.holdsWithin good depth = true) : node.Everywhere good := by
  intro path part occurs
  induction depth generalizing node path with
  | zero => cases holds
  | succ depth ih =>
      simp only [holdsWithin, Bool.and_eq_true, decide_eq_true_eq, List.all_eq_true] at holds
      rcases occurs.here_or_below with rfl | ⟨child, among, inner, occurs⟩
      · exact holds.1
      · exact ih (holds.2 child among) inner occurs

end Everywhere

end MonkeyLang.Node
