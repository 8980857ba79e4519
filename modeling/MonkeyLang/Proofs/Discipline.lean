import MonkeyLang.Proofs.Invariant
import MonkeyLang.Proofs.Parts

/-!
Where returns may stand. A program of the surface grammar has statements in the lists of
programs and blocks only, and blocks only as bodies and branches. It is disciplined if no
return stands inside of an operand: on the way up from it to the body of a function, or to
the program, there are statements, blocks and branches and nothing else.

A disciplined program never hands a returned value to an operation, so none is ever stored.
-/

namespace MonkeyLang

inductive Place where
  | program
  | statement
  | block
  | expression
  deriving DecidableEq

namespace Node

mutual

/-- Whether a node may stand in a place. Under `returns` it may contain returns outside of
function literals, and under `loose` its operands may contain some as well. -/
def fits (loose : Bool) (place : Place) (returns : Bool) : Node → Bool
  | program statements => decide (place = .program) && allFit loose returns statements
  | letStatement _ value => decide (place = .statement) && value.fits loose .expression loose
  | returnStatement value =>
      decide (place = .statement) && returns && value.fits loose .expression loose
  | expressionStatement expression =>
      decide (place = .statement) && expression.fits loose .expression returns
  | blockStatement statements => decide (place = .block) && allFit loose returns statements
  | identifier _ => decide (place = .expression)
  | integerLiteral _ => decide (place = .expression)
  | stringLiteral _ => decide (place = .expression)
  | booleanLiteral _ => decide (place = .expression)
  | prefixExpression _ right => decide (place = .expression) && right.fits loose .expression loose
  | infixExpression left _ right =>
      decide (place = .expression) && left.fits loose .expression loose &&
        right.fits loose .expression loose
  | ifExpression condition consequence none =>
      decide (place = .expression) && condition.fits loose .expression loose &&
        consequence.fits loose .block returns
  | ifExpression condition consequence (some alternative) =>
      decide (place = .expression) && condition.fits loose .expression loose &&
        consequence.fits loose .block returns && alternative.fits loose .block returns
  | functionLiteral _ body => decide (place = .expression) && body.fits loose .block true
  | callExpression callee arguments =>
      decide (place = .expression) && callee.fits loose .expression loose &&
        allOperands loose arguments
  | arrayLiteral elements => decide (place = .expression) && allOperands loose elements
  | indexExpression left index =>
      decide (place = .expression) && left.fits loose .expression loose &&
        index.fits loose .expression loose
  | hashLiteral pairs => decide (place = .expression) && pairsFit loose pairs
  | unknown _ => false

def allFit (loose returns : Bool) : List Node → Bool
  | [] => true
  | statement :: rest => statement.fits loose .statement returns && allFit loose returns rest

def allOperands (loose : Bool) : List Node → Bool
  | [] => true
  | node :: rest => node.fits loose .expression loose && allOperands loose rest

def pairsFit (loose : Bool) : List (Node × Node) → Bool
  | [] => true
  | (key, value) :: rest =>
      key.fits loose .expression loose && value.fits loose .expression loose && pairsFit loose rest

end

/-- Programs of the surface grammar. -/
def isSurface (node : Node) : Bool :=
  node.fits true .program true

/-- Programs of the surface grammar all whose returns stand in statement position. -/
def isDisciplined (node : Node) : Bool :=
  node.fits false .program true

section Parts
variable {loose returns : Bool} {place : Place}

theorem allFit_iff {statements : List Node} : allFit loose returns statements = true ↔
    ∀ statement ∈ statements, statement.fits loose .statement returns = true := by
  induction statements with
  | nil => simp [allFit]
  | cons statement rest ih => simp [allFit, ih]

theorem allOperands_iff {nodes : List Node} : allOperands loose nodes = true ↔
    ∀ node ∈ nodes, node.fits loose .expression loose = true := by
  induction nodes with
  | nil => simp [allOperands]
  | cons node rest ih => simp [allOperands, ih]

theorem pairsFit_iff {pairs : List (Node × Node)} : pairsFit loose pairs = true ↔
    ∀ pair ∈ pairs, pair.1.fits loose .expression loose = true ∧
      pair.2.fits loose .expression loose = true := by
  induction pairs with
  | nil => simp [pairsFit]
  | cons pair rest ih => simp [pairsFit, ih, and_assoc]

theorem place_unique {other : Place} {also : Bool} {node : Node}
    (here : node.fits loose place returns = true)
    (there : node.fits loose other also = true) : place = other := by
  cases node with
  | ifExpression condition consequence alternative => cases alternative <;> simp_all [fits]
  | _ => simp_all [fits]

theorem fits_operand {node : Node} (fit : node.fits loose place returns = true) :
    ∀ child ∈ node.operands, child.fits loose .expression loose = true := by
  intro child member
  cases node with
  | ifExpression condition consequence alternative =>
      cases alternative <;> simp_all [operands, fits]
  | callExpression callee arguments =>
      simp only [fits, Bool.and_eq_true, allOperands_iff] at fit
      rcases List.mem_cons.mp member with rfl | argument
      · exact fit.1.2
      · exact fit.2 child argument
  | arrayLiteral elements =>
      simp only [fits, Bool.and_eq_true, allOperands_iff] at fit
      exact fit.2 child member
  | hashLiteral pairs =>
      simp only [fits, Bool.and_eq_true, pairsFit_iff] at fit
      obtain ⟨pair, among, inside⟩ := List.mem_flatMap.mp member
      rcases List.mem_cons.mp inside with rfl | second
      · exact (fit.2 pair among).1
      · exact List.mem_singleton.mp second ▸ (fit.2 pair among).2
  | infixExpression left operator right =>
      simp only [fits, Bool.and_eq_true] at fit
      rcases List.mem_cons.mp member with rfl | second
      · exact fit.1.2
      · exact List.mem_singleton.mp second ▸ fit.2
  | indexExpression left index =>
      simp only [fits, Bool.and_eq_true] at fit
      rcases List.mem_cons.mp member with rfl | second
      · exact fit.1.2
      · exact List.mem_singleton.mp second ▸ fit.2
  | _ => simp_all [operands, fits]

theorem fits_step {node : Node} (fit : node.fits loose place returns = true) :
    ∀ child ∈ node.steps, ∃ inner, child.fits loose inner returns = true ∧
      child ∉ node.operands := by
  intro child member
  cases node with
  | program statements =>
      simp only [fits, Bool.and_eq_true, allFit_iff] at fit
      exact ⟨.statement, fit.2 child member, List.not_mem_nil⟩
  | blockStatement statements =>
      simp only [fits, Bool.and_eq_true, allFit_iff] at fit
      exact ⟨.statement, fit.2 child member, List.not_mem_nil⟩
  | expressionStatement expression =>
      simp only [fits, Bool.and_eq_true] at fit
      exact ⟨.expression, List.mem_singleton.mp member ▸ fit.2, List.not_mem_nil⟩
  | ifExpression condition consequence alternative =>
      have block : child.fits loose .block returns = true := by
        cases alternative with
        | none =>
            simp only [fits, Bool.and_eq_true] at fit
            exact List.mem_singleton.mp member ▸ fit.2
        | some alternative =>
            simp only [fits, Bool.and_eq_true] at fit
            rcases List.mem_cons.mp member with rfl | second
            · exact fit.1.2
            · exact List.mem_singleton.mp second ▸ fit.2
      -- the condition is an expression, so it is not one of the branches
      refine ⟨.block, block, fun operand => ?_⟩
      cases place_unique block (fits_operand fit child operand)
  | _ => cases member

theorem fits_body {parameters : List String} {body : Node}
    (fit : (functionLiteral parameters body).fits loose place returns = true) :
    body.fits loose .block true = true := by
  simp only [fits, Bool.and_eq_true] at fit
  exact fit.2

end Parts

end Node

/-- What is true of every part of a value in the run of a disciplined program. -/
def Value.IsPlain (part : Value) : Prop :=
  part.tag ≠ .returned ∧ ∀ serial parameters body scope,
    part = .function serial parameters body scope → body.fits false .block true = true

namespace Value

theorem plain_containers : HoldsOfContainers IsPlain where
  array _ _ := ⟨by simp [tag], by simp⟩
  hash _ _ := ⟨by simp [tag], by simp⟩

theorem plain_atom {value : Value} (atom : value.IsAtom) (made : value.tag ≠ .function) :
    value.Throughout IsPlain := by
  refine (throughout_atom atom).mpr ⟨?_, ?_⟩
  · cases value <;> simp_all [tag, IsAtom]
  · rintro serial parameters body scope rfl
    exact absurd rfl made

theorem plain_function {serial : Nat} {parameters : List String} {body : Node} {scope : ScopeId} :
    (function serial parameters body scope).Throughout IsPlain ↔
      body.fits false .block true = true := by
  have atom : (function serial parameters body scope).IsAtom := trivial
  rw [throughout_atom atom]
  constructor
  · exact fun plain => plain.2 _ _ _ _ rfl
  · intro fit
    refine ⟨by simp [tag], ?_⟩
    rintro _ _ _ _ same
    cases same
    exact fit

end Value

namespace Eval.Discipline

/-- Returned values reach statements only, and no binding. -/
def invariant : Invariant where
  state state := state.Throughout Value.IsPlain
  value value := value.Throughout Value.IsPlain
  failed _ state := state.Throughout Value.IsPlain
  node returns node _ := ∃ place, node.fits false place returns = true

theorem settles {state : State} {value : Value} (clean : state.Throughout Value.IsPlain)
    (plain : value.Throughout Value.IsPlain) : invariant.Settles state value := by
  cases value with
  | error serial fault => exact clean
  | _ => exact plain

theorem lawful : invariant.Lawful where
  traced event clean := clean.traced event
  counted _ clean := clean.counted _
  bumped clean := clean
  fails _ clean := clean.of_scopes (State.failed_scopes ..)
  failed_stepped clean := clean
  failed_traced event clean := clean.traced event
  raised _ clean := clean.of_scopes (State.failed_scopes ..)
  unknown allowed _ := by
    rcases allowed with ⟨place, fit⟩
    cases fit
  null := Value.plain_atom trivial (by simp [Value.tag])
  boolean _ := Value.plain_atom trivial (by simp [Value.tag])
  string _ _ := Value.plain_atom trivial (by simp [Value.tag])
  wrapped _ _ := Value.plain_atom trivial (by simp [Value.tag])
  measured _ _ _ := Value.plain_atom trivial (by simp [Value.tag])
  array _ holds := Value.plain_containers.array_iff.mpr fun value member => (holds value member).2
  hash _ _ holds := Value.plain_containers.hash_iff.mpr fun entry member =>
    ⟨(holds entry member).1.2, (holds entry member).2.2⟩
  element plain clean value member :=
    settles clean (Value.plain_containers.array_iff.mp plain value member)
  tail fresh plain := Value.plain_containers.tail plain fresh
  pushed fresh plain _ item := Value.plain_containers.pushed plain item fresh
  entry plain clean entry member :=
    settles clean (Value.plain_containers.hash_iff.mp plain entry member).2
  inner plain clean := settles clean (Value.throughout_returned.mp plain).2
  operand allowed child member := by
    rcases allowed with ⟨place, fit⟩
    exact ⟨.expression, Node.fits_operand fit child member⟩
  step allowed child member := by
    rcases allowed with ⟨place, fit⟩
    obtain ⟨inner, fit, -⟩ := Node.fits_step fit child member
    exact ⟨inner, fit⟩
  found _ clean bound := settles clean (clean.lookup? bound)
  builtin _ _ := Value.plain_atom trivial (by simp [Value.tag])
  integer _ _ := Value.plain_atom trivial (by simp [Value.tag])
  function _ allowed := by
    rcases allowed with ⟨place, fit⟩
    exact Value.plain_function.mpr (Node.fits_body fit)
  returned _ allowed _ _ := by
    rcases allowed with ⟨place, fit⟩
    -- a return fits nowhere but where its value may be handed on
    simp only [Node.fits, Bool.and_eq_true] at fit
    exact .inl fit.1.2
  bound _ _ plain clean := clean.bound plain _ _
  entered plain holds _ clean := by
    constructor
    · apply clean.entered
      intro binding member
      exact (holds binding.2 (List.of_mem_zip member).2).2
    · exact ⟨.block, Value.plain_function.mp plain⟩

/-- How the evaluation of a disciplined node ends. -/
theorem finished {depth : Nat} {node : Node} {scope : ScopeId} {place : Place} {returns : Bool}
    {before after : State} {value : Value} (fit : node.fits false place returns = true)
    (clean : before.Throughout Value.IsPlain)
    (run : evalWithin depth node scope before = some (value, after)) :
    value.isError = true ∨
      (returns = true ∧ ∃ serial inner, value = .returned serial inner ∧
        inner.Throughout Value.IsPlain) ∨
      value.Throughout Value.IsPlain ∧ after.Throughout Value.IsPlain := by
  have allowed : invariant.node returns node scope := ⟨place, fit⟩
  rcases lawful.finished allowed clean run with
    ⟨serial, fault, rfl, -⟩ | ⟨-, clean, plain | ⟨returning, serial, inner, same, -, plain⟩⟩
  · exact .inl rfl
  · exact .inr (.inr ⟨plain, clean⟩)
  · exact .inr (.inl ⟨returning, serial, inner, same, plain⟩)

end Eval.Discipline

end MonkeyLang
