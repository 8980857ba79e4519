import MonkeyLang.Proofs.Standard

/-!
Which evaluations a run comes to. A run may never end, and then it has no result to speak
of, but it goes through states all the same. Evaluating a node comes to an evaluation below
it if it matters how that one ends: with another answer there, and the same answers
everywhere else, the node would end differently. What a lawful standard says of states
between evaluations is therefore true of every state that a run comes to.
-/

namespace MonkeyLang.Eval

/-- A node about to be evaluated. -/
structure Site where
  node : Node
  scope : ScopeId
  state : State

/-- Evaluating the node of `site` comes to the evaluation that starts at `inner`. An error ends
whatever asks for it, so every evaluation that is made can make a difference. -/
def Consults (depth : Nat) (site inner : Site) : Prop :=
  ∃ recur : Node → ScopeId → Eval Value,
    (∀ node scope state, (⟨node, scope, state⟩ : Site) ≠ inner →
      recur node scope state = evalWithin depth node scope state) ∧
    evalNode recur site.node site.scope site.state ≠
      evalNode (evalWithin depth) site.node site.scope site.state

/-- The run that starts at `root` comes to the evaluation that starts at a site. -/
inductive Reached (root : Site) : Site → Prop where
  | root : Reached root root
  | inner {depth site inner} : Reached root site → Consults depth site inner → Reached root inner

/-- Evaluations may start at some sites. If what a node at such a site does depends on the
evaluations at such sites only, a run that may start comes to no others. -/
@[elab_as_elim]
theorem Reached.admitted {motive : Site → Prop}
    (closed : ∀ depth recur site, motive site →
      (∀ inner, motive inner → recur inner.node inner.scope inner.state =
        evalWithin depth inner.node inner.scope inner.state) →
      evalNode recur site.node site.scope site.state =
        evalNode (evalWithin depth) site.node site.scope site.state)
    {root site : Site} (starts : motive root) (reached : Reached root site) : motive site := by
  induction reached with
  | root => exact starts
  | @inner depth site inner _ consults ih =>
      obtain ⟨recur, elsewhere, differs⟩ := consults
      by_contra forbidden
      -- the answer that was changed is one that nothing asks for
      refine differs (closed depth recur site ih fun other allowed => elsewhere _ _ _ ?_)
      rintro rfl
      exact forbidden allowed

variable {World : Type} [Preorder World]

theorem Simulates.of_eq {α β : Type} {world : World} {left left' : Eval α} {right right' : Eval β}
    {first second : State} {post : World → α → State → β → State → Prop}
    (run : Simulates world left right first second post) (left_same : left' first = left first)
    (right_same : right' second = right second) :
    Simulates world left' right' first second post := by
  intro value after finished
  obtain ⟨other, final, later, other_finished, le, holds⟩ :=
    run value after (left_same.symm.trans finished)
  exact ⟨other, final, later, right_same.trans other_finished, le, holds⟩

namespace Standard

variable {standard : Standard World}

/-- Nothing is related but a state to itself. -/
structure Diagonal (standard : Standard World) : Prop where
  state {world first second} : standard.state world first second → first = second
  failed {world fault first second} : standard.failed world fault first second → first = second

/-- Where evaluations that the standard allows start, two evaluators answer as the one of
some depth does. -/
def Follows (standard : Standard World) (world : World) (depth : Nat)
    (recur : Node → ScopeId → Eval Value) : Prop :=
  ∀ later returns node scope state, world ≤ later → standard.node later returns node scope →
    standard.state later state state → recur node scope state = evalWithin depth node scope state

theorem Lawful.matches_follows (law : standard.Lawful) (diagonal : standard.Diagonal)
    {world : World} {depth : Nat} {left right : Node → ScopeId → Eval Value} {returns : Bool}
    {node : Node} {scope : ScopeId} {state : State}
    (left_follows : standard.Follows world depth left)
    (right_follows : standard.Follows world depth right)
    (allowed : standard.node world returns node scope) (held : standard.state world state state) :
    standard.simulation.Matches (standard.Passed returns) world (evalNode left node scope)
      (evalNode right node scope) state state := by
  -- below an allowed node both sides are the evaluator of the given depth
  have below (returns : Bool) (child : Node) (inner : ScopeId) (later : World) (after final : State)
      (le : world ≤ later) (allowed : standard.node later returns child inner)
      (held : standard.state later after final) :
      standard.simulation.Matches (standard.Passed returns) later (left child inner)
        (right child inner) after final := by
    cases diagonal.state held
    exact Simulates.of_eq (law.matches_evalWithin depth 0 allowed held)
      (left_follows later returns child inner after le allowed held)
      (right_follows later returns child inner after le allowed held)
  refine law.matches_node ?_ ?_ ?_ allowed held
  · intro child _ later after final le allowed held
    exact agrees_of_passed (below false child scope later after final le allowed held)
  · intro child _ later after final le allowed held
    exact below returns child scope later after final le allowed held
  · intro later _ _ body _ inner after final le _ allowed held
    exact below true body inner later after final le allowed held

/-- Two computations that simulate each other are the same. -/
theorem eq_of_matches (diagonal : standard.Diagonal) {world : World} {returns : Bool}
    {left right : Eval Value} {state : State}
    (forth : standard.simulation.Matches (standard.Passed returns) world left right state state)
    (back : standard.simulation.Matches (standard.Passed returns) world right left state state) :
    left state = right state := by
  cases ended : left state with
  | some result =>
      rcases result with ⟨value, after⟩
      obtain ⟨other, final, later, other_ended, -, meets⟩ := forth value after ended
      rw [other_ended]
      rcases meets with ⟨-, -, same, serial, fault, -, failed⟩ | ⟨-, -, ⟨same, -⟩, held⟩
      · rw [same, diagonal.failed failed]
      · rw [same, diagonal.state held]
  | none =>
      cases other_ended : right state with
      | none => rfl
      | some result =>
          obtain ⟨_, _, _, ended', -⟩ := back result.1 result.2 other_ended
          rw [ended] at ended'
          cases ended'

/-- Allowed evaluations come to allowed evaluations only. -/
theorem Lawful.reached (law : standard.Lawful) (diagonal : standard.Diagonal) {world : World}
    {returns : Bool} {root site : Site} (allowed : standard.node world returns root.node root.scope)
    (held : standard.state world root.state root.state) (reached : Reached root site) :
    ∃ later returns, world ≤ later ∧ standard.node later returns site.node site.scope ∧
      standard.state later site.state site.state := by
  refine Reached.admitted ?_ ⟨world, returns, le_rfl, allowed, held⟩ reached
  rintro depth recur site ⟨later, returns, le, allowed, held⟩ agrees
  have follows : standard.Follows later depth recur := by
    intro last returns node scope state further allowed held
    exact agrees ⟨node, scope, state⟩ ⟨last, returns, le_trans le further, allowed, held⟩
  have itself : standard.Follows later depth (evalWithin depth) := fun _ _ _ _ _ _ _ _ => rfl
  exact eq_of_matches diagonal
    (law.matches_follows diagonal follows itself allowed held)
    (law.matches_follows diagonal itself follows allowed held)

end Standard

end MonkeyLang.Eval
