import MonkeyLang.Proofs.Standard

/-!
The depth that an evaluation is allowed decides whether it finishes, but not how: with
more depth a finished evaluation finishes in the same way. So it makes sense to say of
a node that it yields a value, without naming a depth.
-/

namespace MonkeyLang.Eval

/-- The standard that asks for nothing: both sides are in the same state. -/
def sameRuns : Standard Fixed where
  state _ first second := first = second
  value _ _ := True
  failed _ _ first second := first = second
  node _ _ _ _ := True

theorem sameRuns_settles (state : State) (value : Value) :
    sameRuns.Settles .world state state value := by
  cases value <;> trivial

theorem sameRuns_lawful : sameRuns.Lawful where
  grows _ _ := trivial
  node_grows _ _ := trivial
  serial same := by cases same; rfl
  next same := by cases same; rfl
  traced _ same := by cases same; rfl
  counted _ same := by cases same; rfl
  bumped same := by cases same; rfl
  fails _ same := by cases same; rfl
  failed_stepped same := by cases same; rfl
  failed_traced _ same := by cases same; rfl
  raised _ same := by cases same; rfl
  unknown _ same := by cases same; rfl
  null := trivial
  boolean _ := trivial
  string _ _ := trivial
  wrapped _ _ := trivial
  measured _ _ _ := trivial
  array _ _ := trivial
  hash _ _ _ := trivial
  element _ same value _ := by
    cases same
    exact sameRuns_settles _ value
  tail _ _ := trivial
  pushed _ _ _ _ := trivial
  entry _ same pair _ := by
    cases same
    exact sameRuns_settles _ pair.2.2
  inner _ same := by
    cases same
    exact sameRuns_settles _ _
  operand _ _ _ := trivial
  step _ _ _ := trivial
  found _ same := by
    cases same
    exact ⟨rfl, fun value _ => sameRuns_settles _ value⟩
  builtin _ _ := trivial
  integer _ _ := trivial
  function _ _ := trivial
  returned _ _ _ _ := .inr trivial
  bound _ _ _ same := by cases same; rfl
  entered _ _ _ same := by
    cases same
    exact ⟨.world, le_rfl, rfl, trivial⟩

theorem evalWithin_extend {depth : Nat} {node : Node} {scope : ScopeId} {before after : State}
    {value : Value} (run : evalWithin depth node scope before = some (value, after))
    (extra : Nat) : evalWithin (depth + extra) node scope before = some (value, after) := by
  obtain ⟨final, _, extended, -, ends⟩ :=
    sameRuns_lawful.finished extra (show sameRuns.node .world true node scope from trivial)
      (show sameRuns.state .world before before from rfl) run
  have same : after = final := by
    rcases ends with ⟨serial, fault, -, same⟩ | ⟨-, same⟩ <;> exact same
  rw [extended, same]

/-- True of every depth from some depth on. -/
def Finally (good : Nat → Prop) : Prop :=
  ∃ enough, ∀ depth, enough ≤ depth → good depth

namespace Finally

variable {good better : Nat → Prop}

theorem of_all (always : ∀ depth, good depth) : Finally good :=
  ⟨0, fun depth _ => always depth⟩

theorem mono (finally_good : Finally good) (improves : ∀ depth, good depth → better depth) :
    Finally better := by
  rcases finally_good with ⟨enough, holds⟩
  exact ⟨enough, fun depth above => improves depth (holds depth above)⟩

theorem and (first : Finally good) (second : Finally better) :
    Finally fun depth => good depth ∧ better depth := by
  rcases first with ⟨enough, holds⟩
  rcases second with ⟨enough', holds'⟩
  refine ⟨max enough enough', fun depth above => ⟨holds depth ?_, holds' depth ?_⟩⟩
  · omega
  · omega

theorem of_succ (later : Finally fun depth => good (depth + 1)) : Finally good := by
  rcases later with ⟨enough, holds⟩
  refine ⟨enough + 1, fun depth above => ?_⟩
  cases depth with
  | zero => omega
  | succ depth => exact holds depth (by omega)

theorem exists_depth (finally_good : Finally good) : ∃ depth, good depth := by
  rcases finally_good with ⟨enough, holds⟩
  exact ⟨enough, holds enough (Nat.le_refl enough)⟩

end Finally

/-- Some depth suffices for a node to evaluate to a value. -/
def Yields (node : Node) (scope : ScopeId) (before : State) (value : Value) (after : State) :
    Prop :=
  ∃ depth, evalWithin depth node scope before = some (value, after)

theorem Yields.eventually {node : Node} {scope : ScopeId} {before after : State} {value : Value}
    (yields : Yields node scope before value after) :
    Finally fun depth => evalWithin depth node scope before = some (value, after) := by
  rcases yields with ⟨depth, run⟩
  refine ⟨depth, fun more above => ?_⟩
  obtain ⟨extra, rfl⟩ := Nat.exists_eq_add_of_le above
  exact evalWithin_extend run extra

theorem Yields.unique {node : Node} {scope : ScopeId} {before after final : State}
    {value other : Value} (first : Yields node scope before value after)
    (second : Yields node scope before other final) : value = other ∧ after = final := by
  rcases first with ⟨depth, run⟩
  rcases second with ⟨depth', run'⟩
  -- both runs are extended to the sum of the depths
  have extended := evalWithin_extend run depth'
  rw [Nat.add_comm, evalWithin_extend run' depth] at extended
  cases extended
  exact ⟨rfl, rfl⟩

theorem evaluate_run (depth : Nat) (node : Node) (scope : ScopeId) (verbose : Bool)
    (before : State) :
    evaluate depth node scope verbose before =
      (evalWithin depth node scope
        (if verbose then { before with level := .debug } else before)).map fun result =>
          (result.1, { result.2 with level := before.level }) := by
  cases verbose with
  | true =>
      show (evalWithin depth node scope { before with level := .debug }).bind _ = _
      rw [if_pos rfl]
      cases evalWithin depth node scope { before with level := .debug } <;> rfl
  | false =>
      show (evalWithin depth node scope before).bind _ = _
      rw [if_neg Bool.false_ne_true]
      cases evalWithin depth node scope before <;> rfl

theorem evaluate_unique {depth more : Nat} {node : Node} {scope : ScopeId} {verbose : Bool}
    {before after final : State} {value other : Value}
    (first : evaluate depth node scope verbose before = some (value, after))
    (second : evaluate more node scope verbose before = some (other, final)) :
    value = other ∧ after = final := by
  rw [evaluate_run, Option.map_eq_some_iff] at first second
  rcases first with ⟨⟨result, last⟩, run, finish⟩
  rcases second with ⟨⟨result', last'⟩, run', finish'⟩
  obtain ⟨same, also⟩ := Yields.unique ⟨depth, run⟩ ⟨more, run'⟩
  cases same
  cases also
  cases finish
  cases finish'
  exact ⟨rfl, rfl⟩

end MonkeyLang.Eval
