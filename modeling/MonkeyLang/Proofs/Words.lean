import MonkeyLang.Proofs.Everywhere
import MonkeyLang.Proofs.Hereditary

/-!
Integers are words. Every result of arithmetic is wrapped, the smallest integer negated or
divided by minus one included, so a program whose literals fit into 64 bits has no other
integers. The lengths that `len` counts are not wrapped, which is why it must be out of reach.
-/

namespace MonkeyLang

/-- A literal fits into a word, and no name stands for the function that measures lengths. -/
def Node.keepsWords : Node → Bool
  | .integerLiteral number => decide (Word.InRange number)
  | .identifier name => decide (name ≠ Builtin.len.name)
  | _ => true

/-- An integer fits into a word, and so do the literals that a call of a function comes to. -/
def Value.KeepsWords : Value → Prop
  | .integer _ number => Word.InRange number
  | .builtin callee => callee ≠ .len
  | .function _ _ body _ => body.Everywhere fun part => part.keepsWords
  | _ => True

namespace Eval

theorem keepsWords_hereditary :
    Hereditary Value.KeepsWords fun node => node.Everywhere fun part => part.keepsWords where
  containers := ⟨fun _ _ => trivial, fun _ _ => trivial⟩
  returned _ _ := trivial
  null := trivial
  boolean _ := trivial
  string _ _ := trivial
  wrapped _ number := Word.wrap_inRange number
  measured _ _ known := absurd rfl known
  integer _ allowed := by
    have inside := allowed.here
    simp only [Node.keepsWords, decide_eq_true_eq] at inside
    exact inside
  builtin builtin allowed := by
    rintro rfl
    simpa [Node.keepsWords] using allowed.here
  function _ _ allowed := allowed.body
  body keeps := keeps
  operand allowed := allowed.operand
  step allowed := allowed.step

/-- Whatever an evaluation makes or leaves behind, all integers in it are words, and it is as
fit as before for the next evaluation. -/
theorem integers_stay_words {depth : Nat} {node : Node} {scope : ScopeId} {before after : State}
    {value : Value} (fits : node.Everywhere fun part => part.keepsWords)
    (keeps : before.Throughout Value.KeepsWords)
    (run : evalWithin depth node scope before = some (value, after)) :
    value.Throughout Value.KeepsWords ∧ after.Throughout Value.KeepsWords := by
  obtain ⟨ends, kept⟩ := keepsWords_hereditary.finished_run fits keeps run
  refine ⟨?_, kept⟩
  rcases ends with failure | keeps
  · obtain ⟨serial, fault, rfl⟩ := Value.eq_error failure
    exact .of_atom trivial trivial
  · exact keeps

/-- `(fn(x) { (-x) / -1 })(m)` -/
def negatedTwice : Node :=
  .callExpression
    (.functionLiteral ["x"] (.blockStatement [.expressionStatement (.infixExpression
      (.prefixExpression .minus (.identifier "x")) .divide (.integerLiteral (-1)))]))
    [.identifier "m"]

/-- The smallest integer is bound to `m`. -/
def smallestBound : State :=
  State.initial.bound 0 "m" (.integer 0 (-9223372036854775808))

/-- The smallest integer is its own negative, and its quotient by minus one. -/
theorem integers_stay_words_negatedTwice : ∃ serial after,
    negatedTwice.Everywhere (fun part => part.keepsWords) ∧
      smallestBound.Throughout Value.KeepsWords ∧
      evalWithin 9 negatedTwice 0 smallestBound =
        some (.integer serial (-9223372036854775808), after) ∧
      (Value.integer serial (-9223372036854775808)).Throughout Value.KeepsWords ∧
      after.Throughout Value.KeepsWords := by
  have fits : negatedTwice.Everywhere fun part => part.keepsWords :=
    .of_holdsWithin 7 (by decide)
  have smallest : (Value.integer 0 (-9223372036854775808)).KeepsWords :=
    show Word.InRange (-9223372036854775808) by decide
  have empty : State.initial.Throughout Value.KeepsWords := State.initial_throughout
  have keeps : smallestBound.Throughout Value.KeepsWords :=
    empty.bound (.of_atom smallest trivial) 0 "m"
  obtain ⟨serial, after, run⟩ : ∃ serial after, evalWithin 9 negatedTwice 0 smallestBound =
      some (.integer serial (-9223372036854775808), after) := ⟨_, _, rfl⟩
  obtain ⟨result, left⟩ := integers_stay_words fits keeps run
  exact ⟨serial, after, fits, keeps, run, result, left⟩

end Eval

end MonkeyLang
