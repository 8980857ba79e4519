import MonkeyLang.Proofs.Coherent
import MonkeyLang.Proofs.Frame

/-!
Doing it again. A node without `let` statements of its own leaves no trace that a program
could see, and neither does a call: when it is evaluated a second time right after the first, it
meets a state that is alike to the one before, so the two results look the same and
count the same.
-/

namespace MonkeyLang

theorem State.Preserved.of_writes {before after : State} {names : String → Prop}
    (writes : before.scopes.Writes none names after.scopes) (earlier : before.Precedes after) :
    before.Preserved after where
  toPrecedes := earlier
  bindings scope old := writes.other scope old (by simp)
  outer := writes.link

namespace Eval

/-- Two results in succession, the first from `before` to `middle` and the other from there to
`after`: they look the same, the counters that add up grow by as much both times, and what was
there before is there as it was. -/
structure Repeats (before : State) (value : Value) (middle : State) (other : Value)
    (after : State) : Prop where
  tag : other.tag = value.tag
  text : other.inspect = value.inspect
  fault : ∀ serial fault, value = .error serial fault → ∃ serial', other = .error serial' fault
  counters : Counters.InStep before.counters middle.counters middle.counters after.counters
  first_kept : before.Preserved middle
  second_kept : before.Preserved after

namespace Repeats

variable {before middle after : State} {value other : Value} {pairing : Pairing}

theorem of_alike (alike : value.Alike pairing other)
    (held : Twins.Held before.counters middle.counters pairing middle after)
    (first_kept : before.Preserved middle) (second_kept : middle.Preserved after) :
    Repeats before value middle other after where
  tag := alike.tag.symm
  text := alike.inspect.symm
  fault := by
    rintro serial fault rfl
    cases alike with
    | error _ => exact ⟨_, rfl⟩
  counters := held.counters
  first_kept := first_kept
  second_kept := first_kept.trans second_kept

end Repeats

section Evaluation
variable {depth : Nat} {before after : State} {value : Value}

theorem evalWithin_preserved {node : Node} {home : ScopeId} (coherent : before.Coherent)
    (present : home < before.scopes.next) (quiet : ∀ name, ¬ node.Binds name)
    (run : evalWithin depth node home before = some (value, after)) : before.Preserved after :=
  .of_writes (evalWithin_writes_nothing quiet run) (evalWithin_coherent coherent present run).2.2

theorem call_preserved {callee : Value} {arguments : List Value} (coherent : before.Coherent)
    (callee_known : before.Knows callee)
    (known : ∀ argument ∈ arguments, before.Knows argument)
    (run : call depth callee arguments before = some (value, after)) : before.Preserved after :=
  .of_writes (call_writes run) (call_coherent coherent callee_known known run).2.2

end Evaluation

/-- Evaluating a node without `let` statements of its own a second time gives a result that looks
like the first, and so does calling a value with the same arguments. -/
theorem repeated_runs {depth : Nat} {before middle : State} {value : Value}
    (coherent : before.Coherent) :
    (∀ node home, home < before.scopes.next → (∀ name, ¬ node.Binds name) →
      evalWithin depth node home before = some (value, middle) →
        ∃ other after, evalWithin depth node home middle = some (other, after) ∧
          Repeats before value middle other after) ∧
    ∀ callee arguments, before.Knows callee → (∀ argument ∈ arguments, before.Knows argument) →
      call depth callee arguments before = some (value, middle) →
        ∃ other after, call depth callee arguments middle = some (other, after) ∧
          Repeats before value middle other after := by
  constructor
  · intro node home present quiet run
    have kept := evalWithin_preserved coherent present quiet run
    obtain ⟨other, after, later, twin, -, alike, held⟩ :=
      (Twins.Held.of_coherent coherent kept).evalWithin ⟨rfl, present⟩ run
    have middle_coherent := (evalWithin_coherent coherent present run).1
    have still_present := Nat.lt_of_lt_of_le present kept.scopes
    exact ⟨other, after, twin, .of_alike alike held kept
      (evalWithin_preserved middle_coherent still_present quiet twin)⟩
  · intro callee arguments callee_known known run
    have kept := call_preserved coherent callee_known known run
    obtain ⟨other, after, later, twin, -, alike, held⟩ :=
      (Twins.Held.of_coherent coherent kept).call (callee_known.alike kept)
        (alikes_of_known known kept) run
    have middle_coherent := (call_coherent coherent callee_known known run).1
    have twin_kept := call_preserved middle_coherent (callee_known.mono kept.toPrecedes)
      (fun argument member => (known argument member).mono kept.toPrecedes) twin
    exact ⟨other, after, twin, .of_alike alike held kept twin_kept⟩

/-- `fn(x) { let y = [x]; [y == y, y == [x]] }` -/
def freshArrays : Node :=
  .functionLiteral ["x"] (.blockStatement
    [.letStatement "y" (.arrayLiteral [.identifier "x"]),
      .expressionStatement (.arrayLiteral
        [.infixExpression (.identifier "y") .equal (.identifier "y"),
          .infixExpression (.identifier "y") .equal (.arrayLiteral [.identifier "x"])])])

/-- The function binds a name and makes arrays each time, whether a program calls it or a host. -/
theorem repeated_runs_freshArrays : ∃ callee before value middle result last,
    evalWithin 2 freshArrays 0 State.initial = some (callee, before) ∧
      evalWithin 9 (.callExpression freshArrays [.stringLiteral "a"]) 0 before =
        some (value, middle) ∧
      call 8 callee [.null] before = some (result, last) ∧
      (∃ other after, evalWithin 9 (.callExpression freshArrays [.stringLiteral "a"]) 0 middle =
        some (other, after) ∧ Repeats before value middle other after) ∧
      ∃ other after, call 8 callee [.null] last = some (other, after) ∧
        Repeats before result last other after := by
  have made : ∃ callee before, evalWithin 2 freshArrays 0 State.initial = some (callee, before) ∧
      ∃ value middle, evalWithin 9 (.callExpression freshArrays [.stringLiteral "a"]) 0 before =
        some (value, middle) ∧ 0 < before.scopes.next ∧
        ∃ result last, call 8 callee [.null] before = some (result, last) :=
    ⟨_, _, rfl, _, _, rfl, by decide, _, _, rfl⟩
  rcases made with ⟨callee, before, made, value, middle, run, present, result, last, called⟩
  obtain ⟨coherent, callee_known, -⟩ :=
    evalWithin_coherent State.initial_coherent (by decide) made
  have quiet : ∀ name, ¬ (Node.callExpression freshArrays [.stringLiteral "a"]).Binds name := by
    intro name bound
    cases bound with
    | operand member inside =>
        simp only [Node.operands, List.mem_cons, List.not_mem_nil, or_false] at member
        -- neither the function literal nor the argument has parts that are evaluated with it
        rcases member with rfl | rfl
        all_goals cases inside with
          | operand member _ => cases member
          | step member _ => cases member
    | step member _ => cases member
  have known : ∀ argument ∈ [Value.null], before.Knows argument := by
    intro argument member part inside
    rw [List.mem_singleton.mp member] at inside
    cases inside
    exact ⟨by rintro _ ⟨⟩, by rintro _ _ _ _ ⟨⟩⟩
  exact ⟨callee, before, value, middle, result, last, made, run, called,
    (repeated_runs coherent).1 _ 0 present quiet run,
    (repeated_runs coherent).2 callee _ callee_known known called⟩

end Eval

end MonkeyLang
