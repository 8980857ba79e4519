import MonkeyLang.Proofs.Answers
import MonkeyLang.Proofs.Parts

/-!
Where the answer of an operation comes from. Whatever the operator or the builtin, an operation
hands out a truth value, `null` or a part of an operand, or it makes one object, which is an
integer, a string or an array of what the operands contain, or it fails.
-/

namespace MonkeyLang

/-- The values that a value holds directly. -/
def Value.children : Value → List Value
  | array _ elements => elements
  | hash _ entries => entries.flatMap fun entry => [entry.2.1, entry.2.2]
  | returned _ value => [value]
  | _ => []

namespace Value

theorem within_of_mem_children {whole child part : Value} (member : child ∈ whole.children)
    (inside : part.Within child) : part.Within whole := by
  cases whole with
  | array serial elements => exact .element member inside
  | hash serial entries =>
      obtain ⟨entry, among, either⟩ := List.mem_flatMap.mp member
      rcases List.mem_pair.mp either with rfl | rfl
      · exact .key among inside
      · exact .item among inside
  | returned serial value => exact .wrapped (List.mem_singleton.mp member ▸ inside)
  | _ => cases member

theorem Throughout.child {good : Value → Prop} {whole child : Value}
    (clean : whole.Throughout good) (member : child ∈ whole.children) : child.Throughout good :=
  fun part inside => clean part (within_of_mem_children member inside)

end Value

namespace Semantics

open Eval

/-- An answer that is a constant or a part of what is given, or that is made of such parts. -/
inductive Answer.From (given : List Value) : Answer → Prop where
  | boolean (truth : Bool) : From given (.plain (.boolean truth))
  | null : From given (.plain .null)
  | part {whole part : Value} : whole ∈ given → part ∈ whole.children → From given (.plain part)
  | integer (number : Int) : From given (.integer number)
  | string (text : String) : From given (.string text)
  | array {elements : List Value} :
      (∀ element ∈ elements, element ∈ given ∨ ∃ whole ∈ given, element ∈ whole.children) →
      From given (.array elements)
  | failure (fault : Fault) : From given (.failure fault)

variable {answer : Answer} {left right : Value}

theorem applyPrefix_from (operator : Operator) (right : Value) :
    ∃ answer : Answer, answer.From [right] ∧ applyPrefix operator right = answer.run := by
  unfold applyPrefix
  split
  · exact ⟨_, .boolean _, rfl⟩
  · exact ⟨_, .integer _, rfl⟩
  · exact ⟨_, .failure _, rfl⟩

theorem InfixAnswer.from_operands {operator : Operator}
    (rule : InfixAnswer operator left right answer) : answer.From [left, right] := by
  cases rule with
  | mismatch | unknown | division_by_zero => exact .failure _
  | sum | difference | product | quotient => exact .integer _
  | less | greater | equal | unequal | identical | distinct => exact .boolean _
  | concatenation => exact .string _

theorem applyInfix_from (operator : Operator) (left right : Value) :
    ∃ answer : Answer, answer.From [left, right] ∧ applyInfix operator left right = answer.run := by
  obtain ⟨answer, rule⟩ := InfixAnswer.total operator left right
  exact ⟨answer, rule.from_operands, rule.run⟩

theorem IndexAnswer.from_operands (rule : IndexAnswer left right answer) :
    answer.From [left, right] := by
  cases rule with
  | element found => exact .part List.mem_cons_self (List.mem_of_getElem? found)
  | beyond | absent => exact .null
  | @filed serial entries index key own value keyed found =>
      have entry : value ∈ (Value.hash serial entries).children :=
        List.mem_flatMap.mpr ⟨(key, own, value), Assoc.mem_of_lookup found,
          List.mem_cons_of_mem own List.mem_cons_self⟩
      exact .part List.mem_cons_self entry
  | unsupported => exact .failure _

theorem applyIndex_from (left right : Value) :
    ∃ answer : Answer, answer.From [left, right] ∧ applyIndex left right = answer.run := by
  obtain ⟨answer, rule⟩ := IndexAnswer.total left right
  exact ⟨answer, rule.from_operands, rule.run⟩

theorem BuiltinAnswer.from_arguments {callee : Builtin} {arguments : List Value}
    (rule : BuiltinAnswer callee arguments answer) : answer.From arguments := by
  cases rule with
  | wrong_arity | not_measurable | not_an_array => exact .failure _
  | text_length | array_length => exact .integer _
  | @first serial value rest => exact .part List.mem_cons_self List.mem_cons_self
  | @last serial front value =>
      exact .part List.mem_cons_self (List.mem_append_right front List.mem_cons_self)
  | @rest serial value rest =>
      apply Answer.From.array
      intro element member
      exact .inr ⟨_, List.mem_cons_self, List.mem_cons_of_mem value member⟩
  | empty => exact .null
  | @push serial elements value =>
      apply Answer.From.array
      intro element member
      rcases List.mem_append.mp member with old | new
      · exact .inr ⟨_, List.mem_cons_self, old⟩
      · exact .inl (List.mem_cons_of_mem _ new)

theorem applyBuiltin_from (callee : Builtin) (arguments : List Value) :
    ∃ answer : Answer, answer.From arguments ∧ applyBuiltin callee arguments = answer.run := by
  obtain ⟨answer, rule⟩ := BuiltinAnswer.total callee arguments
  exact ⟨answer, rule.from_arguments, rule.run⟩

end Semantics

end MonkeyLang
