/-!
Operators as they stand in a syntax tree. The language has nine; a tree built by
a host may carry any other spelling, which evaluation reports as unknown.
-/

namespace MonkeyLang

inductive Operator where
  | plus
  | minus
  | times
  | divide
  | equal
  | unequal
  | less
  | greater
  | bang
  /-- A spelling outside the language. -/
  | other (spelling : String)
  deriving DecidableEq, Repr

namespace Operator

def spelling : Operator → String
  | plus => "+"
  | minus => "-"
  | times => "*"
  | divide => "/"
  | equal => "=="
  | unequal => "!="
  | less => "<"
  | greater => ">"
  | bang => "!"
  | other spelling => spelling

/-- The nine operators of the language. -/
def all : List Operator :=
  [bang, minus, plus, times, divide, equal, unequal, less, greater]

/-- The two operators that may stand before an operand. -/
def unary : List Operator :=
  [bang, minus]

def ofSpelling (text : String) : Operator :=
  (all.find? fun operator => operator.spelling == text).getD (other text)

theorem spelling_ofSpelling (text : String) : (ofSpelling text).spelling = text := by
  unfold ofSpelling
  cases found : all.find? fun operator => operator.spelling == text with
  | none => rfl
  | some operator => simpa using List.find?_some found

theorem ofSpelling_spelling {operator : Operator} (known : operator ∈ all) :
    ofSpelling operator.spelling = operator := by
  cases operator <;> simp [all] at known <;> rfl

end Operator

end MonkeyLang
