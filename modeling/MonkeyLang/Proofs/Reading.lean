import MonkeyLang.Syntax.Render

/-!
Reading canonical source back. An expression is read one character at a time, with a stack of what
it stands in. The only doubtful character is a minus sign behind an opening parenthesis: it may be
an operator, or belong to the literal that the left operand begins with. It is taken for an
operator, and given back to the literal when a second operand or an index turns up.
-/

namespace MonkeyLang

namespace Node

/-- With the sign changed of the literal that the node begins with. -/
def negated : Node → Node
  | integerLiteral value => integerLiteral (-value)
  | callExpression callee arguments => callExpression callee.negated arguments
  | node => node

/-- Whether the node begins with a literal that has a sign. -/
def isSigned : Node → Bool
  | integerLiteral value => decide (value < 0)
  | callExpression callee _ => callee.isSigned
  | _ => false

theorem negated_negated (node : Node) : node.negated.negated = node := by
  cases node with
  | integerLiteral value => exact congrArg integerLiteral (Int.neg_neg value)
  | callExpression callee arguments =>
      exact congrArg (callExpression · arguments) callee.negated_negated
  | _ => rfl

end Node

/-- What an expression stands in. -/
inductive Frame where
  /-- Behind an opening parenthesis, where a sign or a left operand may come. -/
  | opened
  /-- Behind an opening parenthesis and a sign. -/
  | signed (operator : Operator)
  | operand (left : Node) (operator : Operator)
  | index (left : Node)
  | arguments (callee : Node) (before : List Node)
  | elements (before : List Node)
  | key (before : List (Node × Node))
  | value (before : List (Node × Node)) (key : Node)

inductive Reading where
  /-- At the beginning of an expression, or behind some letters of a name or a literal. -/
  | inside (letters : List Char) (around : List Frame)
  /-- Behind a whole expression. -/
  | behind (node : Node) (around : List Frame)
  /-- Behind a left operand and some characters of an operator. -/
  | joining (left : Node) (spelling : List Char) (around : List Frame)
  /-- Behind the bracket that ends an index. -/
  | indexed (left index : Node) (around : List Frame)
  | comma (around : List Frame)
  | stuck

namespace Reading

/-- A word is a name unless it is a truth value. -/
def named (word : String) : Node :=
  if word = "true" then .booleanLiteral true
  else if word = "false" then .booleanLiteral false
  else .identifier word

def leaf (letters : List Char) : Node :=
  if letters.head? = some '-' then .integerLiteral (-Nat.ofDigitChars 10 letters.tail 0)
  else if letters.all Char.isDigit then .integerLiteral (Nat.ofDigitChars 10 letters 0)
  else named (String.ofList letters)

/-- Where an expression may begin. -/
def begin (char : Char) (around : List Frame) : Reading :=
  match char, around with
  | '-', .opened :: rest => .inside [] (.signed .minus :: rest)
  | '!', .opened :: rest => .inside [] (.signed .bang :: rest)
  | '-', around => .inside ['-'] around
  | '(', around => .inside [] (.opened :: around)
  | '[', around => .inside [] (.elements [] :: around)
  | '\x7b', around => .inside [] (.key [] :: around)
  | ')', .arguments callee [] :: rest => .behind (.callExpression callee []) rest
  | ']', .elements [] :: rest => .behind (.arrayLiteral []) rest
  | '\x7d', .key [] :: rest => .behind (.hashLiteral []) rest
  | _, _ => .stuck

/-- Where an expression has ended. -/
def follow (node : Node) (char : Char) (around : List Frame) : Reading :=
  match char, around with
  | '(', around => .inside [] (.arguments node [] :: around)
  | ' ', .opened :: rest => .joining node [] rest
  | '[', .opened :: rest => .inside [] (.index node :: rest)
  | ' ', .signed .minus :: rest => .joining node.negated [] rest
  | '[', .signed .minus :: rest => .inside [] (.index node.negated :: rest)
  | ')', .signed operator :: rest => .behind (.prefixExpression operator node) rest
  | ')', .operand left operator :: rest => .behind (.infixExpression left operator node) rest
  | ']', .index left :: rest => .indexed left node rest
  | ',', .arguments callee before :: rest => .comma (.arguments callee (before ++ [node]) :: rest)
  | ')', .arguments callee before :: rest =>
      .behind (.callExpression callee (before ++ [node])) rest
  | ',', .elements before :: rest => .comma (.elements (before ++ [node]) :: rest)
  | ']', .elements before :: rest => .behind (.arrayLiteral (before ++ [node])) rest
  | ':', .key before :: rest => .inside [] (.value before node :: rest)
  | ',', .value before key :: rest => .comma (.key (before ++ [(key, node)]) :: rest)
  | '\x7d', .value before key :: rest => .behind (.hashLiteral (before ++ [(key, node)])) rest
  | _, _ => .stuck

def isLetter (char : Char) : Bool :=
  char.isAlphanum || char == '_'

def step : Reading → Char → Reading
  | .inside letters around, char =>
      if isLetter char then .inside (letters ++ [char]) around
      else if letters = [] then begin char around
      else follow (leaf letters) char around
  | .behind node around, char => follow node char around
  | .joining left spelling around, char =>
      if char = ' ' then
        .inside [] (.operand left (.ofSpelling (String.ofList spelling)) :: around)
      else .joining left (spelling ++ [char]) around
  | .indexed left index around, char =>
      if char = ')' then .behind (.indexExpression left index) around else .stuck
  | .comma around, char => if char = ' ' then .inside [] around else .stuck
  | .stuck, _ => .stuck

def reads (reading : Reading) (text : List Char) : Reading :=
  text.foldl step reading

/-- A name or a literal has ended where nothing more is read. -/
def settled : Reading → Reading
  | .inside (first :: letters) around => .behind (leaf (first :: letters)) around
  | reading => reading

/-- Behind an expression, when its sign was taken for an operator if it has one. -/
def arrived (node : Node) : List Frame → Reading
  | .opened :: rest =>
      if node.isSigned then .behind node.negated (.signed .minus :: rest)
      else .behind node (.opened :: rest)
  | around => .behind node around

/-- Wherever it stands, an expression is read as what it is. -/
def Readable (node : Node) : Prop :=
  ∀ around, (reads (.inside [] around) node.render.toList).settled = arrived node around

theorem reads_append (reading : Reading) (text rest : List Char) :
    reading.reads (text ++ rest) = (reading.reads text).reads rest :=
  List.foldl_append

theorem reads_cons (reading : Reading) (char : Char) (rest : List Char) :
    reading.reads (char :: rest) = (reading.step char).reads rest :=
  rfl

theorem step_settled {char : Char} (mark : isLetter char = false) (reading : Reading) :
    reading.settled.step char = reading.step char := by
  cases reading with
  | inside letters around =>
      cases letters with
      | nil => rfl
      | cons first letters => simp [settled, step, mark]
  | _ => rfl

theorem reads_letters {letters : List Char} (all : ∀ letter ∈ letters, isLetter letter = true)
    (before : List Char) (around : List Frame) :
    reads (.inside before around) letters = .inside (before ++ letters) around := by
  induction letters generalizing before with
  | nil => rw [List.append_nil]; rfl
  | cons letter rest ih =>
      obtain ⟨first, others⟩ := List.forall_mem_cons.mp all
      rw [reads_cons, step, if_pos first, ih others, List.append_assoc, List.singleton_append]

theorem arrived_unsigned {node : Node} (unsigned : node.isSigned = false) (around : List Frame) :
    arrived node around = .behind node around := by
  unfold arrived
  split
  · rw [if_neg (by simp [unsigned])]
  · rfl

/-- What comes behind a readable expression is read from there on. -/
theorem Readable.reads_on {node : Node} (readable : Readable node) (around : List Frame)
    {char : Char} (mark : isLetter char = false) (rest : List Char) :
    reads (.inside [] around) (node.render.toList ++ char :: rest) =
      ((arrived node around).step char).reads rest := by
  rw [reads_append, reads_cons, ← step_settled mark, readable]

theorem arrived_opened (node : Node) (around : List Frame) :
    arrived node (.opened :: around) =
      if node.isSigned then .behind node.negated (.signed .minus :: around)
      else .behind node (.opened :: around) :=
  rfl

/-- Whether its sign was taken for an operator or not, the left operand is what it is. -/
theorem step_arrived_blank (node : Node) (around : List Frame) :
    (arrived node (.opened :: around)).step ' ' = .joining node [] around := by
  rw [arrived_opened]
  split
  · exact congrArg (joining · [] around) node.negated_negated
  · rfl

theorem step_arrived_bracket (node : Node) (around : List Frame) :
    (arrived node (.opened :: around)).step '[' = .inside [] (.index node :: around) := by
  rw [arrived_opened]
  split
  · exact congrArg (fun left => inside [] (.index left :: around)) node.negated_negated
  · rfl

theorem reads_operator {operator : Operator} (known : operator ∈ Operator.all) (left : Node)
    (around : List Frame) (rest : List Char) :
    reads (.joining left [] around) (operator.spelling.toList ++ ' ' :: rest) =
      reads (.inside [] (.operand left operator :: around)) rest := by
  cases operator with
  | other spelling => simp [Operator.all] at known
  | _ => rfl

end Reading

end MonkeyLang
