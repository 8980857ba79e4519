import MonkeyLang.Proofs.Reading

/-!
Unique readability of canonical source. Every expression whose names and operators are those of the
language is read back from its text as what it is, wherever it stands; so no two of them have one
text.
-/

namespace MonkeyLang

namespace Reading

/-! ### Names and literals -/

theorem readable_word {node : Node} (unsigned : node.isSigned = false)
    (all : ∀ letter ∈ node.render.toList, isLetter letter = true)
    (some_letter : node.render.toList ≠ []) (same : leaf node.render.toList = node) :
    Readable node := by
  intro around
  rw [reads_letters all, List.nil_append, arrived_unsigned unsigned]
  cases letters : node.render.toList with
  | nil => exact absurd letters some_letter
  | cons first rest => rw [settled, ← letters, same]

theorem isLetter_of_isDigit {char : Char} (digit : char.isDigit = true) : isLetter char = true := by
  simp [isLetter, Char.isAlphanum, digit]

/-- The digits of a number are letters, and there is at least one of them. -/
theorem leaf_digits (number : Nat) :
    leaf (Nat.toDigits 10 number) = .integerLiteral number := by
  have digits : ∀ char ∈ Nat.toDigits 10 number, char.isDigit = true := fun _ member =>
    Nat.isDigit_of_mem_toDigits (by decide) (by decide) member
  have unsigned : (Nat.toDigits 10 number).head? ≠ some '-' := by
    intro head
    exact absurd (digits '-' (List.mem_of_mem_head? head)) (by decide)
  rw [leaf, if_neg unsigned, if_pos (List.all_eq_true.mpr digits),
    Nat.ofDigitChars_toDigits (by decide) (by decide)]

theorem leaf_signed (number : Nat) :
    leaf ('-' :: Nat.toDigits 10 number) = .integerLiteral (-number) := by
  have unsigned := Nat.ofDigitChars_toDigits (b := 10) (n := number) (by decide) (by decide)
  exact congrArg (fun magnitude : Nat => Node.integerLiteral (-magnitude)) unsigned

theorem readable_boolean (value : Bool) : Readable (.booleanLiteral value) := by
  cases value with
  | true => exact readable_word rfl (List.all_eq_true.mp (by decide)) (by decide) rfl
  | false => exact readable_word rfl (List.all_eq_true.mp (by decide)) (by decide) rfl

theorem not_isDigit_of_isAlpha {char : Char} (alpha : char.isAlpha = true) :
    ¬ char.isDigit = true := by
  intro digit
  have last : char.val ≤ '9'.val := of_decide_eq_true (Bool.and_eq_true_iff.mp digit).2
  rcases Bool.or_eq_true_iff.mp alpha with upper | lower
  · have first : 'A'.val ≤ char.val := (of_decide_eq_true upper).1
    exact absurd (UInt32.le_trans first last) (by decide)
  · have first : 'a'.val ≤ char.val := of_decide_eq_true (Bool.and_eq_true_iff.mp lower).1
    exact absurd (UInt32.le_trans first last) (by decide)

/-- A name has neither a sign nor digits. -/
theorem readable_name {name : String} (nonempty : name ≠ "")
    (letters : ∀ char ∈ name.toList, char.isAlpha = true ∨ char = '_') (untrue : name ≠ "true")
    (unfalse : name ≠ "false") : Readable (.identifier name) := by
  have some_letter : name.toList ≠ [] := fun none => nonempty (String.toList_eq_nil_iff.mp none)
  refine readable_word rfl ?_ some_letter ?_
  · intro char member
    rcases letters char member with alpha | rfl
    · simp [isLetter, Char.isAlphanum, alpha]
    · rfl
  · obtain ⟨first, rest, split⟩ := List.exists_cons_of_ne_nil some_letter
    have first_letter := letters first (split ▸ List.mem_cons_self)
    have unsigned : name.toList.head? ≠ some '-' := by
      rw [split, List.head?_cons]
      rintro ⟨⟩
      exact absurd first_letter (by decide)
    have undigit : ¬ name.toList.all Char.isDigit = true := by
      rw [split, List.all_cons, Bool.and_eq_true]
      rintro ⟨digit, -⟩
      rcases first_letter with alpha | rfl
      · exact not_isDigit_of_isAlpha alpha digit
      · cases digit
    show leaf name.toList = _
    rw [leaf, if_neg unsigned, if_neg undigit, String.ofList_toList, named, if_neg untrue,
      if_neg unfalse]

theorem reads_digits (before : List Char) (number : Nat) (around : List Frame) :
    reads (.inside before around) (Nat.toDigits 10 number) =
      .inside (before ++ Nat.toDigits 10 number) around :=
  reads_letters (fun _ member => isLetter_of_isDigit
    (Nat.isDigit_of_mem_toDigits (by decide) (by decide) member)) before around

theorem settled_inside {letters : List Char} (some_letter : letters ≠ []) (around : List Frame) :
    settled (.inside letters around) = .behind (leaf letters) around := by
  cases letters with
  | nil => exact absurd rfl some_letter
  | cons first rest => rfl

/-- A sign belongs to the literal unless it stands behind an opening parenthesis. -/
theorem readable_integer (value : Int) : Readable (.integerLiteral value) := by
  intro around
  cases value with
  | ofNat number =>
      have text : (Node.integerLiteral (.ofNat number)).render.toList = Nat.toDigits 10 number :=
        Nat.toList_repr
      have unsigned : (Node.integerLiteral (.ofNat number)).isSigned = false :=
        decide_eq_false (Int.not_lt.mpr (Int.natCast_nonneg number))
      rw [text, reads_digits, List.nil_append, settled_inside Nat.toDigits_ne_nil, leaf_digits,
        arrived_unsigned unsigned]
      rfl
  | negSucc number =>
      have text : (Node.integerLiteral (.negSucc number)).render.toList =
          '-' :: Nat.toDigits 10 (number + 1) := by
        show ("-" ++ (number + 1).repr).toList = _
        rw [String.toList_append, Nat.toList_repr]
        rfl
      have behind : settled (reads (.inside ['-'] around) (Nat.toDigits 10 (number + 1))) =
          .behind (.integerLiteral (.negSucc number)) around := by
        rw [reads_digits, List.singleton_append, settled_inside (List.cons_ne_nil _ _), leaf_signed]
        rfl
      rw [text, reads_cons]
      cases around with
      | nil => exact behind
      | cons frame rest =>
          cases frame with
          | opened =>
              show settled (reads (.inside [] (.signed .minus :: rest)) _) = _
              have signed : (Node.integerLiteral (.negSucc number)).isSigned = true :=
                decide_eq_true (Int.negSucc_lt_zero number)
              rw [reads_digits, List.nil_append, settled_inside Nat.toDigits_ne_nil, leaf_digits,
                arrived_opened, if_pos signed]
              rfl
          | _ => exact behind

/-! ### Expressions that have parts -/

/-- Items as they stand between brackets. -/
def listed {α : Type} (text : α → List Char) (items : List α) : List Char :=
  ", ".toList.intercalate (items.map text)

theorem listed_nodes (nodes : List Node) :
    listed (fun node => node.render.toList) nodes =
      (", ".intercalate (Node.renderAll nodes)).toList := by
  rw [String.toList_intercalate, Node.renderAll_eq_map, List.map_map]
  rfl

theorem listed_pairs (pairs : List (Node × Node)) :
    listed (fun pair => pair.1.render.toList ++ ':' :: pair.2.render.toList) pairs =
      (", ".intercalate (Node.renderPairs pairs)).toList := by
  rw [String.toList_intercalate, Node.renderPairs_eq_map, List.map_map, listed]
  congr 2
  funext pair
  simp

section Parts
variable {left right callee : Node}

theorem readable_signed {operator : Operator} (unary : operator ∈ Operator.unary)
    (right_readable : Readable right) : Readable (.prefixExpression operator right) := by
  intro around
  have text : (Node.prefixExpression operator right).render.toList =
      ('(' :: operator.spelling.toList) ++ (right.render.toList ++ [')']) := by
    simp [Node.render]
  have sign : reads (.inside [] around) ('(' :: operator.spelling.toList) =
      .inside [] (.signed operator :: around) := by
    cases operator with
    | minus => rfl
    | bang => rfl
    | _ => simp [Operator.unary] at unary
  rw [text, arrived_unsigned rfl, reads_append, sign, right_readable.reads_on _ rfl]
  rfl

theorem readable_joined {operator : Operator} (known : operator ∈ Operator.all)
    (left_readable : Readable left) (right_readable : Readable right) :
    Readable (.infixExpression left operator right) := by
  intro around
  have text : (Node.infixExpression left operator right).render.toList = '(' ::
      (left.render.toList ++ ' ' :: (operator.spelling.toList ++ ' ' ::
        (right.render.toList ++ [')']))) := by
    simp [Node.render]
  rw [text, arrived_unsigned rfl, reads_cons]
  show (reads (.inside [] (.opened :: around)) _).settled = _
  rw [left_readable.reads_on _ rfl, step_arrived_blank, reads_operator known,
    right_readable.reads_on _ rfl]
  rfl

theorem readable_index (left_readable : Readable left) (right_readable : Readable right) :
    Readable (.indexExpression left right) := by
  intro around
  have text : (Node.indexExpression left right).render.toList = '(' ::
      (left.render.toList ++ '[' :: (right.render.toList ++ ']' :: [')'])) := by
    simp [Node.render]
  rw [text, arrived_unsigned rfl, reads_cons]
  show (reads (.inside [] (.opened :: around)) _).settled = _
  rw [left_readable.reads_on _ rfl, step_arrived_bracket, right_readable.reads_on _ rfl]
  rfl

/-- Items that are parted by commas, each of which comes to those before it. -/
theorem reads_items {α : Type} (text : α → List Char) (frame : List α → Frame)
    (whole : List α → Reading) {close : Char} {around : List Frame} {items : List α}
    (each : ∀ item ∈ items, ∀ before rest,
      reads (.inside [] (frame before :: around)) (text item ++ ',' :: rest) =
        reads (.comma (frame (before ++ [item]) :: around)) rest ∧
      reads (.inside [] (frame before :: around)) (text item ++ [close]) =
        whole (before ++ [item]))
    (before : List α) (some_item : items ≠ []) :
    reads (.inside [] (frame before :: around)) (listed text items ++ [close]) =
      whole (before ++ items) := by
  induction items generalizing before with
  | nil => exact absurd rfl some_item
  | cons item rest ih =>
      obtain ⟨first, others⟩ := List.forall_mem_cons.mp each
      cases rest with
      | nil =>
          rw [listed, List.map_singleton, List.intercalate_singleton]
          exact (first before []).2
      | cons next later =>
          have parted : listed text (item :: next :: later) ++ [close] =
              text item ++ ',' :: ' ' :: (listed text (next :: later) ++ [close]) := by
            simp [listed, List.intercalate_cons_cons]
          have behind := ih others (before ++ [item]) (List.cons_ne_nil _ _)
          rw [List.append_assoc, List.singleton_append] at behind
          rw [parted, (first before _).1]
          exact behind

theorem reads_list {α : Type} (text : α → List Char) (frame : List α → Frame)
    (whole : List α → Reading) {close : Char} {around : List Frame} {items : List α}
    (none : reads (.inside [] (frame [] :: around)) [close] = whole [])
    (each : ∀ item ∈ items, ∀ before rest,
      reads (.inside [] (frame before :: around)) (text item ++ ',' :: rest) =
        reads (.comma (frame (before ++ [item]) :: around)) rest ∧
      reads (.inside [] (frame before :: around)) (text item ++ [close]) =
        whole (before ++ [item])) :
    reads (.inside [] (frame [] :: around)) (listed text items ++ [close]) = whole items := by
  cases items with
  | nil => exact none
  | cons item rest => exact reads_items text frame whole each [] (List.cons_ne_nil _ _)

/-- The arguments of a call, of which the callee was read. -/
theorem reads_arguments {arguments : List Node} (all : ∀ argument ∈ arguments, Readable argument)
    (callee : Node) (around : List Frame) :
    reads (.inside [] (.arguments callee [] :: around))
        (listed (fun node => node.render.toList) arguments ++ [')']) =
      .behind (.callExpression callee arguments) around := by
  refine reads_list _ (.arguments callee)
    (fun items => .behind (.callExpression callee items) around) rfl ?_
  intro item member before rest
  rw [(all item member).reads_on _ rfl, (all item member).reads_on _ rfl]
  exact ⟨rfl, rfl⟩

/-- A call begins with the sign that its callee begins with. -/
theorem exists_arrived (callee : Node) (around : List Frame) : ∃ begun rest,
    arrived callee around = .behind begun rest ∧ ∀ arguments,
      arrived (.callExpression callee arguments) around =
        .behind (.callExpression begun arguments) rest := by
  cases signed : callee.isSigned with
  | false =>
      refine ⟨callee, around, arrived_unsigned signed around, fun arguments => ?_⟩
      have unsigned : (Node.callExpression callee arguments).isSigned = false := signed
      exact arrived_unsigned unsigned around
  | true =>
      cases around with
      | nil => exact ⟨callee, [], rfl, fun _ => rfl⟩
      | cons frame rest =>
          cases frame with
          | opened =>
              refine ⟨callee.negated, .signed .minus :: rest, ?_, fun arguments => ?_⟩
              · rw [arrived_opened, if_pos signed]
              · exact if_pos signed
          | _ => exact ⟨callee, _, rfl, fun _ => rfl⟩

theorem readable_call {arguments : List Node} (callee_readable : Readable callee)
    (all : ∀ argument ∈ arguments, Readable argument) :
    Readable (.callExpression callee arguments) := by
  intro around
  have text : (Node.callExpression callee arguments).render.toList = callee.render.toList ++
      '(' :: (listed (fun node => node.render.toList) arguments ++ [')']) := by
    rw [listed_nodes]
    simp [Node.render]
  obtain ⟨begun, rest, callee_arrived, arrived⟩ := exists_arrived callee around
  rw [text, callee_readable.reads_on _ rfl, callee_arrived, arrived]
  exact congrArg settled (reads_arguments all begun rest)

theorem readable_array {elements : List Node} (all : ∀ element ∈ elements, Readable element) :
    Readable (.arrayLiteral elements) := by
  intro around
  have text : (Node.arrayLiteral elements).render.toList =
      '[' :: (listed (fun node => node.render.toList) elements ++ [']']) := by
    rw [listed_nodes]
    simp [Node.render]
  rw [text, arrived_unsigned rfl]
  refine congrArg settled (reads_list _ .elements
    (fun items => .behind (.arrayLiteral items) around) rfl ?_)
  intro item member before rest
  rw [(all item member).reads_on _ rfl, (all item member).reads_on _ rfl]
  exact ⟨rfl, rfl⟩

theorem readable_hash {pairs : List (Node × Node)} (keys : ∀ pair ∈ pairs, Readable pair.1)
    (values : ∀ pair ∈ pairs, Readable pair.2) : Readable (.hashLiteral pairs) := by
  intro around
  have text : (Node.hashLiteral pairs).render.toList = '\x7b' ::
      (listed (fun pair => pair.1.render.toList ++ ':' :: pair.2.render.toList) pairs ++
        ['\x7d']) := by
    rw [listed_pairs]
    simp [Node.render]
  rw [text, arrived_unsigned rfl]
  refine congrArg settled (reads_list _ .key
    (fun items => .behind (.hashLiteral items) around) rfl ?_)
  intro pair member before rest
  have value (close : Char) (mark : isLetter close = false) (rest : List Char) :
      reads (.inside [] (.key before :: around))
        ((pair.1.render.toList ++ ':' :: pair.2.render.toList) ++ close :: rest) =
      (follow pair.2 close (.value before pair.1 :: around)).reads rest := by
    rw [List.append_assoc, List.cons_append, (keys pair member).reads_on _ rfl]
    exact (values pair member).reads_on _ mark rest
  exact ⟨value ',' rfl rest, value '\x7d' rfl []⟩

end Parts

end Reading

/-- Expressions of which every name and operator is one that the language has. Integers may be of
any size. -/
inductive Legible : Node → Prop where
  | name {name : String} : name ≠ "" →
      (∀ char ∈ name.toList, char.isAlpha = true ∨ char = '_') → name ≠ "true" →
      name ≠ "false" → Legible (.identifier name)
  | integer (value : Int) : Legible (.integerLiteral value)
  | boolean (value : Bool) : Legible (.booleanLiteral value)
  | signed {operator right} : operator ∈ Operator.unary → Legible right →
      Legible (.prefixExpression operator right)
  | joined {left operator right} : operator ∈ Operator.all → Legible left → Legible right →
      Legible (.infixExpression left operator right)
  | call {callee arguments} : Legible callee → (∀ argument ∈ arguments, Legible argument) →
      Legible (.callExpression callee arguments)
  | array {elements} : (∀ element ∈ elements, Legible element) → Legible (.arrayLiteral elements)
  | index {left right} : Legible left → Legible right → Legible (.indexExpression left right)
  | hash {pairs : List (Node × Node)} : (∀ pair ∈ pairs, Legible pair.1) →
      (∀ pair ∈ pairs, Legible pair.2) → Legible (.hashLiteral pairs)

namespace Legible

open Reading

theorem readable {node : Node} (legible : Legible node) : Readable node := by
  induction legible with
  | name nonempty letters untrue unfalse => exact readable_name nonempty letters untrue unfalse
  | integer value => exact readable_integer value
  | boolean value => exact readable_boolean value
  | signed unary _ right => exact readable_signed unary right
  | joined known _ _ left right => exact readable_joined known left right
  | call _ _ callee arguments => exact readable_call callee arguments
  | array _ elements => exact readable_array elements
  | index _ _ left right => exact readable_index left right
  | hash _ _ keys values => exact readable_hash keys values

end Legible

/-- Two expressions have one text only if they are one. -/
theorem render_uniquely_readable {left right : Node} (legible : Legible left)
    (legible' : Legible right) : left.render = right.render ↔ left = right := by
  refine ⟨fun same => ?_, congrArg Node.render⟩
  have read : Reading.arrived left [] = Reading.arrived right [] := by
    rw [← legible.readable [], same, legible'.readable []]
  exact (Reading.behind.inj read).1

/-- `(-5 + a)` -/
def signedSum : Node :=
  .infixExpression (.integerLiteral (-5)) .plus (.identifier "a")

/-- `((-5) + a)` -/
def negatedSum : Node :=
  .infixExpression (.prefixExpression .minus (.integerLiteral 5)) .plus (.identifier "a")

/-- A literal with a sign and a literal behind an operator have different texts. -/
theorem render_uniquely_readable_signs : Legible signedSum ∧ Legible negatedSum ∧
    (signedSum.render = negatedSum.render ↔ signedSum = negatedSum) ∧
    signedSum.render ≠ negatedSum.render := by
  have letter : ∀ char ∈ "a".toList, char.isAlpha = true ∨ char = '_' :=
    List.forall_mem_singleton.mpr (by decide)
  have name : Legible (.identifier "a") := .name (by decide) letter (by decide) (by decide)
  have signed : Legible signedSum := .joined (by decide) (.integer _) name
  have negated : Legible negatedSum := .joined (by decide) (.signed (by decide) (.integer _)) name
  have unique := render_uniquely_readable signed negated
  refine ⟨signed, negated, unique, fun same => ?_⟩
  cases (Node.infixExpression.inj (unique.mp same)).1

end MonkeyLang
