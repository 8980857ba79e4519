import MonkeyLang.Proofs.Grammar

/-!
The documents of trees. Every well-formed tree has a document that decoding takes back to
that tree, so the trees that documents describe are the well-formed ones.
-/

namespace MonkeyLang

/-- The object that a node of a kind is written as. -/
def Document.object (kind : String) (members : Document.Members) : Json.Value :=
  .object (("node", .string kind) :: members)

namespace Node

open Document (object)

mutual

def document : Node → Json.Value
  | program statements => object "Program" [("statements", .array (documents statements))]
  | letStatement name value =>
      object "LetStatement" [("name", .string name), ("value", value.document)]
  | returnStatement value => object "ReturnStatement" [("return_value", value.document)]
  | expressionStatement expression =>
      object "ExpressionStatement" [("expression", expression.document)]
  | blockStatement statements =>
      object "BlockStatement" [("statements", .array (documents statements))]
  | identifier name => object "Identifier" [("value", .string name)]
  | integerLiteral value => object "IntegerLiteral" [("value", .integer value)]
  | stringLiteral text => object "StringLiteral" [("value", .string text)]
  | booleanLiteral value => object "Boolean" [("value", .boolean value)]
  | prefixExpression operator right =>
      object "PrefixExpression"
        [("operator", .string operator.spelling), ("right", right.document)]
  | infixExpression left operator right =>
      object "InfixExpression"
        [("left", left.document), ("operator", .string operator.spelling),
          ("right", right.document)]
  | ifExpression condition consequence none =>
      object "IfExpression"
        [("condition", condition.document), ("consequence", consequence.document)]
  | ifExpression condition consequence (some alternative) =>
      object "IfExpression"
        [("condition", condition.document), ("consequence", consequence.document),
          ("alternative", alternative.document)]
  | functionLiteral parameters body =>
      object "FunctionLiteral"
        [("parameters", .array (parameters.map .string)), ("body", body.document)]
  | callExpression callee arguments =>
      object "CallExpression"
        [("function", callee.document), ("arguments", .array (documents arguments))]
  | arrayLiteral elements => object "ArrayLiteral" [("elements", .array (documents elements))]
  | indexExpression left index =>
      object "IndexExpression" [("left", left.document), ("index", index.document)]
  | hashLiteral pairs => object "HashLiteral" [("pairs", .array (pairDocuments pairs))]
  | unknown name => object name []

def documents : List Node → List Json.Value
  | [] => []
  | node :: rest => node.document :: documents rest

def pairDocuments : List (Node × Node) → List Json.Value
  | [] => []
  | (key, value) :: rest => .array [key.document, value.document] :: pairDocuments rest

end

end Node

namespace Document

open Json.Value (depthAll)

theorem decodeNames_document {sub : Json.Value → Decoded Node} (parameters : List String) :
    decodeEach (decodeName sub) (parameters.map .string) = .ok parameters := by
  induction parameters with
  | nil => rfl
  | cons parameter rest ih =>
      exact bind_eq_ok.mpr ⟨parameter, rfl, bind_eq_ok.mpr ⟨rest, ih, rfl⟩⟩

theorem decodeOperator_spelling {kind : String} {allowed : List Operator}
    (proper : allowed ⊆ Operator.all) {operator : Operator} (member : operator ∈ allowed) :
    decodeOperator kind allowed (.string operator.spelling) = .ok operator := by
  rw [decodeOperator, Operator.ofSpelling_spelling (proper member), if_pos member]

/-- Decoding goes on behind a member, whose value is less deep than the object. -/
theorem decodes_part {α β : Type} {depth : Nat} {members : Members} {kind name : String}
    {value : Json.Value} {decode : Json.Value → Decoded α} {next : α → Decoded β}
    {result : α} {final : β} (near : (Json.Value.object members).depth ≤ depth)
    (found : members.lookup name = some value)
    (decoded : value.depth < depth → decode value = .ok result) (behind : next result = .ok final) :
    (required members kind name >>= fun value => decode value >>= next) = .ok final := by
  have below : value.depth < depth :=
    Nat.lt_of_le_of_lt (Json.Value.depth_le_depthMembers found) near
  exact bind_eq_ok.mpr ⟨value, required_eq_ok.mpr found,
    bind_eq_ok.mpr ⟨result, decoded below, behind⟩⟩

section Lists
variable {sub : Json.Value → Decoded Node} {depth : Nat}
  (inverse : ∀ node : Node, node.wellFormed = true → node.document.depth < depth →
    sub node.document = .ok node)
include inverse

theorem decodeNodes_documents {nodes : List Node} (formed : Node.allWellFormed nodes = true)
    (near : (Json.Value.array (Node.documents nodes)).depth < depth) :
    decodeNodes sub (.array (Node.documents nodes)) = .ok nodes := by
  rw [decodeNodes]
  induction nodes with
  | nil => rfl
  | cons node rest ih =>
      simp only [Node.allWellFormed, Bool.and_eq_true] at formed
      simp only [Node.documents, Json.Value.depth, depthAll] at near ih
      have first := inverse node formed.1 (by omega)
      have others := ih formed.2 (by omega)
      exact bind_eq_ok.mpr ⟨node, first, bind_eq_ok.mpr ⟨rest, others, rfl⟩⟩

theorem decodePairs_documents {pairs : List (Node × Node)}
    (formed : Node.pairsWellFormed pairs = true)
    (near : (Json.Value.array (Node.pairDocuments pairs)).depth < depth) :
    decodePairs sub (.array (Node.pairDocuments pairs)) = .ok pairs := by
  rw [decodePairs]
  induction pairs with
  | nil => rfl
  | cons pair rest ih =>
      rcases pair with ⟨key, value⟩
      simp only [Node.pairsWellFormed, Bool.and_eq_true] at formed
      simp only [Node.pairDocuments, Json.Value.depth, depthAll] at near ih
      have keyed := inverse key formed.1.1 (by omega)
      have valued := inverse value formed.1.2 (by omega)
      have others := ih formed.2 (by omega)
      have first : decodePair sub (.array [key.document, value.document]) = .ok (key, value) :=
        bind_eq_ok.mpr ⟨key, keyed, bind_eq_ok.mpr ⟨value, valued, rfl⟩⟩
      exact bind_eq_ok.mpr ⟨(key, value), first, bind_eq_ok.mpr ⟨rest, others, rfl⟩⟩

theorem decodeBlock_document {block : Node}
    (formed : block.isBlock = true ∧ block.wellFormed = true)
    (near : block.document.depth < depth) : decodeBlock sub block.document = .ok block := by
  rw [decodeBlock, inverse block formed.2 near]
  cases block with
  | blockStatement statements => rfl
  | _ => cases formed.1

theorem decodeAlternative_document {block : Node}
    (formed : block.isBlock = true ∧ block.wellFormed = true)
    (near : block.document.depth < depth) :
    decodeAlternative sub (some block.document) = .ok (some block) := by
  have decoded := decodeBlock_document inverse formed near
  cases block with
  | blockStatement statements => exact bind_eq_ok.mpr ⟨_, decoded, rfl⟩
  | _ => cases formed.1

theorem decodeNode_document {node : Node} (formed : node.wellFormed = true)
    (near : node.document.depth ≤ depth) : decodeNode sub node.document = .ok node := by
  cases node with
  | program statements => exact decodes_part near rfl (decodeNodes_documents inverse formed) rfl
  | letStatement name value =>
      exact decodes_part near rfl (fun _ => rfl)
        (decodes_part near rfl (inverse value formed) rfl)
  | returnStatement value => exact decodes_part near rfl (inverse value formed) rfl
  | expressionStatement expression => exact decodes_part near rfl (inverse expression formed) rfl
  | blockStatement statements =>
      exact decodes_part near rfl (decodeNodes_documents inverse formed) rfl
  | identifier name => rfl
  | integerLiteral value =>
      exact decodes_part near rfl (fun _ => if_pos (of_decide_eq_true formed)) rfl
  | stringLiteral text => rfl
  | booleanLiteral value => rfl
  | prefixExpression operator right =>
      simp only [Node.wellFormed, Bool.and_eq_true, decide_eq_true_eq] at formed
      exact decodes_part near rfl (fun _ => decodeOperator_spelling (by decide) formed.1)
        (decodes_part near rfl (inverse right formed.2) rfl)
  | infixExpression left operator right =>
      simp only [Node.wellFormed, Bool.and_eq_true, decide_eq_true_eq] at formed
      exact decodes_part near rfl (inverse left formed.1.1)
        (decodes_part near rfl (fun _ => decodeOperator_spelling (by decide) formed.1.2)
          (decodes_part near rfl (inverse right formed.2) rfl))
  | ifExpression condition consequence alternative =>
      cases alternative with
      | none =>
          simp only [Node.wellFormed, Bool.and_eq_true] at formed
          exact decodes_part near rfl (inverse condition formed.1)
            (decodes_part near rfl (decodeBlock_document inverse formed.2) rfl)
      | some alternative =>
          simp only [Node.wellFormed, Bool.and_eq_true] at formed
          have below : alternative.document.depth < depth :=
            Nat.lt_of_le_of_lt (@Json.Value.depth_le_depthMembers "alternative" _ _ rfl) near
          exact decodes_part near rfl (inverse condition formed.1.1)
            (decodes_part near rfl (decodeBlock_document inverse formed.1.2)
              (bind_eq_ok.mpr ⟨_, decodeAlternative_document inverse formed.2 below, rfl⟩))
  | functionLiteral parameters body =>
      simp only [Node.wellFormed, Bool.and_eq_true] at formed
      exact decodes_part near rfl (fun _ => decodeNames_document parameters)
        (decodes_part near rfl (decodeBlock_document inverse formed) rfl)
  | callExpression callee arguments =>
      simp only [Node.wellFormed, Bool.and_eq_true] at formed
      exact decodes_part near rfl (inverse callee formed.1)
        (decodes_part near rfl (decodeNodes_documents inverse formed.2) rfl)
  | arrayLiteral elements =>
      exact decodes_part near rfl (decodeNodes_documents inverse formed) rfl
  | indexExpression left index =>
      simp only [Node.wellFormed, Bool.and_eq_true] at formed
      exact decodes_part near rfl (inverse left formed.1)
        (decodes_part near rfl (inverse index formed.2) rfl)
  | hashLiteral pairs => exact decodes_part near rfl (decodePairs_documents inverse formed) rfl
  | unknown name => cases formed

end Lists

theorem decode_document {node : Node} (formed : node.wellFormed = true) :
    decode node.document = .ok node := by
  have enough (depth : Nat) : ∀ node : Node, node.wellFormed = true →
      node.document.depth < depth → decodeWithin depth node.document = .ok node := by
    induction depth with
    | zero => exact fun _ _ near => absurd near (Nat.not_lt_zero _)
    | succ depth ih =>
        exact fun node formed near => decodeNode_document ih formed (Nat.le_of_lt_succ near)
  exact enough _ node formed (Nat.lt_succ_self _)

/-- Decoding accepts exactly the documents of the grammar, and the trees that it gives are
exactly the well-formed ones. -/
theorem decode_accepts_grammar :
    (∀ document, (∃ node, decode document = .ok node) ↔ WellFormed document) ∧
      ∀ node : Node, (∃ document, decode document = .ok node) ↔ node.wellFormed = true := by
  constructor
  · exact fun document => decodeWithin_succeeds (Nat.lt_succ_self document.depth)
  · intro node
    constructor
    · rintro ⟨document, decoded⟩
      exact decodeWithin_wellFormed decoded
    · exact fun formed => ⟨node.document, decode_document formed⟩

end Document

end MonkeyLang
