import MonkeyLang.Proofs.WellFormed
import Mathlib.Data.List.Basic

/-!
The grammar of documents. A kind of node has certain members, and each of them must be
there and be of a certain form; members beyond those are free. Decoding accepts the
documents of the grammar and no others.
-/

namespace MonkeyLang.Document

/-- What a member of a node may be. -/
inductive Part where
  | node
  | nodes
  | name
  | names
  | block
  /-- A block, `null`, or nothing at all. -/
  | branch
  | pairs
  | text
  | integer
  | boolean
  | operator (allowed : List String)

/-- The members of each kind of node. -/
def grammar : String → Option (List (String × Part))
  | "Program" => some [("statements", .nodes)]
  | "BlockStatement" => some [("statements", .nodes)]
  | "ExpressionStatement" => some [("expression", .node)]
  | "LetStatement" => some [("name", .name), ("value", .node)]
  | "ReturnStatement" => some [("return_value", .node)]
  | "Identifier" => some [("value", .text)]
  | "IntegerLiteral" => some [("value", .integer)]
  | "StringLiteral" => some [("value", .text)]
  | "Boolean" => some [("value", .boolean)]
  | "PrefixExpression" => some [("operator", .operator ["!", "-"]), ("right", .node)]
  | "InfixExpression" =>
      some [("left", .node),
        ("operator", .operator ["!", "-", "+", "*", "/", "==", "!=", "<", ">"]),
        ("right", .node)]
  | "IfExpression" =>
      some [("condition", .node), ("consequence", .block), ("alternative", .branch)]
  | "FunctionLiteral" => some [("parameters", .names), ("body", .block)]
  | "CallExpression" => some [("function", .node), ("arguments", .nodes)]
  | "ArrayLiteral" => some [("elements", .nodes)]
  | "IndexExpression" => some [("left", .node), ("index", .node)]
  | "HashLiteral" => some [("pairs", .pairs)]
  | _ => none

/-- The kind that a document names. -/
def kind? : Json.Value → Option String
  | .object members =>
      match members.lookup "node" with
      | some (.string kind) => some kind
      | _ => none
  | _ => none

/-- A member of an object, if it is there, has the form of a part; `good` says which
documents are those of nodes. -/
inductive Fits (good : Json.Value → Prop) : Part → Option Json.Value → Prop where
  | node {value} : good value → Fits good .node (some value)
  | nodes {values} : (∀ value ∈ values, good value) → Fits good .nodes (some (.array values))
  | name {text} : Fits good .name (some (.string text))
  | identifier {value} : kind? value = some "Identifier" → good value →
      Fits good .name (some value)
  | names {values} : (∀ value ∈ values, Fits good .name (some value)) →
      Fits good .names (some (.array values))
  | block {value} : kind? value = some "BlockStatement" → good value →
      Fits good .block (some value)
  | absent : Fits good .branch none
  | null : Fits good .branch (some .null)
  | branch {value} : Fits good .block (some value) → Fits good .branch (some value)
  | pairs {pairs : List (Json.Value × Json.Value)} : (∀ pair ∈ pairs, good pair.1) →
      (∀ pair ∈ pairs, good pair.2) →
      Fits good .pairs (some (.array (pairs.map fun pair => .array [pair.1, pair.2])))
  | text {text} : Fits good .text (some (.string text))
  | integer {value} : Word.InRange value → Fits good .integer (some (.integer value))
  | boolean {value} : Fits good .boolean (some (.boolean value))
  | operator {allowed : List String} {text} : text ∈ allowed →
      Fits good (.operator allowed) (some (.string text))

/-- The documents of nodes. -/
inductive WellFormed : Json.Value → Prop where
  | node {members kind parts} : members.lookup "node" = some (.string kind) →
      grammar kind = some parts →
      (∀ part ∈ parts, Fits WellFormed part.2 (members.lookup part.1)) →
      WellFormed (.object members)

/-- Decoding gives a result. -/
def Succeeds {α : Type} (decoded : Decoded α) : Prop :=
  ∃ result, decoded = .ok result

section Success
variable {α β : Type}

theorem succeeds_ok (result : α) : Succeeds (.ok result : Decoded α) :=
  ⟨result, rfl⟩

theorem succeeds_pure (result : α) : Succeeds (pure result : Decoded α) :=
  ⟨result, rfl⟩

theorem not_succeeds_error (error : DocumentError) : ¬ Succeeds (.error error : Decoded α) := by
  rintro ⟨_, ⟨⟩⟩

theorem succeeds_bind {first : Decoded α} {next : α → Decoded β} :
    Succeeds (first >>= next) ↔ ∃ value, first = .ok value ∧ Succeeds (next value) := by
  constructor
  · rintro ⟨result, decoded⟩
    obtain ⟨value, found, finish⟩ := bind_eq_ok.mp decoded
    exact ⟨value, found, result, finish⟩
  · rintro ⟨value, found, result, finish⟩
    exact ⟨result, bind_eq_ok.mpr ⟨value, found, finish⟩⟩

theorem required_eq_ok {members : Members} {kind name : String} {value : Json.Value} :
    required members kind name = .ok value ↔ members.lookup name = some value := by
  unfold required
  cases members.lookup name <;> simp

theorem succeeds_each {decode : Json.Value → Decoded α} {values : List Json.Value} :
    Succeeds (decodeEach decode values) ↔ ∀ value ∈ values, Succeeds (decode value) := by
  induction values with
  | nil => simp [decodeEach, succeeds_ok]
  | cons value rest ih =>
      rw [decodeEach, succeeds_bind, List.forall_mem_cons, ← ih]
      constructor
      · rintro ⟨first, found, others⟩
        obtain ⟨others, found', -⟩ := succeeds_bind.mp others
        exact ⟨⟨first, found⟩, others, found'⟩
      · rintro ⟨⟨first, found⟩, others, found'⟩
        exact ⟨first, found, succeeds_bind.mpr ⟨others, found', succeeds_pure _⟩⟩

theorem succeeds_pair {sub : Json.Value → Decoded Node} {value : Json.Value} :
    Succeeds (decodePair sub value) ↔
      ∃ pair : Json.Value × Json.Value, Json.Value.array [pair.1, pair.2] = value ∧
      Succeeds (sub pair.1) ∧ Succeeds (sub pair.2) := by
  unfold decodePair
  split
  · next key item =>
    simp only [succeeds_bind, succeeds_pure, and_true]
    constructor
    · rintro ⟨_, keyed, _, valued⟩
      exact ⟨(key, item), rfl, ⟨_, keyed⟩, ⟨_, valued⟩⟩
    · rintro ⟨_, ⟨⟩, ⟨_, keyed⟩, ⟨_, valued⟩⟩
      exact ⟨_, keyed, _, valued⟩
  · next unpaired =>
    apply iff_of_false (not_succeeds_error _)
    rintro ⟨⟨key, item⟩, same, -⟩
    exact unpaired key item same.symm

end Success

theorem exists_map_of_forall {α β : Type} {build : α → β} {good : α → Prop} {values : List β}
    (each : ∀ value ∈ values, ∃ item, build item = value ∧ good item) :
    ∃ items : List α, items.map build = values ∧ ∀ item ∈ items, good item := by
  induction values with
  | nil => exact ⟨[], rfl, by simp⟩
  | cons value rest ih =>
      obtain ⟨first, rfl, holds⟩ := each value List.mem_cons_self
      obtain ⟨others, rfl, hold⟩ := ih fun value later => each value (List.mem_cons_of_mem _ later)
      exact ⟨first :: others, rfl, List.forall_mem_cons.mpr ⟨holds, hold⟩⟩

/-- A member is read as a part of a node. -/
def Part.Reads (sub : Json.Value → Decoded Node) (kind : String) : Part → Option Json.Value → Prop
  | .node, found => ∃ value, found = some value ∧ Succeeds (sub value)
  | .nodes, found => ∃ value, found = some value ∧ Succeeds (decodeNodes sub value)
  | .name, found => ∃ value, found = some value ∧ Succeeds (decodeName sub value)
  | .names, found => ∃ value, found = some value ∧ Succeeds (decodeNames sub value)
  | .block, found => ∃ value, found = some value ∧ Succeeds (decodeBlock sub value)
  | .branch, found => Succeeds (decodeAlternative sub found)
  | .pairs, found => ∃ value, found = some value ∧ Succeeds (decodePairs sub value)
  | .text, found => ∃ value, found = some value ∧ Succeeds (decodeText kind value)
  | .integer, found => ∃ value, found = some value ∧ Succeeds (decodeInteger value)
  | .boolean, found => ∃ value, found = some value ∧ Succeeds (decodeBoolean value)
  | .operator allowed, found =>
      ∃ value, found = some value ∧
        Succeeds (decodeOperator kind (allowed.map Operator.ofSpelling) value)

/-- Reading one part of a node and then the others. -/
theorem succeeds_part {α β : Type} {sub : Json.Value → Decoded Node} {members : Members}
    {kind name : String} {part : Part} {rest : List (String × Part)}
    {decode : Json.Value → Decoded α} {next : α → Decoded β}
    (reads : part.Reads sub kind (members.lookup name) ↔
      ∃ value, members.lookup name = some value ∧ Succeeds (decode value))
    (later : ∀ result, Succeeds (next result) ↔
      ∀ part ∈ rest, part.2.Reads sub kind (members.lookup part.1)) :
    Succeeds (required members kind name >>= fun value => decode value >>= next) ↔
      ∀ each ∈ (name, part) :: rest, each.2.Reads sub kind (members.lookup each.1) := by
  simp only [List.forall_mem_cons, reads, succeeds_bind, required_eq_ok]
  constructor
  · rintro ⟨value, found, result, decoded, finish⟩
    exact ⟨⟨value, found, result, decoded⟩, (later result).mp finish⟩
  · rintro ⟨⟨value, found, result, decoded⟩, others⟩
    exact ⟨value, found, result, decoded, (later result).mpr others⟩

theorem decodeKind_succeeds {sub : Json.Value → Decoded Node} {kind : String} {members : Members}
    {parts : List (String × Part)} (known : grammar kind = some parts) :
    Succeeds (decodeKind sub kind members) ↔
      ∀ part ∈ parts, part.2.Reads sub kind (members.lookup part.1) := by
  have done {kind : String} (node : Node) : Succeeds (pure node : Decoded Node) ↔
      ∀ part ∈ ([] : List (String × Part)), part.2.Reads sub kind (members.lookup part.1) :=
    iff_of_true (succeeds_pure node) (List.forall_mem_nil _)
  unfold grammar at known
  split at known <;> cases known
  case h_12 =>
    -- the alternative of an `if` may be missing
    refine succeeds_part Iff.rfl fun _ => succeeds_part Iff.rfl fun _ => ?_
    rw [List.forall_mem_singleton, succeeds_bind]
    exact exists_congr fun _ => and_iff_left (succeeds_pure _)
  all_goals
    repeat refine succeeds_part Iff.rfl fun _ => ?_
    exact done _

theorem decodeKind_unknown {sub : Json.Value → Decoded Node} {kind : String} {members : Members}
    (unknown : grammar kind = none) :
    decodeKind sub kind members = .error (.unknownKind (.string kind)) := by
  unfold grammar at unknown
  split at unknown <;> try cases unknown
  unfold decodeKind
  split <;> first | rfl | contradiction

theorem kind_of_decodeKind {sub : Json.Value → Decoded Node} {kind : String} {members : Members}
    {node : Node} (decoded : decodeKind sub kind members = .ok node) : node.kind = kind := by
  unfold decodeKind at decoded
  -- whatever the members are read as, what comes of them is a node of the kind
  split at decoded <;> simp only [bind_eq_ok] at decoded
  all_goals repeat obtain ⟨_, -, decoded⟩ := decoded
  all_goals rfl

theorem decodeWithin_kind {depth : Nat} {value : Json.Value} {node : Node}
    (decoded : decodeWithin depth value = .ok node) : kind? value = some node.kind := by
  cases depth with
  | zero => cases decoded
  | succ depth =>
      cases value with
      | object members =>
          simp only [decodeWithin, decodeNode] at decoded
          split at decoded
          · next kind named => rw [kind?, named, kind_of_decodeKind decoded]
          all_goals cases decoded
      | _ => cases decoded

/-- Decoding of the values below a node, which are less deep: the good ones are accepted,
each as a node of the kind that it names. -/
structure Reader (depth : Nat) (good : Json.Value → Prop) (sub : Json.Value → Decoded Node) :
    Prop where
  accepts {value} : value.depth < depth → (Succeeds (sub value) ↔ good value)
  kind {value node} : sub value = .ok node → kind? value = some node.kind
  formed {value node} : sub value = .ok node → node.wellFormed = true

namespace Reader

variable {depth : Nat} {good : Json.Value → Prop} {sub : Json.Value → Decoded Node}
  (reader : Reader depth good sub) {value : Json.Value}
include reader

theorem all_iff {values : List Json.Value} (near : (Json.Value.array values).depth < depth) :
    (∀ value ∈ values, Succeeds (sub value)) ↔ ∀ value ∈ values, good value := by
  apply forall₂_congr
  intro value member
  apply reader.accepts
  exact Nat.lt_of_le_of_lt (Json.Value.depth_le_depthAll member) (Nat.lt_of_succ_lt near)

theorem node_iff (near : value.depth < depth) :
    Succeeds (sub value) ↔ Fits good .node (some value) := by
  rw [reader.accepts near]
  constructor
  · exact .node
  · rintro ⟨⟩
    assumption

theorem nodes_iff (near : value.depth < depth) :
    Succeeds (decodeNodes sub value) ↔ Fits good .nodes (some value) := by
  cases value with
  | array values =>
      rw [decodeNodes, succeeds_each, reader.all_iff near]
      constructor
      · exact .nodes
      · rintro ⟨⟩
        assumption
  | _ => exact iff_of_false (not_succeeds_error _) (by rintro ⟨⟩)

theorem of_kind {kind : String} (near : value.depth < depth) (named : kind? value = some kind)
    (described : good value) :
    ∃ node, sub value = .ok node ∧ node.kind = kind ∧ node.wellFormed = true := by
  obtain ⟨node, found⟩ := (reader.accepts near).mpr described
  have same := (reader.kind found).symm.trans named
  exact ⟨node, found, Option.some.inj same, reader.formed found⟩

theorem identifier_iff (near : value.depth < depth) :
    (∃ name, sub value = .ok (.identifier name)) ↔
      kind? value = some "Identifier" ∧ good value := by
  constructor
  · rintro ⟨name, found⟩
    exact ⟨reader.kind found, (reader.accepts near).mp ⟨_, found⟩⟩
  · rintro ⟨named, described⟩
    obtain ⟨node, found, kind, formed⟩ := reader.of_kind near named described
    cases node with
    | identifier name => exact ⟨name, found⟩
    | unknown name => cases formed
    | _ => simp [Node.kind] at kind

theorem block_iff (near : value.depth < depth) :
    Succeeds (decodeBlock sub value) ↔ Fits good .block (some value) := by
  rw [decodeBlock, succeeds_bind]
  constructor
  · rintro ⟨node, found, result, finish⟩
    cases node with
    | blockStatement statements =>
        exact .block (reader.kind found) ((reader.accepts near).mp ⟨_, found⟩)
    | _ => cases finish
  · intro fits
    cases fits with
    | block named described =>
        obtain ⟨node, found, kind, formed⟩ := reader.of_kind near named described
        refine ⟨node, found, ?_⟩
        cases node with
        | blockStatement statements => exact succeeds_ok _
        | unknown name => cases formed
        | _ => simp [Node.kind] at kind

theorem name_iff (near : value.depth < depth) :
    Succeeds (decodeName sub value) ↔ Fits good .name (some value) := by
  unfold decodeName
  split
  · next name => exact iff_of_true (succeeds_ok name) .name
  · next unquoted =>
    rw [succeeds_bind]
    constructor
    · rintro ⟨node, found, result, finish⟩
      cases node with
      | identifier name =>
          exact .identifier (reader.kind found) ((reader.accepts near).mp ⟨_, found⟩)
      | _ => cases finish
    · intro fits
      cases fits with
      | name => exact absurd rfl (unquoted _)
      | identifier named described =>
          obtain ⟨name, found⟩ := (reader.identifier_iff near).mpr ⟨named, described⟩
          exact ⟨_, found, succeeds_ok name⟩

theorem names_iff (near : value.depth < depth) :
    Succeeds (decodeNames sub value) ↔ Fits good .names (some value) := by
  cases value with
  | array values =>
      have below : ∀ value ∈ values, value.depth < depth := fun value member =>
        Nat.lt_of_le_of_lt (Json.Value.depth_le_depthAll member) (Nat.lt_of_succ_lt near)
      rw [decodeNames, succeeds_each]
      constructor
      · exact fun each => .names fun value member =>
          (reader.name_iff (below value member)).mp (each value member)
      · intro fits value member
        cases fits with
        | names each => exact (reader.name_iff (below value member)).mpr (each value member)
  | _ => exact iff_of_false (not_succeeds_error _) (by rintro ⟨⟩)

theorem branch_iff {found : Option Json.Value}
    (near : ∀ value, found = some value → value.depth < depth) :
    Succeeds (decodeAlternative sub found) ↔ Fits good .branch found := by
  unfold decodeAlternative
  split
  · exact iff_of_true (succeeds_ok none) .absent
  · exact iff_of_true (succeeds_ok none) .null
  · next value present =>
    rw [succeeds_bind]
    constructor
    · rintro ⟨block, decoded, -⟩
      exact .branch ((reader.block_iff (near value rfl)).mp ⟨block, decoded⟩)
    · intro fits
      cases fits with
      | null => exact absurd rfl present
      | branch fits =>
          obtain ⟨block, decoded⟩ := (reader.block_iff (near value rfl)).mpr fits
          exact ⟨block, decoded, succeeds_pure _⟩

theorem pairs_iff (near : value.depth < depth) :
    Succeeds (decodePairs sub value) ↔ Fits good .pairs (some value) := by
  cases value with
  | array values =>
      have below {key item : Json.Value} (member : .array [key, item] ∈ values) :
          key.depth < depth ∧ item.depth < depth := by
        have inner := Json.Value.depth_le_depthAll member
        have first : key.depth ≤ Json.Value.depthAll [key, item] :=
          Json.Value.depth_le_depthAll List.mem_cons_self
        have second : item.depth ≤ Json.Value.depthAll [key, item] :=
          Json.Value.depth_le_depthAll (List.mem_cons_of_mem key List.mem_cons_self)
        simp only [Json.Value.depth] at inner near
        omega
      rw [decodePairs, succeeds_each]
      constructor
      · intro each
        obtain ⟨pairs, rfl, items⟩ := exists_map_of_forall fun value member =>
          succeeds_pair.mp (each value member)
        have place {pair} (member : pair ∈ pairs) := below (List.mem_map_of_mem member)
        exact .pairs
          (fun pair member => (reader.accepts (place member).1).mp (items pair member).1)
          (fun pair member => (reader.accepts (place member).2).mp (items pair member).2)
      · intro fits value member
        cases fits with
        | pairs keys items =>
            obtain ⟨pair, among, rfl⟩ := List.mem_map.mp member
            exact succeeds_pair.mpr ⟨pair, rfl,
              (reader.accepts (below member).1).mpr (keys pair among),
              (reader.accepts (below member).2).mpr (items pair among)⟩
  | _ => exact iff_of_false (not_succeeds_error _) (by rintro ⟨⟩)

end Reader

theorem text_iff {good : Json.Value → Prop} {kind : String} {value : Json.Value} :
    Succeeds (decodeText kind value) ↔ Fits good .text (some value) := by
  cases value with
  | string text => exact iff_of_true (succeeds_ok text) .text
  | _ => exact iff_of_false (not_succeeds_error _) (by rintro ⟨⟩)

theorem boolean_iff {good : Json.Value → Prop} {value : Json.Value} :
    Succeeds (decodeBoolean value) ↔ Fits good .boolean (some value) := by
  cases value with
  | boolean truth => exact iff_of_true (succeeds_ok truth) .boolean
  | _ => exact iff_of_false (not_succeeds_error _) (by rintro ⟨⟩)

theorem integer_iff {good : Json.Value → Prop} {value : Json.Value} :
    Succeeds (decodeInteger value) ↔ Fits good .integer (some value) := by
  cases value with
  | integer number =>
      rw [decodeInteger]
      split
      · next inside => exact iff_of_true (succeeds_ok number) (.integer inside)
      · next outside =>
        apply iff_of_false (not_succeeds_error _)
        rintro ⟨⟩
        contradiction
  | _ => exact iff_of_false (not_succeeds_error _) (by rintro ⟨⟩)

theorem operator_iff {good : Json.Value → Prop} {kind : String} {allowed : List String}
    {value : Json.Value} :
    Succeeds (decodeOperator kind (allowed.map Operator.ofSpelling) value) ↔
      Fits good (.operator allowed) (some value) := by
  -- different texts spell different operators
  have faithful : Function.Injective Operator.ofSpelling :=
    Function.LeftInverse.injective Operator.spelling_ofSpelling
  cases value with
  | string text =>
      have same := List.mem_map_of_injective faithful (a := text) (l := allowed)
      rw [decodeOperator]
      split
      · next member => exact iff_of_true (succeeds_ok _) (.operator (same.mp member))
      · next absent =>
        apply iff_of_false (not_succeeds_error _)
        intro fits
        cases fits with
        | operator member => exact absent (same.mpr member)
  | _ => exact iff_of_false (not_succeeds_error _) (by rintro ⟨⟩)

theorem reads_required {good : Json.Value → Prop} {part : Part} {reads : Json.Value → Prop}
    {found : Option Json.Value} (needed : ¬ Fits good part none)
    (same : ∀ value, found = some value → (reads value ↔ Fits good part (some value))) :
    (∃ value, found = some value ∧ reads value) ↔ Fits good part found := by
  cases found with
  | none => simpa using needed
  | some value => simpa using same value rfl

theorem Reader.part_iff {depth : Nat} {good : Json.Value → Prop}
    {sub : Json.Value → Decoded Node} (reader : Reader depth good sub) {kind : String}
    {part : Part} {found : Option Json.Value}
    (near : ∀ value, found = some value → value.depth < depth) :
    part.Reads sub kind found ↔ Fits good part found := by
  cases part with
  | node => exact reads_required (by rintro ⟨⟩) fun _ here => reader.node_iff (near _ here)
  | nodes => exact reads_required (by rintro ⟨⟩) fun _ here => reader.nodes_iff (near _ here)
  | name => exact reads_required (by rintro ⟨⟩) fun _ here => reader.name_iff (near _ here)
  | names => exact reads_required (by rintro ⟨⟩) fun _ here => reader.names_iff (near _ here)
  | block => exact reads_required (by rintro ⟨⟩) fun _ here => reader.block_iff (near _ here)
  | branch => exact reader.branch_iff near
  | pairs => exact reads_required (by rintro ⟨⟩) fun _ here => reader.pairs_iff (near _ here)
  | text => exact reads_required (by rintro ⟨⟩) fun _ _ => text_iff
  | integer => exact reads_required (by rintro ⟨⟩) fun _ _ => integer_iff
  | boolean => exact reads_required (by rintro ⟨⟩) fun _ _ => boolean_iff
  | operator allowed => exact reads_required (by rintro ⟨⟩) fun _ _ => operator_iff

theorem Reader.node_succeeds {depth : Nat} {sub : Json.Value → Decoded Node}
    (reader : Reader depth WellFormed sub) {value : Json.Value} (near : value.depth ≤ depth) :
    Succeeds (decodeNode sub value) ↔ WellFormed value := by
  cases value with
  | object members =>
      have part_iff (kind : String) (part : String × Part) :
          part.2.Reads sub kind (members.lookup part.1) ↔
            Fits WellFormed part.2 (members.lookup part.1) := by
        apply reader.part_iff
        intro value found
        exact Nat.lt_of_le_of_lt (Json.Value.depth_le_depthMembers found) near
      constructor
      · intro succeeds
        rw [decodeNode] at succeeds
        split at succeeds
        · next kind named =>
          cases known : grammar kind with
          | none =>
              rw [decodeKind_unknown known] at succeeds
              exact absurd succeeds (not_succeeds_error _)
          | some parts =>
              refine .node named known fun part member => ?_
              exact (part_iff kind part).mp ((decodeKind_succeeds known).mp succeeds part member)
        all_goals exact absurd succeeds (not_succeeds_error _)
      · intro formed
        cases formed with
        | node named known fits =>
            rw [decodeNode, named]
            refine (decodeKind_succeeds known).mpr fun part member => ?_
            exact (part_iff _ part).mpr (fits part member)
  | _ => exact iff_of_false (not_succeeds_error _) (by rintro ⟨⟩)

theorem decodeWithin_succeeds {depth : Nat} {value : Json.Value} (enough : value.depth < depth) :
    Succeeds (decodeWithin depth value) ↔ WellFormed value := by
  induction depth generalizing value with
  | zero => cases enough
  | succ depth ih =>
      have reader : Reader depth WellFormed (decodeWithin depth) :=
        ⟨ih, decodeWithin_kind, decodeWithin_wellFormed⟩
      exact reader.node_succeeds (Nat.le_of_lt_succ enough)

end MonkeyLang.Document
