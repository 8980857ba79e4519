import MonkeyLang.Proofs.Grammar

/-!
Where decoding stumbles. A document outside of the grammar is refused with a complaint, but
an array or an object where a kind or an operator is looked up is no complaint. Documents are
read from left to right, so decoding stumbles exactly where such a value stands behind
nothing that is refused.
-/

namespace MonkeyLang

/-- Arrays and objects. -/
def Json.Shape.IsCompound (shape : Json.Shape) : Prop :=
  shape = .array ∨ shape = .object

theorem Json.Value.depthAll_le_append (before rest : List Json.Value) :
    depthAll before ≤ depthAll (before ++ rest) := by
  induction before with
  | nil => exact Nat.zero_le _
  | cons value before ih =>
      simp only [List.cons_append, depthAll]
      omega

namespace Document

/-- A part of a node that is there is stumbled over; `bad` says which documents are so as nodes. -/
inductive StumblesAt (shape : Json.Shape) (bad : Json.Value → Prop) : Part → Json.Value → Prop where
  | node {value} : bad value → StumblesAt shape bad .node value
  | nodes {before value after} : Fits WellFormed .nodes (some (.array before)) → bad value →
      StumblesAt shape bad .nodes (.array (before ++ value :: after))
  | name {value} : bad value → StumblesAt shape bad .name value
  | names {before value after} : Fits WellFormed .names (some (.array before)) → bad value →
      StumblesAt shape bad .names (.array (before ++ value :: after))
  | block {value} : bad value → StumblesAt shape bad .block value
  | branch {value} : bad value → StumblesAt shape bad .branch value
  | key {before key item after} : Fits WellFormed .pairs (some (.array before)) → bad key →
      StumblesAt shape bad .pairs (.array (before ++ .array [key, item] :: after))
  | item {before key item after} : Fits WellFormed .pairs (some (.array before)) →
      WellFormed key → bad item →
      StumblesAt shape bad .pairs (.array (before ++ .array [key, item] :: after))
  | operator {allowed : List String} {value} : shape.IsCompound → value.shape = shape →
      StumblesAt shape bad (.operator allowed) value

/-- Decoding comes to an array or an object where a kind or an operator is looked up, and
what stands before it is of the grammar. -/
inductive Stumbles (shape : Json.Shape) : Json.Value → Prop where
  | kind {members key} : members.lookup "node" = some key → shape.IsCompound →
      key.shape = shape → Stumbles shape (.object members)
  | part {members kind before name part after value} :
      members.lookup "node" = some (.string kind) →
      grammar kind = some (before ++ (name, part) :: after) →
      (∀ earlier ∈ before, Fits WellFormed earlier.2 (members.lookup earlier.1)) →
      members.lookup name = some value → StumblesAt shape (Stumbles shape) part value →
      Stumbles shape (.object members)

/-- A part of a node is there and is stumbled over. -/
def StumblesIn (members : Members) (shape : Json.Shape) (part : String × Part) : Prop :=
  ∃ value, members.lookup part.1 = some value ∧ StumblesAt shape (Stumbles shape) part.2 value

/-- Some item is bad, and those before it are good. -/
def Breaks {α : Type} (good bad : α → Prop) (items : List α) : Prop :=
  ∃ before item after, items = before ++ item :: after ∧ (∀ earlier ∈ before, good earlier) ∧
    bad item

section Breaks
variable {α : Type} {good bad : α → Prop}

theorem not_breaks_nil : ¬ Breaks good bad [] := by
  rintro ⟨before, item, after, same, -⟩
  cases before <;> cases same

theorem breaks_cons {item : α} {rest : List α} :
    Breaks good bad (item :: rest) ↔ bad item ∨ good item ∧ Breaks good bad rest := by
  constructor
  · rintro ⟨before, found, after, same, goods, holds⟩
    cases before with
    | nil =>
        cases same
        exact .inl holds
    | cons earlier before =>
        cases same
        obtain ⟨here, later⟩ := List.forall_mem_cons.mp goods
        exact .inr ⟨here, before, found, after, rfl, later, holds⟩
  · rintro (here | ⟨here, before, found, after, rfl, goods, holds⟩)
    · exact ⟨[], item, rest, rfl, List.forall_mem_nil _, here⟩
    · exact ⟨item :: before, found, after, rfl, List.forall_mem_cons.mpr ⟨here, goods⟩, holds⟩

end Breaks

section Objects
variable {shape : Json.Shape} {members : Members} {key : Json.Value}

theorem stumbles_compound (found : members.lookup "node" = some key)
    (compound : key.shape.IsCompound) : Stumbles shape (.object members) ↔ key.shape = shape := by
  constructor
  · intro stumbled
    cases stumbled with
    | kind named _ same =>
        cases found.symm.trans named
        exact same
    | part named =>
        cases found.symm.trans named
        rcases compound with ⟨⟨⟩⟩ | ⟨⟨⟩⟩
  · rintro rfl
    exact .kind found compound rfl

theorem stumbles_plain (found : members.lookup "node" = some key)
    (plain : ¬ key.shape.IsCompound) : Stumbles shape (.object members) ↔
      ∃ kind parts, key = .string kind ∧ grammar kind = some parts ∧
        Breaks (fun part => Fits WellFormed part.2 (members.lookup part.1))
          (StumblesIn members shape) parts := by
  constructor
  · intro stumbled
    cases stumbled with
    | kind named compound same =>
        cases found.symm.trans named
        exact absurd (same ▸ compound) plain
    | part named known fits present stumbled =>
        cases found.symm.trans named
        exact ⟨_, _, rfl, known, _, _, _, rfl, fits, _, present, stumbled⟩
  · rintro ⟨kind, _, rfl, known, before, part, after, rfl, fits, value, present, stumbled⟩
    exact .part found known fits present stumbled

end Objects

/-- Decoding stumbles as said, and fails in no other way than with a complaint. -/
structure Stumbling {α : Type} (stumbles : Json.Shape → Prop) (decoded : Decoded α) : Prop where
  complains {error} : decoded = .error error →
    error.isRefusal = true ∨ ∃ shape, error = .compoundKey shape
  stumbles_iff {shape} : decoded = .error (.compoundKey shape) ↔ stumbles shape

namespace Stumbling
variable {α β : Type} {stumbles later : Json.Shape → Prop}

theorem congr {other : Json.Shape → Prop} {decoded : Decoded α}
    (stumbling : Stumbling stumbles decoded) (same : ∀ shape, stumbles shape ↔ other shape) :
    Stumbling other decoded :=
  ⟨stumbling.complains, stumbling.stumbles_iff.trans (same _)⟩

theorem ok (result : α) (never : ∀ shape, ¬ stumbles shape) :
    Stumbling stumbles (.ok result : Decoded α) :=
  ⟨by rintro _ ⟨⟩, iff_of_false (by rintro ⟨⟩) (never _)⟩

theorem refusal {refusal : DocumentError} (refused : refusal.isRefusal = true)
    (never : ∀ shape, ¬ stumbles shape) : Stumbling stumbles (.error refusal : Decoded α) := by
  constructor
  · rintro _ ⟨⟩
    exact .inl refused
  · refine iff_of_false ?_ (never _)
    rintro ⟨⟩
    cases refused

theorem key {found : Json.Shape} (same : ∀ shape, stumbles shape ↔ found = shape) :
    Stumbling stumbles (.error (.compoundKey found) : Decoded α) := by
  constructor
  · rintro _ ⟨⟩
    exact .inr ⟨found, rfl⟩
  · intro shape
    rw [same]
    simp

theorem bind {first : Decoded α} {next : α → Decoded β} (before : Stumbling stumbles first)
    (behind : ∀ result, first = .ok result → Stumbling later (next result)) :
    Stumbling (fun shape => stumbles shape ∨ Succeeds first ∧ later shape) (first >>= next) := by
  cases first with
  | error error =>
      constructor
      · rintro _ ⟨⟩
        exact before.complains rfl
      · intro shape
        rw [← before.stumbles_iff]
        constructor
        · rintro ⟨⟩
          exact .inl rfl
        · rintro (⟨⟨⟩⟩ | ⟨succeeds, -⟩)
          · rfl
          · exact absurd succeeds (not_succeeds_error error)
  | ok result =>
      refine ⟨(behind result rfl).complains, (behind result rfl).stumbles_iff.trans ?_⟩
      rw [← before.stumbles_iff]
      exact ⟨fun stumbled => .inr ⟨succeeds_ok result, stumbled⟩,
        by rintro (⟨⟨⟩⟩ | ⟨-, stumbled⟩); exact stumbled⟩

/-- What comes afterwards stumbles over nothing. -/
theorem thenOnly {first : Decoded α} {next : α → Decoded β} (before : Stumbling stumbles first)
    (behind : ∀ result, Stumbling (fun _ => False) (next result)) :
    Stumbling stumbles (first >>= next) :=
  (before.bind fun result _ => behind result).congr fun shape => by simp

theorem map {first : Decoded α} (build : α → β) (stumbling : Stumbling stumbles first) :
    Stumbling stumbles (first >>= fun result => pure (build result)) :=
  stumbling.thenOnly fun _ => ok _ fun _ => not_false

theorem each {decode : Json.Value → Decoded α} {bad : Json.Shape → Json.Value → Prop}
    {values : List Json.Value}
    (element : ∀ value ∈ values, Stumbling (fun shape => bad shape value) (decode value)) :
    Stumbling (fun shape => Breaks (fun value => Succeeds (decode value)) (bad shape) values)
      (decodeEach decode values) := by
  induction values with
  | nil => exact ok [] fun _ => not_breaks_nil
  | cons value rest ih =>
      obtain ⟨here, others⟩ := List.forall_mem_cons.mp element
      refine (here.bind fun first _ => (ih others).map (first :: ·)).congr fun shape => ?_
      rw [breaks_cons]

end Stumbling

/-- A value is read as a part of a node. -/
def ReadsAs {α : Type} (part : Part) (value : Json.Value) (decoded : Decoded α) : Prop :=
  Stumbling (fun shape => StumblesAt shape (Stumbles shape) part value) decoded

/-- Reading one part of a node and then the others. -/
theorem Stumbling.part {α β : Type} {depth : Nat} {members : Members} {kind name : String}
    {part : Part} {rest : List (String × Part)} {good : String × Part → Prop}
    {decode : Json.Value → Decoded α} {next : α → Decoded β}
    (near : ∀ name value, members.lookup name = some value → value.depth < depth)
    (here : ∀ {value}, value.depth < depth → ReadsAs part value (decode value))
    (reads : good (name, part) ↔
      ∃ value, members.lookup name = some value ∧ Succeeds (decode value))
    (later : ∀ result,
      Stumbling (fun shape => Breaks good (StumblesIn members shape) rest) (next result)) :
    Stumbling (fun shape => Breaks good (StumblesIn members shape) ((name, part) :: rest))
      (required members kind name >>= fun value => decode value >>= next) := by
  cases found : members.lookup name with
  | none =>
      have missing : required members kind name = .error (.missingMember kind name) := by
        rw [required, found]
      rw [missing]
      refine Stumbling.refusal rfl fun shape => ?_
      rw [breaks_cons, reads, StumblesIn, found]
      simp
  | some value =>
      have present : required members kind name = .ok value := required_eq_ok.mpr found
      have read := here (near name value found)
      rw [present]
      refine (read.bind fun result _ => later result).congr fun shape => ?_
      rw [breaks_cons, reads, StumblesIn, found]
      simp

/-- Of an array, what stands before the element that is stumbled over fits. -/
theorem Stumbling.array {α : Type} {depth : Nat} {part : Part} {values : List Json.Value}
    {decode : Json.Value → Decoded α} {bad : Json.Shape → Json.Value → Prop}
    (near : (Json.Value.array values).depth < depth)
    (fits : ∀ before : List Json.Value, (Json.Value.array before).depth < depth →
      (Succeeds (decodeEach decode before) ↔ Fits WellFormed part (some (.array before))))
    (element : ∀ value ∈ values, value.depth < depth →
      Stumbling (fun shape => bad shape value) (decode value)) :
    Stumbling (fun shape => ∃ before value after, values = before ++ value :: after ∧
      Fits WellFormed part (some (.array before)) ∧ bad shape value)
      (decodeEach decode values) := by
  refine (Stumbling.each fun value member => element value member ?_).congr fun shape => ?_
  · exact Nat.lt_of_le_of_lt (Json.Value.depth_le_depthAll member) (Nat.lt_of_succ_lt near)
  · refine exists₃_congr fun before value after => and_congr_right fun same => ?_
    subst same
    have shorter : (Json.Value.array before).depth < depth := Nat.lt_of_le_of_lt
      (Nat.succ_le_succ (Json.Value.depthAll_le_append before (value :: after))) near
    rw [← fits before shorter, succeeds_each]

theorem operator_read {kind : String} {allowed : List Operator} {spellings : List String}
    (value : Json.Value) :
    ReadsAs (.operator spellings) value (decodeOperator kind allowed value) := by
  have simple (plain : ¬ value.shape.IsCompound) (shape : Json.Shape) :
      ¬ StumblesAt shape (Stumbles shape) (.operator spellings) value := by
    intro stumbled
    cases stumbled with
    | operator compound same => exact plain (same ▸ compound)
  have compound (found : value.shape.IsCompound) (shape : Json.Shape) :
      StumblesAt shape (Stumbles shape) (.operator spellings) value ↔ value.shape = shape := by
    constructor
    · intro stumbled
      cases stumbled with
      | operator _ same => exact same
    · rintro rfl
      exact .operator found rfl
  cases value with
  | array elements => exact Stumbling.key (compound (.inl rfl))
  | object members => exact Stumbling.key (compound (.inr rfl))
  | string text =>
      rw [decodeOperator]
      split
      · exact Stumbling.ok _ (simple (by simp [Json.Shape.IsCompound, Json.Value.shape]))
      · exact Stumbling.refusal rfl (simple (by simp [Json.Shape.IsCompound, Json.Value.shape]))
  | _ => exact Stumbling.refusal rfl (simple (by simp [Json.Shape.IsCompound, Json.Value.shape]))

theorem text_read (kind : String) (value : Json.Value) :
    ReadsAs .text value (decodeText kind value) := by
  cases value with
  | string text => exact Stumbling.ok text fun shape => by rintro ⟨⟩
  | _ => exact Stumbling.refusal rfl fun shape => by rintro ⟨⟩

theorem integer_read (value : Json.Value) :
    ReadsAs .integer value (decodeInteger value) := by
  cases value with
  | integer number =>
      rw [decodeInteger]
      split
      · exact Stumbling.ok number fun shape => by rintro ⟨⟩
      · exact Stumbling.refusal rfl fun shape => by rintro ⟨⟩
  | _ => exact Stumbling.refusal rfl fun shape => by rintro ⟨⟩

theorem boolean_read (value : Json.Value) :
    ReadsAs .boolean value (decodeBoolean value) := by
  cases value with
  | boolean truth => exact Stumbling.ok truth fun shape => by rintro ⟨⟩
  | _ => exact Stumbling.refusal rfl fun shape => by rintro ⟨⟩

/-- The decoding of values below a node, and where it stumbles. -/
structure Follower (depth : Nat) (sub : Json.Value → Decoded Node) : Prop
    extends Reader depth WellFormed sub where
  stumbles {value} : value.depth < depth → Stumbling (fun shape => Stumbles shape value) (sub value)

namespace Follower
variable {depth : Nat} {sub : Json.Value → Decoded Node} (follower : Follower depth sub)
  {value : Json.Value}
include follower

theorem node (near : value.depth < depth) : ReadsAs .node value (sub value) :=
  (follower.stumbles near).congr fun shape => ⟨.node, by rintro ⟨⟩; assumption⟩

theorem nodes (near : value.depth < depth) : ReadsAs .nodes value (decodeNodes sub value) := by
  cases value with
  | array values =>
      have elements := Stumbling.array near (fun before nearer => follower.nodes_iff nearer)
        fun value _ below => follower.stumbles below
      refine elements.congr fun shape => ⟨?_, ?_⟩
      · rintro ⟨before, value, after, rfl, fits, stumbled⟩
        exact .nodes fits stumbled
      · rintro ⟨⟩
        exact ⟨_, _, _, rfl, by assumption, by assumption⟩
  | _ => exact Stumbling.refusal rfl fun shape => by rintro ⟨⟩

theorem block_stumbling (near : value.depth < depth) :
    Stumbling (fun shape => Stumbles shape value) (decodeBlock sub value) := by
  refine (follower.stumbles near).thenOnly fun node => ?_
  split
  · exact Stumbling.ok _ fun _ => not_false
  · exact Stumbling.refusal rfl fun _ => not_false

theorem block (near : value.depth < depth) : ReadsAs .block value (decodeBlock sub value) :=
  (follower.block_stumbling near).congr fun shape => ⟨.block, by rintro ⟨⟩; assumption⟩

theorem name_stumbling (near : value.depth < depth) :
    Stumbling (fun shape => Stumbles shape value) (decodeName sub value) := by
  unfold decodeName
  split
  · exact Stumbling.ok _ fun shape => by rintro ⟨⟩
  · refine (follower.stumbles near).thenOnly fun node => ?_
    split
    · exact Stumbling.ok _ fun _ => not_false
    · exact Stumbling.refusal rfl fun _ => not_false

theorem name (near : value.depth < depth) : ReadsAs .name value (decodeName sub value) :=
  (follower.name_stumbling near).congr fun shape => ⟨.name, by rintro ⟨⟩; assumption⟩

theorem names (near : value.depth < depth) : ReadsAs .names value (decodeNames sub value) := by
  cases value with
  | array values =>
      have elements := Stumbling.array near (fun before nearer => follower.names_iff nearer)
        fun value _ below => follower.name_stumbling below
      refine elements.congr fun shape => ⟨?_, ?_⟩
      · rintro ⟨before, value, after, rfl, fits, stumbled⟩
        exact .names fits stumbled
      · rintro ⟨⟩
        exact ⟨_, _, _, rfl, by assumption, by assumption⟩
  | _ => exact Stumbling.refusal rfl fun shape => by rintro ⟨⟩

theorem pair {pair : Json.Value} (near : pair.depth < depth) :
    Stumbling (fun shape => ∃ key item, pair = .array [key, item] ∧
      (Stumbles shape key ∨ WellFormed key ∧ Stumbles shape item)) (decodePair sub pair) := by
  unfold decodePair
  split
  · next key item =>
    have below : key.depth < depth ∧ item.depth < depth := by
      simp only [Json.Value.depth, Json.Value.depthAll] at near
      omega
    refine ((follower.stumbles below.1).bind fun first _ =>
      (follower.stumbles below.2).map fun second => (first, second)).congr fun shape => ?_
    rw [follower.accepts below.1]
    constructor
    · exact fun stumbled => ⟨key, item, rfl, stumbled⟩
    · rintro ⟨_, _, ⟨⟩, stumbled⟩
      exact stumbled
  · next unpaired =>
    refine Stumbling.refusal rfl fun shape => ?_
    rintro ⟨key, item, rfl, -⟩
    exact unpaired key item rfl

theorem pairs (near : value.depth < depth) : ReadsAs .pairs value (decodePairs sub value) := by
  cases value with
  | array values =>
      have elements := Stumbling.array near (fun before nearer => follower.pairs_iff nearer)
        fun value _ below => follower.pair below
      refine elements.congr fun shape => ⟨?_, ?_⟩
      · rintro ⟨before, _, after, rfl, fits, key, item, rfl, stumbled | ⟨formed, stumbled⟩⟩
        · exact .key fits stumbled
        · exact .item fits formed stumbled
      · intro stumbled
        cases stumbled with
        | key fits stumbled => exact ⟨_, _, _, rfl, fits, _, _, rfl, .inl stumbled⟩
        | item fits formed stumbled =>
            exact ⟨_, _, _, rfl, fits, _, _, rfl, .inr ⟨formed, stumbled⟩⟩
  | _ => exact Stumbling.refusal rfl fun shape => by rintro ⟨⟩

theorem branch {found : Option Json.Value}
    (near : ∀ value, found = some value → value.depth < depth) :
    Stumbling (fun shape => ∃ value, found = some value ∧
      StumblesAt shape (Stumbles shape) .branch value) (decodeAlternative sub found) := by
  unfold decodeAlternative
  split
  · exact Stumbling.ok none fun shape => by rintro ⟨_, ⟨⟩, -⟩
  · refine Stumbling.ok none fun shape => ?_
    rintro ⟨_, ⟨⟩, ⟨⟩⟩
    contradiction
  · next value _ =>
    refine ((follower.block_stumbling (near value rfl)).map some).congr fun shape => ?_
    constructor
    · exact fun stumbled => ⟨value, rfl, .branch stumbled⟩
    · rintro ⟨_, ⟨⟩, ⟨⟩⟩
      assumption

/-- A node is stumbled over at the first of its parts that is not of the grammar. -/
theorem parts {kind : String} {parts : List (String × Part)} {members : Members}
    (near : ∀ name value, members.lookup name = some value → value.depth < depth)
    (known : grammar kind = some parts) :
    Stumbling (fun shape => Breaks (fun part => part.2.Reads sub kind (members.lookup part.1))
      (StumblesIn members shape) parts) (decodeKind sub kind members) := by
  have done {good : String × Part → Prop} (node : Node) : Stumbling
      (fun shape => Breaks good (StumblesIn members shape) []) (pure node : Decoded Node) :=
    Stumbling.ok node fun _ => not_breaks_nil
  unfold grammar at known
  -- one case for each kind, with a step for each of its parts
  split at known <;> cases known
  · exact .part near follower.nodes Iff.rfl fun _ => done _
  · exact .part near follower.nodes Iff.rfl fun _ => done _
  · exact .part near follower.node Iff.rfl fun _ => done _
  · exact .part near follower.name Iff.rfl fun _ => .part near follower.node Iff.rfl fun _ => done _
  · exact .part near follower.node Iff.rfl fun _ => done _
  · exact .part near (fun _ => text_read _ _) Iff.rfl fun _ => done _
  · exact .part near (fun _ => integer_read _) Iff.rfl fun _ => done _
  · exact .part near (fun _ => text_read _ _) Iff.rfl fun _ => done _
  · exact .part near (fun _ => boolean_read _) Iff.rfl fun _ => done _
  · exact .part near (fun _ => operator_read _) Iff.rfl fun _ =>
      .part near follower.node Iff.rfl fun _ => done _
  · exact .part near follower.node Iff.rfl fun _ =>
      .part near (fun _ => operator_read _) Iff.rfl fun _ =>
        .part near follower.node Iff.rfl fun _ => done _
  · refine .part near follower.node Iff.rfl fun _ => .part near follower.block Iff.rfl fun _ => ?_
    refine ((follower.branch (near "alternative")).map _).congr fun shape => ?_
    rw [breaks_cons, StumblesIn]
    simp only [not_breaks_nil, and_false, or_false]
  · exact .part near follower.names Iff.rfl fun _ =>
      .part near follower.block Iff.rfl fun _ => done _
  · exact .part near follower.node Iff.rfl fun _ =>
      .part near follower.nodes Iff.rfl fun _ => done _
  · exact .part near follower.nodes Iff.rfl fun _ => done _
  · exact .part near follower.node Iff.rfl fun _ => .part near follower.node Iff.rfl fun _ => done _
  · exact .part near follower.pairs Iff.rfl fun _ => done _

theorem object {members : Members} (near : (Json.Value.object members).depth ≤ depth) :
    Stumbling (fun shape => Stumbles shape (.object members))
      (decodeNode sub (.object members)) := by
  have below (name : String) (value : Json.Value) (found : members.lookup name = some value) :
      value.depth < depth :=
    Nat.lt_of_le_of_lt (Json.Value.depth_le_depthMembers found) near
  rw [decodeNode]
  cases named : members.lookup "node" with
  | none =>
      refine Stumbling.refusal rfl fun shape => ?_
      rintro (⟨found, -⟩ | ⟨found, -⟩) <;> cases named.symm.trans found
  | some key =>
      cases key with
      | string kind =>
          have plain : ¬ (Json.Value.string kind).shape.IsCompound := by
            rintro (⟨⟨⟩⟩ | ⟨⟨⟩⟩)
          cases known : grammar kind with
          | none =>
              dsimp only
              rw [decodeKind_unknown known]
              refine Stumbling.refusal rfl fun shape => ?_
              rw [stumbles_plain named plain]
              rintro ⟨_, _, ⟨⟩, known', -⟩
              cases known.symm.trans known'
          | some parts =>
              have reads (part : String × Part) :
                  part.2.Reads sub kind (members.lookup part.1) ↔
                    Fits WellFormed part.2 (members.lookup part.1) :=
                follower.part_iff (below part.1)
              refine (follower.parts below known).congr fun shape => ?_
              simp only [stumbles_plain named plain, reads]
              constructor
              · exact fun breaks => ⟨kind, parts, rfl, known, breaks⟩
              · rintro ⟨_, _, ⟨⟩, known', breaks⟩
                cases known.symm.trans known'
                exact breaks
      | array elements => exact Stumbling.key fun shape => stumbles_compound named (.inl rfl)
      | object inner => exact Stumbling.key fun shape => stumbles_compound named (.inr rfl)
      | _ =>
          refine Stumbling.refusal rfl fun shape => ?_
          rw [stumbles_plain named (by rintro (⟨⟨⟩⟩ | ⟨⟨⟩⟩))]
          rintro ⟨_, _, ⟨⟩, -⟩

end Follower

theorem decodeWithin_stumbling {depth : Nat} {value : Json.Value} (enough : value.depth < depth) :
    Stumbling (fun shape => Stumbles shape value) (decodeWithin depth value) := by
  induction depth generalizing value with
  | zero => cases enough
  | succ depth ih =>
      have follower : Follower depth (decodeWithin depth) :=
        ⟨⟨decodeWithin_succeeds, decodeWithin_kind, decodeWithin_wellFormed⟩, ih⟩
      cases value with
      | object members => exact follower.object (Nat.le_of_lt_succ enough)
      | _ => exact Stumbling.refusal rfl fun shape => by rintro ⟨⟩

/-- Only what is stumbled over is not refused. -/
theorem decode_unrefused {value : Json.Value} {error : DocumentError} :
    (decode value = .error error ∧ error.isRefusal = false) ↔
      ∃ shape, error = .compoundKey shape ∧ Stumbles shape value := by
  have stumbling : Stumbling (fun shape => Stumbles shape value) (decode value) :=
    decodeWithin_stumbling (Nat.lt_succ_self _)
  constructor
  · rintro ⟨failed, unrefused⟩
    rcases stumbling.complains failed with refused | ⟨shape, rfl⟩
    · cases refused.symm.trans unrefused
    · exact ⟨shape, rfl, stumbling.stumbles_iff.mp failed⟩
  · rintro ⟨shape, rfl, stumbled⟩
    exact ⟨stumbling.stumbles_iff.mpr stumbled, rfl⟩

/-- Texts may also hold integers with too many digits. -/
theorem ofText_unrefused {text : String} {error : DocumentError} :
    (ofText text = .error error ∧ error.isRefusal = false) ↔
      (∃ value shape, Json.parse text = .ok value ∧ error = .compoundKey shape ∧
        Stumbles shape value) ∨
      ∃ digits, Json.parse text = .error (.overlong digits) ∧
        error = .overlongInteger digits := by
  unfold ofText
  cases Json.parse text with
  | ok value => simpa using @decode_unrefused value error
  | error failure =>
      cases failure with
      | malformed complaint position =>
          refine iff_of_false ?_ (by simp)
          rintro ⟨⟨⟩, ⟨⟩⟩
      | overlong digits =>
          constructor
          · rintro ⟨⟨⟩, -⟩
            exact .inr ⟨digits, rfl, rfl⟩
          · rintro (⟨_, _, ⟨⟩, -⟩ | ⟨_, ⟨⟩, rfl⟩)
            exact ⟨rfl, rfl⟩

end Document

end MonkeyLang
