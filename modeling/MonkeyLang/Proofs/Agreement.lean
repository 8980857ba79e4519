import MonkeyLang.Proofs.Grammar
import Mathlib.Data.List.Forall2

/-!
Which documents describe the same tree. A node is put together from the parts that the
grammar gives its kind, each read from a member of its own, and the tree tells its parts
apart: two objects describe one tree exactly when they name one kind and each part of it is
read alike from both.
-/

namespace MonkeyLang.Document

/-- Both readings give a result, and it is the same one. -/
def Agree {α : Type} (first second : Decoded α) : Prop :=
  ∃ result, first = .ok result ∧ second = .ok result

section Agreement
variable {α β : Type}

theorem agree_pure {first second : α} :
    Agree (pure first : Decoded α) (pure second) ↔ first = second := by
  constructor
  · rintro ⟨_, ⟨⟩, ⟨⟩⟩
    rfl
  · rintro rfl
    exact ⟨first, rfl, rfl⟩

theorem Agree.follow {first second third : Decoded α} (agree : Agree first second)
    (follows : ∀ result, second = .ok result → third = .ok result) : Agree first third :=
  agree.imp fun result both => ⟨both.1, follows result both.2⟩

/-- Readings that go on from a first result agree if they agree on it and from there, as
long as the final result still tells what the first one was. -/
theorem agree_bind {first first' : Decoded α} {next next' : α → Decoded β} {earlier later : Prop}
    (finish : ∀ result result', Agree (next result) (next' result') ↔
      (earlier ∧ result = result') ∧ later) :
    Agree (first >>= next) (first' >>= next') ↔ earlier ∧ Agree first first' ∧ later := by
  constructor
  · rintro ⟨final, left, right⟩
    obtain ⟨result, found, ending⟩ := bind_eq_ok.mp left
    obtain ⟨result', found', ending'⟩ := bind_eq_ok.mp right
    obtain ⟨⟨before, rfl⟩, after⟩ := (finish result result').mp ⟨final, ending, ending'⟩
    exact ⟨before, ⟨result, found, found'⟩, after⟩
  · rintro ⟨before, ⟨result, found, found'⟩, after⟩
    obtain ⟨final, ending, ending'⟩ := (finish result result).mpr ⟨⟨before, rfl⟩, after⟩
    exact ⟨final, bind_eq_ok.mpr ⟨result, found, ending⟩, bind_eq_ok.mpr ⟨result, found', ending'⟩⟩

end Agreement

namespace Part

/-- What a part of a node is read as. -/
def Result : Part → Type
  | node => Node
  | nodes => List Node
  | name => String
  | names => List String
  | block => Node
  | branch => Option Node
  | pairs => List (Node × Node)
  | text => String
  | integer => Int
  | boolean => Bool
  | operator _ => Operator

/-- Read a part of a node from the member of its name. -/
def read (sub : Json.Value → Decoded Node) (members : Members) (kind member : String) :
    (part : Part) → Decoded part.Result
  | node => required members kind member >>= sub
  | nodes => required members kind member >>= decodeNodes sub
  | name => required members kind member >>= decodeName sub
  | names => required members kind member >>= decodeNames sub
  | block => required members kind member >>= decodeBlock sub
  | branch => decodeAlternative sub (members.lookup member)
  | pairs => required members kind member >>= decodePairs sub
  | text => required members kind member >>= decodeText kind
  | integer => required members kind member >>= decodeInteger
  | boolean => required members kind member >>= decodeBoolean
  | operator allowed =>
      required members kind member >>= decodeOperator kind (allowed.map Operator.ofSpelling)

end Part

section Parts
variable {sub sub' : Json.Value → Decoded Node} {kind : String} {members members' : Members}

/-- Two nodes of a kind agree in a part and in the parts before and after it. -/
theorem agree_part {α : Type} {name : String} {part : Part} {rest : List (String × Part)}
    {decode decode' : Json.Value → Decoded α} {next next' : α → Decoded Node} {earlier : Prop}
    (reads : Agree (part.read sub members kind name) (part.read sub' members' kind name) ↔
      Agree (required members kind name >>= decode) (required members' kind name >>= decode'))
    (later : ∀ result result', Agree (next result) (next' result') ↔
      (earlier ∧ result = result') ∧ ∀ part ∈ rest,
        Agree (part.2.read sub members kind part.1) (part.2.read sub' members' kind part.1)) :
    Agree (required members kind name >>= fun value => decode value >>= next)
        (required members' kind name >>= fun value => decode' value >>= next') ↔
      earlier ∧ ∀ each ∈ (name, part) :: rest,
        Agree (each.2.read sub members kind each.1) (each.2.read sub' members' kind each.1) := by
  rw [← bind_assoc, ← bind_assoc, agree_bind later, List.forall_mem_cons, reads]

theorem decodeKind_agree {parts : List (String × Part)} (known : grammar kind = some parts) :
    Agree (decodeKind sub kind members) (decodeKind sub' kind members') ↔
      ∀ part ∈ parts,
        Agree (part.2.read sub members kind part.1) (part.2.read sub' members' kind part.1) := by
  rw [← true_and (∀ part ∈ parts, _)]
  unfold grammar at known
  split at known <;> cases known
  case h_12 =>
    -- the alternative of an `if` may be missing
    refine agree_part Iff.rfl fun _ _ => agree_part Iff.rfl fun _ _ => ?_
    rw [List.forall_mem_singleton]
    refine (agree_bind fun _ _ => ?_).trans (and_congr_right fun _ => and_iff_left trivial)
    simp [agree_pure, and_assoc]
  all_goals
    repeat refine agree_part Iff.rfl fun _ _ => ?_
    simp [agree_pure, and_assoc]

end Parts

theorem decodeEach_eq_ok {α : Type} {decode : Json.Value → Decoded α} {values : List Json.Value}
    {results : List α} :
    decodeEach decode values = .ok results ↔
      List.Forall₂ (fun value result => decode value = .ok result) values results := by
  induction values generalizing results with
  | nil =>
      rw [List.forall₂_nil_left_iff]
      constructor
      · rintro ⟨⟩
        rfl
      · rintro rfl
        rfl
  | cons value rest ih =>
      rw [List.forall₂_cons_left_iff, decodeEach, bind_eq_ok]
      constructor
      · rintro ⟨first, found, ending⟩
        obtain ⟨others, found', ⟨⟩⟩ := bind_eq_ok.mp ending
        exact ⟨first, others, found, ih.mp found', rfl⟩
      · rintro ⟨first, others, found, found', rfl⟩
        exact ⟨first, found, bind_eq_ok.mpr ⟨others, ih.mpr found', rfl⟩⟩

theorem decodePair_eq_ok {sub : Json.Value → Decoded Node} {value : Json.Value}
    {pair : Node × Node} :
    decodePair sub value = .ok pair ↔
      ∃ key item, value = .array [key, item] ∧ sub key = .ok pair.1 ∧ sub item = .ok pair.2 := by
  unfold decodePair
  split
  · next key item =>
    constructor
    · intro decoded
      obtain ⟨first, keyed, ending⟩ := bind_eq_ok.mp decoded
      obtain ⟨second, valued, ⟨⟩⟩ := bind_eq_ok.mp ending
      exact ⟨key, item, rfl, keyed, valued⟩
    · rintro ⟨_, _, ⟨⟩, keyed, valued⟩
      exact bind_eq_ok.mpr ⟨_, keyed, bind_eq_ok.mpr ⟨_, valued, rfl⟩⟩
  · next unpaired =>
    apply iff_of_false (by rintro ⟨⟩)
    rintro ⟨key, item, same, -⟩
    exact unpaired key item same

theorem decodeBlock_eq_ok {sub : Json.Value → Decoded Node} {value : Json.Value} {node : Node} :
    decodeBlock sub value = .ok node ↔ sub value = .ok node ∧ node.isBlock = true := by
  rw [decodeBlock, bind_eq_ok]
  constructor
  · rintro ⟨block, found, ending⟩
    cases block with
    | blockStatement statements =>
        cases ending
        exact ⟨found, rfl⟩
    | _ => cases ending
  · rintro ⟨found, block⟩
    refine ⟨node, found, ?_⟩
    cases node with
    | blockStatement statements => rfl
    | _ => cases block

/-- A name that is not written as a string is written as an identifier. -/
theorem decodeName_eq_ok {sub : Json.Value → Decoded Node} {value : Json.Value} {name : String}
    (unquoted : ∀ text, value ≠ .string text) :
    decodeName sub value = .ok name ↔ sub value = .ok (.identifier name) := by
  unfold decodeName
  split
  · next text => exact absurd rfl (unquoted text)
  · rw [bind_eq_ok]
    constructor
    · rintro ⟨node, found, ending⟩
      cases node with
      | identifier text =>
          cases ending
          exact found
      | _ => cases ending
    · exact fun found => ⟨_, found, rfl⟩

section Arrays
variable {sub : Json.Value → Decoded Node} {value : Json.Value}

theorem decodeNodes_eq_ok {nodes : List Node} :
    decodeNodes sub value = .ok nodes ↔
      ∃ values, value = .array values ∧ decodeEach sub values = .ok nodes := by
  cases value <;> simp [decodeNodes]

theorem decodeNames_eq_ok {names : List String} :
    decodeNames sub value = .ok names ↔
      ∃ values, value = .array values ∧ decodeEach (decodeName sub) values = .ok names := by
  cases value <;> simp [decodeNames]

theorem decodePairs_eq_ok {pairs : List (Node × Node)} :
    decodePairs sub value = .ok pairs ↔
      ∃ values, value = .array values ∧ decodeEach (decodePair sub) values = .ok pairs := by
  cases value <;> simp [decodePairs]

end Arrays

/-- What is read tells the value it was read from, which is neither an array nor an object. -/
def IsScalar {α : Type} (read : Json.Value → Decoded α) : Prop :=
  ∃ written : α → Json.Value, ∀ {value result}, read value = .ok result →
    value = written result ∧ value.depth = 0

section Scalars
variable {kind : String}

theorem isScalar_text : IsScalar (decodeText kind) := by
  refine ⟨.string, fun {value text} found => ?_⟩
  cases value <;> cases found
  exact ⟨rfl, rfl⟩

theorem isScalar_boolean : IsScalar decodeBoolean := by
  refine ⟨.boolean, fun {value truth} found => ?_⟩
  cases value <;> cases found
  exact ⟨rfl, rfl⟩

theorem isScalar_integer : IsScalar decodeInteger := by
  refine ⟨.integer, fun {value number} found => ?_⟩
  cases value with
  | integer held =>
      rw [decodeInteger] at found
      split at found <;> cases found
      exact ⟨rfl, rfl⟩
  | _ => cases found

theorem isScalar_operator {allowed : List Operator} : IsScalar (decodeOperator kind allowed) := by
  refine ⟨fun operator => .string operator.spelling, fun {value operator} found => ?_⟩
  cases value with
  | string text =>
      rw [decodeOperator] at found
      split at found <;> cases found
      exact ⟨congrArg Json.Value.string (Operator.spelling_ofSpelling text).symm, rfl⟩
  | _ => cases found

end Scalars

section Growth
variable {sub sub' : Json.Value → Decoded Node}
  (grows : ∀ value node, sub value = .ok node → sub' value = .ok node)
include grows

theorem decodeName_grows {value : Json.Value} {name : String}
    (decoded : decodeName sub value = .ok name) : decodeName sub' value = .ok name := by
  cases value with
  | string text => exact decoded
  | _ =>
      rw [decodeName_eq_ok (by rintro _ ⟨⟩)] at decoded ⊢
      exact grows _ _ decoded

theorem decodeBlock_grows {value : Json.Value} {node : Node}
    (decoded : decodeBlock sub value = .ok node) : decodeBlock sub' value = .ok node :=
  decodeBlock_eq_ok.mpr ((decodeBlock_eq_ok.mp decoded).imp_left (grows value node))

theorem decodeAlternative_grows {found : Option Json.Value} {branch : Option Node}
    (decoded : decodeAlternative sub found = .ok branch) :
    decodeAlternative sub' found = .ok branch := by
  unfold decodeAlternative at decoded ⊢
  split at decoded
  · exact decoded
  · exact decoded
  · obtain ⟨block, found, ending⟩ := bind_eq_ok.mp decoded
    exact bind_eq_ok.mpr ⟨block, decodeBlock_grows grows found, ending⟩

theorem decodePair_grows {value : Json.Value} {pair : Node × Node}
    (decoded : decodePair sub value = .ok pair) : decodePair sub' value = .ok pair := by
  obtain ⟨key, item, same, keyed, valued⟩ := decodePair_eq_ok.mp decoded
  exact decodePair_eq_ok.mpr ⟨key, item, same, grows _ _ keyed, grows _ _ valued⟩

omit grows in
theorem decodeEach_grows {α : Type} {decode decode' : Json.Value → Decoded α}
    (grows : ∀ value item, decode value = .ok item → decode' value = .ok item)
    {values : List Json.Value} {items : List α} (decoded : decodeEach decode values = .ok items) :
    decodeEach decode' values = .ok items :=
  decodeEach_eq_ok.mpr ((decodeEach_eq_ok.mp decoded).imp grows)

omit grows in
theorem required_grows {α : Type} {members : Members} {kind name : String}
    {decode decode' : Json.Value → Decoded α} {result : α}
    (grows : ∀ value, decode value = .ok result → decode' value = .ok result)
    (decoded : (required members kind name >>= decode) = .ok result) :
    (required members kind name >>= decode') = .ok result := by
  obtain ⟨value, found, ending⟩ := bind_eq_ok.mp decoded
  exact bind_eq_ok.mpr ⟨value, found, grows value ending⟩

theorem Part.read_grows {members : Members} {kind name : String} (part : Part)
    {result : part.Result} (decoded : part.read sub members kind name = .ok result) :
    part.read sub' members kind name = .ok result := by
  cases part with
  | node => exact required_grows (fun value => grows value _) decoded
  | nodes =>
      refine required_grows (fun value found => ?_) decoded
      obtain ⟨values, rfl, each⟩ := decodeNodes_eq_ok.mp found
      exact decodeEach_grows grows each
  | name => exact required_grows (fun _ => decodeName_grows grows) decoded
  | names =>
      refine required_grows (fun value found => ?_) decoded
      obtain ⟨values, rfl, each⟩ := decodeNames_eq_ok.mp found
      exact decodeEach_grows (fun _ _ => decodeName_grows grows) each
  | block => exact required_grows (fun _ => decodeBlock_grows grows) decoded
  | branch => exact decodeAlternative_grows grows decoded
  | pairs =>
      refine required_grows (fun value found => ?_) decoded
      obtain ⟨values, rfl, each⟩ := decodePairs_eq_ok.mp found
      exact decodeEach_grows (fun _ _ => decodePair_grows grows) each
  | text => exact decoded
  | integer => exact decoded
  | boolean => exact decoded
  | operator allowed => exact decoded

end Growth

theorem kind_object {members : Members} {kind : String} :
    kind? (.object members) = some kind ↔ members.lookup "node" = some (.string kind) := by
  simp only [kind?]
  cases members.lookup "node" with
  | none => simp
  | some value => cases value <;> simp

theorem decodeNode_object {sub : Json.Value → Decoded Node} {members : Members} {node : Node} :
    decodeNode sub (.object members) = .ok node ↔
      ∃ kind parts, kind? (.object members) = some kind ∧ grammar kind = some parts ∧
        decodeKind sub kind members = .ok node := by
  simp only [decodeNode, kind_object]
  cases members.lookup "node" with
  | none => simp
  | some value =>
      cases value with
      | string kind =>
          constructor
          · intro (decoded : decodeKind sub kind members = .ok node)
            cases known : grammar kind with
            | none =>
                rw [decodeKind_unknown known] at decoded
                cases decoded
            | some parts => exact ⟨kind, parts, rfl, known, decoded⟩
          · rintro ⟨_, _, ⟨⟩, -, decoded⟩
            exact decoded
      | _ => simp

/-- Two objects describe one tree exactly when they name one kind and agree in its parts. -/
theorem agree_nodes {sub sub' : Json.Value → Decoded Node} {members members' : Members} :
    Agree (decodeNode sub (.object members)) (decodeNode sub' (.object members')) ↔
      ∃ kind parts, kind? (.object members) = some kind ∧ kind? (.object members') = some kind ∧
        grammar kind = some parts ∧ ∀ part ∈ parts,
          Agree (part.2.read sub members kind part.1) (part.2.read sub' members' kind part.1) := by
  constructor
  · rintro ⟨node, left, right⟩
    obtain ⟨kind, parts, named, known, decoded⟩ := decodeNode_object.mp left
    obtain ⟨kind', _, named', -, decoded'⟩ := decodeNode_object.mp right
    -- the tree tells its kind
    obtain rfl : kind = kind' :=
      (kind_of_decodeKind decoded).symm.trans (kind_of_decodeKind decoded')
    exact ⟨kind, parts, named, named', known, (decodeKind_agree known).mp ⟨node, decoded, decoded'⟩⟩
  · rintro ⟨kind, parts, named, named', known, agree⟩
    obtain ⟨node, decoded, decoded'⟩ := (decodeKind_agree known).mpr agree
    exact ⟨node, decodeNode_object.mpr ⟨kind, parts, named, known, decoded⟩,
      decodeNode_object.mpr ⟨kind, parts, named', known, decoded'⟩⟩

theorem decodeNode_grows {sub sub' : Json.Value → Decoded Node}
    (grows : ∀ value node, sub value = .ok node → sub' value = .ok node) {value : Json.Value}
    {node : Node} (decoded : decodeNode sub value = .ok node) :
    decodeNode sub' value = .ok node := by
  cases value with
  | object members =>
      obtain ⟨kind, parts, named, -, known, each⟩ := agree_nodes.mp ⟨node, decoded, decoded⟩
      have agree : Agree (decodeNode sub (.object members)) (decodeNode sub' (.object members)) :=
        agree_nodes.mpr ⟨kind, parts, named, named, known, fun part among =>
          (each part among).follow fun _ => part.2.read_grows grows⟩
      obtain ⟨node', first, second⟩ := agree
      cases decoded.symm.trans first
      exact second
  | _ => cases decoded

theorem decodeWithin_grows {depth depth' : Nat} (deeper : depth ≤ depth') {value : Json.Value}
    {node : Node} (decoded : decodeWithin depth value = .ok node) :
    decodeWithin depth' value = .ok node := by
  induction depth generalizing depth' value node with
  | zero => cases decoded
  | succ depth ih =>
      obtain ⟨further, rfl⟩ := Nat.exists_eq_succ_of_ne_zero (by omega : depth' ≠ 0)
      exact decodeNode_grows (fun _ _ => ih (by omega)) decoded

/-- Whatever depth decoding is allowed, it gives no other tree. -/
theorem decode_of_within {depth : Nat} {value : Json.Value} {node : Node}
    (decoded : decodeWithin depth value = .ok node) : decode value = .ok node := by
  have deep := decodeWithin_grows (Nat.le_max_left depth (value.depth + 1)) decoded
  have enough : value.depth < max depth (value.depth + 1) := by omega
  have formed : WellFormed value := (decodeWithin_succeeds enough).mp ⟨node, deep⟩
  obtain ⟨node', found⟩ := (decodeWithin_succeeds (Nat.lt_succ_self value.depth)).mpr formed
  have same := decodeWithin_grows (Nat.le_max_right depth (value.depth + 1)) found
  cases deep.symm.trans same
  exact found

/-- The nodes below a node are decoded as any others. -/
theorem decode_node {value : Json.Value} {node : Node} :
    decode value = .ok node ↔ decodeNode decode value = .ok node := by
  have onward {node : Node} (decoded : decode value = .ok node) :
      decodeNode decode value = .ok node :=
    decodeNode_grows (fun _ _ => decode_of_within) decoded
  constructor
  · exact onward
  · intro decoded
    have reader : Reader value.depth WellFormed decode :=
      ⟨fun _ => decodeWithin_succeeds (Nat.lt_succ_self _), decodeWithin_kind,
        decodeWithin_wellFormed⟩
    have formed := (reader.node_succeeds (Nat.le_refl _)).mp ⟨node, decoded⟩
    obtain ⟨node', found⟩ := (decodeWithin_succeeds (Nat.lt_succ_self value.depth)).mpr formed
    cases decoded.symm.trans (onward found)
    exact found

theorem agree_objects {members members' : Members} :
    Agree (decode (.object members)) (decode (.object members')) ↔
      ∃ kind parts, kind? (.object members) = some kind ∧ kind? (.object members') = some kind ∧
        grammar kind = some parts ∧ ∀ part ∈ parts,
          Agree (part.2.read decode members kind part.1)
            (part.2.read decode members' kind part.1) := by
  rw [← agree_nodes]
  exact exists_congr fun _ => and_congr decode_node decode_node

end MonkeyLang.Document
