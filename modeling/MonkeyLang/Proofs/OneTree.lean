import MonkeyLang.Proofs.Tidying

/-!
The documents of one tree. Two documents of one tree agree in the parts of their nodes. Once
they are tidy, the members that stand in one place are variants in their turn, or names
that are written in two ways; so the documents are variants.
-/

namespace MonkeyLang.Document

open Json (unambiguous_array unambiguous_object)

/-- As the member of a name, one value may stand for another in the nodes of a kind. -/
def Exchange (kind name : String) (value value' : Json.Value) : Prop :=
  ∀ before after, kind? (.object before) = some kind →
    Variant (.object (before ++ (name, value) :: after))
      (.object (before ++ (name, value') :: after))

theorem Variant.exchange {kind name : String} {value value' : Json.Value}
    (variant : Variant value value') : Exchange kind name value value' :=
  fun _ _ _ => variant.member

/-- Tidy members that may stand for each other, one after the other. -/
theorem Variant.of_exchange {kind : String} {parts : List (String × Part)}
    {before members members' : Members} (named : kind? (.object before) = some kind)
    (each : ∀ part ∈ parts, Option.Rel (Exchange kind part.1)
      (part.2.held (members.lookup part.1)) (part.2.held (members'.lookup part.1))) :
    Variant (.object (before ++ tidyParts members parts))
      (.object (before ++ tidyParts members' parts)) := by
  induction parts generalizing before with
  | nil => exact refl _
  | cons part rest ih =>
      obtain ⟨here, later⟩ := List.forall_mem_cons.mp each
      simp only [tidyParts, List.filterMap_cons]
      generalize part.2.held (members.lookup part.1) = found at here ⊢
      generalize part.2.held (members'.lookup part.1) = found' at here ⊢
      cases here with
      | none => exact ih named later
      | @some value value' exchange =>
          have others := @ih (before ++ [(part.1, value')]) (kind_append named) later
          rw [List.append_assoc, List.append_assoc] at others
          exact (exchange before _ named).trans others

theorem Exchange.symm {kind name : String} {value value' : Json.Value}
    (exchange : Exchange kind name value value') : Exchange kind name value' value :=
  fun before after named => (exchange before after named).symm

theorem Exchange.trans {kind name : String} {value value' value'' : Json.Value}
    (first : Exchange kind name value value') (second : Exchange kind name value' value'') :
    Exchange kind name value value'' :=
  fun before after named => (first before after named).trans (second before after named)

section Names
variable {value : Json.Value} {name : String}

/-- An identifier that is written as a node is a variant of its shortest form. -/
theorem Variant.of_identifier (proper : value.Unambiguous)
    (decoded : decode value = .ok (.identifier name)) : Variant value (identifier name) := by
  cases value with
  | object members =>
      obtain ⟨kind, parts, named, known, found⟩ := decodeNode_object.mp (decode_node.mp decoded)
      obtain rfl : "Identifier" = kind := kind_of_decodeKind found
      obtain ⟨text, present, ending⟩ := bind_eq_ok.mp found
      obtain ⟨_, shown, ⟨⟩⟩ := bind_eq_ok.mp ending
      obtain rfl : text = .string name := by
        cases text <;> cases shown
        rfl
      have shape : tidy "Identifier" [("value", .text)] members =
          [("node", .string "Identifier"), ("value", .string name)] := by
        simp [tidy, tidyParts, Part.held, required_eq_ok.mp present]
      rw [identifier, object, ← shape]
      exact tidied proper named rfl
  | _ => cases decoded

theorem spelled_name (proper : value.Unambiguous) (decoded : decodeName decode value = .ok name) :
    value = .string name ∨ Variant value (identifier name) := by
  cases value with
  | string text =>
      cases decoded
      exact .inl rfl
  | _ =>
      rw [decodeName_eq_ok (by rintro _ ⟨⟩)] at decoded
      exact .inr (.of_identifier proper decoded)

/-- The name of a statement may be written as an identifier. -/
theorem exchange_name (proper : value.Unambiguous) (decoded : decodeName decode value = .ok name) :
    Exchange "LetStatement" "name" value (identifier name) := by
  intro before after named
  rcases spelled_name proper decoded with rfl | variant
  · exact .made (.name (kind_append named))
  · exact variant.member

/-- Parameters may be written as identifiers. -/
theorem exchange_parameters {values : List Json.Value} {names : List String}
    (proper : ∀ value ∈ values, value.Unambiguous)
    (decoded : List.Forall₂ (fun value name => decodeName decode value = .ok name) values names) :
    Exchange "FunctionLiteral" "parameters" (.array values) (.array (names.map identifier)) := by
  intro before after named
  have behind (first : List Json.Value) :
      Variant (.object (before ++ ("parameters", .array (first ++ values)) :: after))
        (.object (before ++ ("parameters", .array (first ++ names.map identifier)) :: after)) := by
    induction decoded generalizing first with
    | nil => exact .refl _
    | @cons value name rest names found _ ih =>
        obtain ⟨here, later⟩ := List.forall_mem_cons.mp proper
        have others := ih later (first ++ [identifier name])
        rw [List.append_assoc, List.append_assoc] at others
        refine Variant.trans ?_ others
        rcases spelled_name here found with rfl | variant
        · exact .made (.parameter (kind_append named))
        · exact variant.element.member
  exact behind []

theorem exchange_names {names : List String} (proper : value.Unambiguous)
    (decoded : decodeNames decode value = .ok names) :
    Exchange "FunctionLiteral" "parameters" value (.array (names.map identifier)) := by
  obtain ⟨values, rfl, each⟩ := decodeNames_eq_ok.mp decoded
  exact exchange_parameters (unambiguous_array.mp proper) (decodeEach_eq_ok.mp each)

end Names

theorem forall₂_of_common {α β γ : Type} {left : α → γ → Prop} {right : β → γ → Prop}
    {related : α → β → Prop} {first : List α} {second : List β} {results : List γ}
    (before : List.Forall₂ left first results) (after : List.Forall₂ right second results)
    (join : ∀ a ∈ first, ∀ b ∈ second, ∀ c, left a c → right b c → related a b) :
    List.Forall₂ related first second := by
  induction before generalizing second with
  | nil =>
      cases after
      exact .nil
  | cons head _ ih =>
      cases after with
      | cons head' tail' =>
          exact .cons (join _ List.mem_cons_self _ List.mem_cons_self _ head head')
            (ih tail' fun a among b among' =>
              join a (List.mem_cons_of_mem _ among) b (List.mem_cons_of_mem _ among'))

/-- Below a depth, values that are read alike are related. -/
def Joins {α : Type} (related : Json.Value → Json.Value → Prop) (depth : Nat)
    (read : Json.Value → Decoded α) : Prop :=
  ∀ value value' result, value.depth < depth → value.Unambiguous → value'.Unambiguous →
    read value = .ok result → read value' = .ok result → related value value'

namespace Joins

variable {α : Type} {depth : Nat} {kind member : String} {read : Json.Value → Decoded α}

theorem exchange (joins : Joins Variant depth read) : Joins (Exchange kind member) depth read :=
  fun value value' result near proper proper' found found' =>
    (joins value value' result near proper proper' found found').exchange

theorem scalar (scalar : IsScalar read) : Joins Variant depth read := by
  obtain ⟨_, written⟩ := scalar
  intro value value' result _ _ _ found found'
  rw [(written found).1, (written found').1]
  exact .refl _

theorem name : Joins (Exchange "LetStatement" "name") depth (decodeName decode) :=
  fun _ _ _ _ proper proper' found found' =>
    (exchange_name proper found).trans (exchange_name proper' found').symm

theorem names : Joins (Exchange "FunctionLiteral" "parameters") depth (decodeNames decode) :=
  fun _ _ _ _ proper proper' found found' =>
    (exchange_names proper found).trans (exchange_names proper' found').symm

theorem each (joins : Joins Variant depth read) {values values' : List Json.Value}
    {results : List α}
    (near : (Json.Value.array values).depth < depth)
    (proper : (Json.Value.array values).Unambiguous)
    (proper' : (Json.Value.array values').Unambiguous)
    (decoded : decodeEach read values = .ok results)
    (decoded' : decodeEach read values' = .ok results) :
    Variant (.array values) (.array values') := by
  apply Variant.elements
  refine forall₂_of_common (decodeEach_eq_ok.mp decoded) (decodeEach_eq_ok.mp decoded') ?_
  intro value among value' among' result
  apply joins
  · exact Nat.lt_of_le_of_lt (Json.Value.depth_le_depthAll among) (Nat.lt_of_succ_lt near)
  · exact unambiguous_array.mp proper value among
  · exact unambiguous_array.mp proper' value' among'

section Nodes
variable (joins : Joins Variant depth decode)
include joins

theorem nodes : Joins Variant depth (decodeNodes decode) := by
  intro value value' nodes near proper proper' decoded decoded'
  obtain ⟨values, rfl, found⟩ := decodeNodes_eq_ok.mp decoded
  obtain ⟨values', rfl, found'⟩ := decodeNodes_eq_ok.mp decoded'
  exact joins.each near proper proper' found found'

theorem pair : Joins Variant depth (decodePair decode) := by
  intro value value' pair near proper proper' decoded decoded'
  obtain ⟨key, item, rfl, keyed, valued⟩ := decodePair_eq_ok.mp decoded
  obtain ⟨key', item', rfl, keyed', valued'⟩ := decodePair_eq_ok.mp decoded'
  have both {key item : Json.Value} (keyed : decode key = .ok pair.1)
      (valued : decode item = .ok pair.2) : decodeEach decode [key, item] = .ok [pair.1, pair.2] :=
    decodeEach_eq_ok.mpr (.cons keyed (.cons valued .nil))
  exact joins.each near proper proper' (both keyed valued) (both keyed' valued')

theorem pairs : Joins Variant depth (decodePairs decode) := by
  intro value value' pairs near proper proper' decoded decoded'
  obtain ⟨values, rfl, found⟩ := decodePairs_eq_ok.mp decoded
  obtain ⟨values', rfl, found'⟩ := decodePairs_eq_ok.mp decoded'
  exact joins.pair.each near proper proper' found found'

theorem block : Joins Variant depth (decodeBlock decode) := by
  intro value value' block near proper proper' decoded decoded'
  exact joins value value' block near proper proper' (decodeBlock_eq_ok.mp decoded).1
    (decodeBlock_eq_ok.mp decoded').1

end Nodes

end Joins

theorem held_of_missing {sub : Json.Value → Decoded Node} {found : Option Json.Value}
    (decoded : decodeAlternative sub found = .ok none) : Part.branch.held found = none := by
  unfold decodeAlternative at decoded
  split at decoded
  · rfl
  · rfl
  · obtain ⟨_, -, ⟨⟩⟩ := bind_eq_ok.mp decoded

theorem held_of_branch {sub : Json.Value → Decoded Node} {found : Option Json.Value} {block : Node}
    (decoded : decodeAlternative sub found = .ok (some block)) :
    ∃ value, found = some value ∧ Part.branch.held found = some value ∧
      decodeBlock sub value = .ok block := by
  unfold decodeAlternative at decoded
  split at decoded
  · cases decoded
  · cases decoded
  · next value present =>
    obtain ⟨_, read, ⟨⟩⟩ := bind_eq_ok.mp decoded
    refine ⟨value, rfl, ?_, read⟩
    unfold Part.held
    split
    · next same => exact absurd (Option.some.inj same) present
    · rfl

section Parts
variable {depth : Nat} {kind name : String} {members members' : Members}
  (near : (Json.Value.object members).depth ≤ depth)
  (proper : (Json.Value.object members).Unambiguous)
  (proper' : (Json.Value.object members').Unambiguous)
include near proper proper'

omit near proper' in
theorem unambiguous_lookup {value : Json.Value} (found : members.lookup name = some value) :
    value.Unambiguous :=
  (unambiguous_object.mp proper).2 (name, value) (Assoc.mem_of_lookup found)

theorem Joins.found {α : Type} {read : Json.Value → Decoded α}
    (joins : Joins (Exchange kind name) depth read) {value value' : Json.Value} {result : α}
    (present : members.lookup name = some value) (present' : members'.lookup name = some value')
    (decoded : read value = .ok result) (decoded' : read value' = .ok result) :
    Exchange kind name value value' := by
  have below := Nat.lt_of_le_of_lt (Json.Value.depth_le_depthMembers present) near
  exact joins value value' result below (unambiguous_lookup proper present)
    (unambiguous_lookup proper' present') decoded decoded'

/-- Members that are read alike may stand for each other if the values that are may. -/
theorem exchange_required {α : Type} {read : Json.Value → Decoded α}
    (joins : Joins (Exchange kind name) depth read)
    (agree : Agree (required members kind name >>= read) (required members' kind name >>= read)) :
    Option.Rel (Exchange kind name) (members.lookup name) (members'.lookup name) := by
  obtain ⟨result, decoded, decoded'⟩ := agree
  obtain ⟨value, present, found⟩ := bind_eq_ok.mp decoded
  obtain ⟨value', present', found'⟩ := bind_eq_ok.mp decoded'
  rw [required_eq_ok] at present present'
  rw [present, present']
  exact .some (joins.found near proper proper' present present' found found')

theorem exchange_branch (joins : Joins Variant depth decode)
    (agree : Agree (decodeAlternative decode (members.lookup name))
      (decodeAlternative decode (members'.lookup name))) :
    Option.Rel (Exchange kind name) (Part.branch.held (members.lookup name))
      (Part.branch.held (members'.lookup name)) := by
  obtain ⟨result, decoded, decoded'⟩ := agree
  cases result with
  | none =>
      rw [held_of_missing decoded, held_of_missing decoded']
      exact .none
  | some block =>
      obtain ⟨value, present, held, found⟩ := held_of_branch decoded
      obtain ⟨value', present', held', found'⟩ := held_of_branch decoded'
      rw [held, held']
      exact .some (joins.block.exchange.found near proper proper' present present' found found')

theorem exchange_part (joins : Joins Variant depth decode) {parts : List (String × Part)}
    (known : grammar kind = some parts) {part : Part} (among : (name, part) ∈ parts)
    (agree : Agree (part.read decode members kind name) (part.read decode members' kind name)) :
    Option.Rel (Exchange kind name) (part.held (members.lookup name))
      (part.held (members'.lookup name)) := by
  cases part with
  | node => exact exchange_required near proper proper' joins.exchange agree
  | nodes => exact exchange_required near proper proper' joins.nodes.exchange agree
  | name =>
      cases grammar_place known _ among _ rfl
      exact exchange_required near proper proper' .name agree
  | names =>
      cases grammar_place known _ among _ rfl
      exact exchange_required near proper proper' .names agree
  | block => exact exchange_required near proper proper' joins.block.exchange agree
  | branch => exact exchange_branch near proper proper' joins agree
  | pairs => exact exchange_required near proper proper' joins.pairs.exchange agree
  | text => exact exchange_required near proper proper' (Joins.scalar isScalar_text).exchange agree
  | integer =>
      exact exchange_required near proper proper' (Joins.scalar isScalar_integer).exchange agree
  | boolean =>
      exact exchange_required near proper proper' (Joins.scalar isScalar_boolean).exchange agree
  | operator allowed =>
      exact exchange_required near proper proper' (Joins.scalar isScalar_operator).exchange agree

end Parts

theorem joins_decode (depth : Nat) : Joins Variant depth decode := by
  induction depth with
  | zero => exact fun _ _ _ near => absurd near (Nat.not_lt_zero _)
  | succ depth ih =>
      intro value value' node near proper proper' decoded decoded'
      cases value with
      | object members =>
          cases value' with
          | object members' =>
              obtain ⟨kind, parts, named, named', known, agree⟩ :=
                agree_objects.mp ⟨node, decoded, decoded'⟩
              have tidied := Variant.tidied proper named known
              have tidied' := Variant.tidied proper' named' known
              have exchanged : Variant (.object (tidy kind parts members))
                  (.object (tidy kind parts members')) := by
                have start : kind? (.object [("node", .string kind)]) = some kind :=
                  kind_object.mpr rfl
                apply Variant.of_exchange start
                intro part among
                exact exchange_part (Nat.le_of_lt_succ near) proper proper' ih known among
                  (agree part among)
              exact (tidied.trans exchanged).trans tidied'.symm
          | _ => cases decoded'
      | _ => cases decoded

theorem ofText_eq_ok {text : String} {document : Json.Value} {node : Node}
    (parsed : Json.parse text = .ok document) :
    ofText text = .ok node ↔ decode document = .ok node := by
  rw [ofText, parsed]

/-- Of two texts, the second one holds the program of the first exactly if it holds a variant
of its document. -/
theorem texts_of_one_tree {text text' : String} {document other : Json.Value} {node : Node}
    (parsed : Json.parse text = .ok document) (parsed' : Json.parse text' = .ok other)
    (accepted : ofText text = .ok node) : ofText text' = .ok node ↔ Variant document other := by
  have proper := Json.parse_unambiguous parsed
  rw [ofText_eq_ok parsed] at accepted
  rw [ofText_eq_ok parsed']
  constructor
  · exact joins_decode _ document other node (Nat.lt_succ_self _) proper
      (Json.parse_unambiguous parsed') accepted
  · exact fun variant => ((variant.keeps proper).2 node).mp accepted

/-- The variants of a document that is accepted are the documents of its tree. -/
theorem variants_describe_one_tree {document : Json.Value} {node : Node}
    (proper : document.Unambiguous) (accepted : decode document = .ok node) (other : Json.Value) :
    Variant document other ↔ other.Unambiguous ∧ decode other = .ok node := by
  constructor
  · intro variant
    obtain ⟨proper', alike⟩ := variant.keeps proper
    exact ⟨proper', (alike node).mp accepted⟩
  · rintro ⟨proper', accepted'⟩
    exact joins_decode _ document other node (Nat.lt_succ_self _) proper proper' accepted accepted'

theorem variants_describe_one_tree_function :
    let body : Json.Value := object "BlockStatement" [("statements", .array [])]
    let document : Json.Value := object "LetStatement"
      [("name", .string "f"), ("value", object "FunctionLiteral"
        [("parameters", .array [.string "x"]), ("body", body)])]
    let other : Json.Value := .object
      [("line", .integer 1), ("value", object "FunctionLiteral"
        [("body", body), ("parameters", .array [identifier "x"])]),
        ("node", .string "LetStatement"), ("name", .string "f")]
    document.Unambiguous ∧
      decode document = .ok (.letStatement "f" (.functionLiteral ["x"] (.blockStatement []))) ∧
      Variant document other := by
  intro body document other
  have line : (Json.Value.integer 1).Unambiguous := .scalar rfl
  have proper : document.Unambiguous := by
    simp [document, body, object, unambiguous_object, unambiguous_array, unambiguous_string,
      Assoc.keys]
  have proper' : other.Unambiguous := by
    simp [other, body, object, unambiguous_object, unambiguous_array, unambiguous_string,
      unambiguous_identifier, Assoc.keys, line]
  exact ⟨proper, rfl, (variants_describe_one_tree proper rfl other).mpr ⟨proper', rfl⟩⟩

end MonkeyLang.Document
