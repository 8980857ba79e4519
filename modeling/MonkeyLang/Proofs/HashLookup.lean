import MonkeyLang.Proofs.Steps

/-!
Hash literals as maps. Of several pairs whose keys a hash does not tell apart the last one
stays. Integers and booleans are told apart by what they are, and strings by their digests:
two texts with one digest are one key.
-/

namespace MonkeyLang

namespace Value

/-- Values that have a key: integers of 64 bits, booleans and strings. -/
def IsKey : Value → Prop
  | integer _ value => Word.InRange value
  | boolean _ => True
  | string _ _ => True
  | _ => False

/-- Keys that a hash does not tell apart. -/
inductive SameKey : Value → Value → Prop where
  | integer {serial serial' number} : SameKey (integer serial number) (integer serial' number)
  | boolean {truth} : SameKey (boolean truth) (boolean truth)
  | string {serial serial' text text'} :
      Digest.fnv1a (utf8Bytes text) = Digest.fnv1a (utf8Bytes text') →
      SameKey (string serial text) (string serial' text')

variable {left right : Value}

theorem IsKey.exists_slot (key : left.IsKey) : ∃ slot, left.hashKey? = some slot := by
  cases left with
  | integer serial number => exact ⟨_, rfl⟩
  | boolean truth => exact ⟨_, rfl⟩
  | string serial text => exact ⟨_, rfl⟩
  | _ => cases key

theorem IsKey.isError (key : left.IsKey) : left.isError = false := by
  cases left with
  | error serial fault => cases key
  | _ => rfl

/-- The word of an integer of 64 bits is its own. -/
theorem word_injective {number other : Int} (inside : Word.InRange number)
    (inside' : Word.InRange other) (same : UInt64.ofInt number = UInt64.ofInt other) :
    number = other := by
  have words := congrArg UInt64.toNat same
  simp only [UInt64.ofInt, UInt64.toNat_ofNat'] at words
  obtain ⟨low, high⟩ := inside
  obtain ⟨low', high'⟩ := inside'
  omega

theorem hashKey?_eq_iff (key : left.IsKey) (key' : right.IsKey) :
    left.hashKey? = right.hashKey? ↔ left.SameKey right := by
  constructor
  · intro same
    cases left with
    | integer serial number =>
        cases right with
        | integer serial' other =>
            simp only [hashKey?, HashKey.ofInteger, Option.some.injEq, HashKey.mk.injEq,
              true_and] at same
            cases word_injective key key' same
            exact .integer
        | boolean truth => simp [hashKey?, HashKey.ofInteger, HashKey.ofBoolean] at same
        | string serial' text => simp [hashKey?, HashKey.ofInteger, HashKey.ofString] at same
        | _ => cases key'
    | boolean truth =>
        cases right with
        | integer serial' other => simp [hashKey?, HashKey.ofInteger, HashKey.ofBoolean] at same
        | boolean truth' =>
            cases truth <;> cases truth' <;>
              first | exact .boolean | simp [hashKey?, HashKey.ofBoolean] at same
        | string serial' text => simp [hashKey?, HashKey.ofBoolean, HashKey.ofString] at same
        | _ => cases key'
    | string serial text =>
        cases right with
        | integer serial' other => simp [hashKey?, HashKey.ofInteger, HashKey.ofString] at same
        | boolean truth => simp [hashKey?, HashKey.ofBoolean, HashKey.ofString] at same
        | string serial' text' =>
            simp only [hashKey?, HashKey.ofString, Option.some.injEq, HashKey.mk.injEq,
              true_and] at same
            exact .string same
        | _ => cases key'
    | _ => cases key
  · rintro (_ | _ | same)
    · rfl
    · rfl
    · simp only [hashKey?, HashKey.ofString, same]

end Value

namespace Eval

/-- The pairs of a hash literal evaluate, from left to right and without an error, to these
keys and values. -/
inductive PairsYield (sub : Node → Eval Value) :
    List (Node × Node) → State → List (Value × Value) → State → Prop where
  | nil {state} : PairsYield sub [] state [] state
  | cons {keyNode valueNode rest key value items before between mid after} :
      sub keyNode before = some (key, between) → key.isError = false →
      sub valueNode between = some (value, mid) → value.isError = false →
      PairsYield sub rest mid items after →
      PairsYield sub ((keyNode, valueNode) :: rest) before ((key, value) :: items) after

/-- A pair is filed under the key of its own key object. -/
def file (entries : List (HashKey × Value × Value)) (item : Value × Value) :
    List (HashKey × Value × Value) :=
  match item.1.hashKey? with
  | some slot => Assoc.insert slot item entries
  | none => entries

theorem lookup_file (slot : HashKey) (entries : List (HashKey × Value × Value))
    (item : Value × Value) : (file entries item).lookup slot =
      if item.1.hashKey? = some slot then some item else entries.lookup slot := by
  unfold file
  cases found : item.1.hashKey? with
  | none => simp
  | some own =>
      simp only [Assoc.lookup_insert, Option.some.injEq]
      by_cases same : own = slot
      · simp [same]
      · simp [same, Ne.symm same]

/-- Under each key there is the last pair that was filed there. -/
theorem lookup_foldl_file (slot : HashKey) (items : List (Value × Value))
    (entries : List (HashKey × Value × Value)) : (items.foldl file entries).lookup slot =
      (items.reverse.find? fun item => item.1.hashKey? = some slot).or (entries.lookup slot) := by
  induction items generalizing entries with
  | nil => rfl
  | cons item rest ih =>
      rw [List.foldl_cons, ih, lookup_file, List.reverse_cons, List.find?_append, Option.or_assoc]
      congr 1
      by_cases here : item.1.hashKey? = some slot <;> simp [here]

theorem find?_reverse_append {α : Type} {good : α → Bool} {item : α} {later : List α}
    (matched : good item = true) (last : ∀ other ∈ later, ¬ good other = true)
    (earlier : List α) : (earlier ++ item :: later).reverse.find? good = some item := by
  have behind : later.reverse.find? good = none :=
    List.find?_eq_none.mpr fun other member => last other (List.mem_reverse.mp member)
  rw [List.reverse_append, List.reverse_cons, List.append_assoc, List.find?_append, behind,
    List.singleton_append, List.find?_cons_of_pos matched]
  rfl

/-- A hash literal whose keys can be keys files its pairs in turn. -/
theorem evalPairs_files {sub : Node → Eval Value} {pairs : List (Node × Node)}
    {before after : State} {items : List (Value × Value)}
    (yields : PairsYield sub pairs before items after)
    (slots : ∀ item ∈ items, ∃ slot, item.1.hashKey? = some slot)
    (entries : List (HashKey × Value × Value)) : evalPairs sub pairs entries before =
      some (.hash after.nextSerial (items.foldl file entries), after.bumped) := by
  induction yields generalizing entries with
  | nil => rfl
  | @cons keyNode valueNode rest key value items before between mid after keyed sound valued
      sound' _ ih =>
      obtain ⟨⟨slot, found⟩, others⟩ := List.forall_mem_cons.mp slots
      have filed : file entries (key, value) = Assoc.insert slot (key, value) entries := by
        rw [file, found]
      rw [evalPairs, operand_run keyed sound, found]
      show operand (sub valueNode) _ between = _
      rw [operand_run valued sound', List.foldl_cons, filed]
      exact ih others _

theorem evalPairs_yield {sub : Node → Eval Value} {pairs : List (Node × Node)}
    {before after : State} {items : List (Value × Value)}
    (yields : PairsYield sub pairs before items after) (keys : ∀ item ∈ items, item.1.IsKey)
    (entries : List (HashKey × Value × Value)) : evalPairs sub pairs entries before =
      some (.hash after.nextSerial (items.foldl file entries), after.bumped) :=
  evalPairs_files yields (fun item member => (keys item member).exists_slot) entries

/-- Indexing a value with another one, in a program, yields a third. -/
def Indexes (value key result : Value) : Prop :=
  ∀ depth left index scope before between after,
    evalWithin depth left scope before = some (value, between) →
    evalWithin depth index scope between = some (key, after) →
      evalWithin (depth + 1) (.indexExpression left index) scope before = some (result, after)

theorem indexes_hash {serial : Nat} {entries : List (HashKey × Value × Value)} {key : Value}
    (is_key : key.IsKey) {slot : HashKey} (found : key.hashKey? = some slot) :
    Indexes (.hash serial entries) key (((entries.lookup slot).map Prod.snd).getD .null) := by
  intro depth left index scope before between after run run'
  have applied : applyIndex (.hash serial entries) key after =
      some (((entries.lookup slot).map Prod.snd).getD .null, after) := by
    simp only [applyIndex, found]
    rfl
  exact (operand_run run rfl).trans ((operand_run run' is_key.isError).trans applied)

/-- `{"a": 1, "a": 2}` -/
def repeatedKey : List (Node × Node) :=
  [(.stringLiteral "a", .integerLiteral 1), (.stringLiteral "a", .integerLiteral 2)]

/-- `{"7mohtcOFVz": 1}["c1E51sSEyx"]` -/
def collidingLookup : Node :=
  .indexExpression (.hashLiteral [(.stringLiteral "7mohtcOFVz", .integerLiteral 1)])
    (.stringLiteral "c1E51sSEyx")

end Eval

end MonkeyLang
