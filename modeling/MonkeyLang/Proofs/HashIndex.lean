import MonkeyLang.Proofs.HashLookup
import MonkeyLang.Proofs.Stock

/-!
Hashes as indexes. A hash literal files its pairs one after the other, each under the key of its
own key object. A key stays in the place where it came first, and of the pairs that have it the
last one stays, with its key object and its value. That each key occurs once, and stands for an
object that has it, is true of every hash that a host can come by.
-/

namespace MonkeyLang

namespace Value

variable {value left right : Value} {slot : HashKey}

theorem hashKey?_type (found : value.hashKey? = some slot) : slot.type = value.tag := by
  cases value with
  | integer | boolean | string =>
      cases found
      rfl
  | _ => cases found

theorem isError_of_hashKey? (found : value.hashKey? = some slot) : value.isError = false := by
  cases value with
  | error => cases found
  | _ => rfl

theorem hashKey?_integer_iff {serial serial' : Nat} {number other : Int}
    (inside : Word.InRange number) (inside' : Word.InRange other) :
    (integer serial number).hashKey? = (integer serial' other).hashKey? ↔ number = other := by
  rw [hashKey?_eq_iff (show (integer serial number).IsKey from inside)
    (show (integer serial' other).IsKey from inside')]
  constructor
  · rintro ⟨⟩
    rfl
  · rintro rfl
    exact .integer

theorem hashKey?_boolean_iff {truth other : Bool} :
    (boolean truth).hashKey? = (boolean other).hashKey? ↔ truth = other := by
  rw [hashKey?_eq_iff (show (boolean truth).IsKey from trivial)
    (show (boolean other).IsKey from trivial)]
  constructor
  · rintro ⟨⟩
    rfl
  · rintro rfl
    exact .boolean

/-- A hash has one entry for each of its keys, filed under the key of the object in it. -/
def WellFiled : Value → Prop
  | hash _ entries => Eval.Filed entries
  | _ => True

end Value

namespace Eval

/-- The keys of some pairs, one after the other. -/
def slots (items : List (Value × Value)) : List HashKey :=
  items.filterMap fun item => item.1.hashKey?

/-- Of the pairs that have a key this is the last. -/
def IsLast (slot : HashKey) (item : Value × Value) (items : List (Value × Value)) : Prop :=
  item.1.hashKey? = some slot ∧ ∃ earlier later, items = earlier ++ item :: later ∧
    ∀ other ∈ later, other.1.hashKey? ≠ some slot

/-- The entries of a hash that some pairs make up. -/
structure IsIndex (items : List (Value × Value)) (entries : List (HashKey × Value × Value)) :
    Prop where
  keys : Assoc.keys entries = (slots items).eraseDups
  last : ∀ entry ∈ entries, IsLast entry.1 entry.2 items
  filed : Filed entries

/-- What a hash has under the key of an object, and what it says where it has nothing. -/
structure Holds (serial : Nat) (entries : List (HashKey × Value × Value)) (key : Value)
    (found : Option Value) : Prop where
  find? : ∀ slot, key.hashKey? = some slot → Hash.find? entries slot = found
  get : ∀ slot default, key.hashKey? = some slot →
    Hash.get entries slot default = found.getD default
  index : Indexes (.hash serial entries) key (found.getD .null)

section Index
variable {slot : HashKey} {item : Value × Value} {items : List (Value × Value)}
  {entries : List (HashKey × Value × Value)}

theorem file_eq (own : item.1.hashKey? = some slot) :
    file entries item = Assoc.insert slot item entries := by
  rw [file, own]

theorem filed_file (filed : Filed entries) (item : Value × Value) :
    Filed (file entries item) := by
  cases own : item.1.hashKey? with
  | none =>
      rw [file, own]
      exact filed
  | some slot =>
      rw [file_eq own]
      exact filed_insert filed own

theorem filed_foldl_file (filed : Filed entries) (items : List (Value × Value)) :
    Filed (items.foldl file entries) := by
  induction items generalizing entries with
  | nil => exact filed
  | cons item rest ih => exact ih (filed_file filed item)

theorem slots_concat (items : List (Value × Value)) (item : Value × Value) :
    slots (items ++ [item]) = slots items ++ item.1.hashKey?.toList := by
  rw [slots, List.filterMap_append, ← slots, List.filterMap_cons]
  cases item.1.hashKey? <;> rfl

/-- A key that comes again is filed where it came first. -/
theorem keys_foldl_file (items : List (Value × Value)) :
    Assoc.keys (items.foldl file []) = (slots items).eraseDups := by
  -- from the end, since the pairs before it decide whether the key of a pair is new
  induction items using List.reverseRecOn with
  | nil => rfl
  | append_singleton items item ih =>
      rw [List.foldl_append, List.foldl_cons, List.foldl_nil, slots_concat]
      cases own : item.1.hashKey? with
      | none =>
          rw [file, own, Option.toList_none, List.append_nil]
          exact ih
      | some slot =>
          rw [file_eq own, Assoc.keys_insert, ih, Option.toList_some, Assoc.eraseDups_concat]
          simp only [List.mem_eraseDups]

theorem find?_reverse_eq_some_iff :
    items.reverse.find? (fun item => item.1.hashKey? = some slot) = some item ↔
      IsLast slot item items := by
  constructor
  · intro found
    obtain ⟨matched, later, earlier, split, others⟩ := List.find?_eq_some_iff_append.mp found
    refine ⟨of_decide_eq_true matched, earlier.reverse, later.reverse, ?_, ?_⟩
    · rw [← List.reverse_reverse items, split, List.reverse_append, List.reverse_cons,
        List.append_assoc, List.singleton_append]
    · intro other member same
      have unmatched := others other (List.mem_reverse.mp member)
      rw [decide_eq_true same] at unmatched
      cases unmatched
  · rintro ⟨own, earlier, later, rfl, last⟩
    refine find?_reverse_append ?_ (fun other member same => ?_) earlier
    · exact decide_eq_true own
    · exact last other member (of_decide_eq_true same)

theorem lookup_index_iff :
    (items.foldl file []).lookup slot = some item ↔ IsLast slot item items := by
  rw [lookup_foldl_file, List.lookup_nil, Option.or_none, find?_reverse_eq_some_iff]

theorem lookup_index_of_absent (absent : ∀ item ∈ items, item.1.hashKey? ≠ some slot) :
    (items.foldl file []).lookup slot = none := by
  rw [lookup_foldl_file, List.lookup_nil, Option.or_none, List.find?_eq_none]
  intro item member same
  exact absent item (List.mem_reverse.mp member) (of_decide_eq_true same)

theorem isIndex_foldl_file (items : List (Value × Value)) :
    IsIndex items (items.foldl file []) where
  keys := keys_foldl_file items
  last entry member := by
    have distinct := (filed_foldl_file filed_nil items).2
    exact lookup_index_iff.mp (Assoc.lookup_of_mem distinct member)
  filed := filed_foldl_file filed_nil items

theorem holds_find? {key : Value} (own : key.hashKey? = some slot) (serial : Nat)
    (entries : List (HashKey × Value × Value)) :
    Holds serial entries key (Hash.find? entries slot) where
  find? other found := by
    cases own.symm.trans found
    rfl
  get other default found := by
    cases own.symm.trans found
    rfl
  index := by
    intro depth left index scope before between after run run'
    have applied : applyIndex (.hash serial entries) key after =
        some ((Hash.find? entries slot).getD .null, after) := by
      simp only [applyIndex, own]
      rfl
    exact (operand_run run rfl).trans
      ((operand_run run' (Value.isError_of_hashKey? own)).trans applied)

end Index

/-- Nothing depends on the world: in a state and in a value each hash is filed. -/
def filing : Growth Fixed where
  state _ state := state.Throughout Value.WellFiled
  value _ value := value.Throughout Value.WellFiled
  node _ _ _ := True

theorem filing_lawful : filing.Lawful where
  grows _ holds := holds
  node_grows _ _ := trivial
  noted _ _ _ held := held.of_scopes (State.noted_scopes ..)
  alarmed event held := held.alarmed event
  counted _ _ held := held.counted _
  compared _ held := held.counted _
  fails _ held :=
    ⟨.world, le_rfl, held.of_scopes (State.failed_scopes ..), .of_atom trivial trivial⟩
  null := .of_atom trivial trivial
  boolean _ := .of_atom trivial trivial
  builtin _ := .of_atom trivial trivial
  built held built := by
    refine ⟨.world, le_rfl, held.of_scopes rfl, ?_⟩
    cases built with
    | integer | string => exact .of_atom trivial trivial
    | array elements => exact Value.throughout_array.mpr ⟨trivial, elements⟩
    | hash filed entries => exact Value.throughout_hash.mpr ⟨filed, entries⟩
    | returned inner => exact Value.throughout_returned.mpr ⟨trivial, inner⟩
  literal _ held := ⟨.world, le_rfl, held.of_scopes rfl, .of_atom trivial trivial⟩
  child holds _ member := holds.child member
  operand _ _ _ := trivial
  step _ _ _ := trivial
  found _ held bound := held.lookup? bound
  bound _ holds held := held.bound holds _ _
  entered _ holds held :=
    ⟨.world, le_rfl, held.entered _ fun _ member => holds _ (List.of_mem_zip member).2, trivial⟩

theorem filing_hosted : filing.Hosted where
  start := by
    refine ⟨.world, ?_⟩
    intro scope binding member
    rw [Scopes.bindings_of_next_le _ (Nat.zero_le _)] at member
    cases member
  node _ _ := trivial
  opened _ held scope binding member :=
    held scope binding (Scopes.bindings_create .. ▸ member)
  configured _ _ _ held := held.of_scopes rfl
  supplied _ _ held := ⟨.world, le_rfl, held.of_scopes rfl, .of_atom trivial trivial⟩
  bound scope name holds held := held.bound holds scope name
  binding held member := held _ _ member

/-- A host comes by no other hashes. -/
theorem Arises.filed {state : State} {answers : List Value} (arises : Arises state answers)
    {serial : Nat} {entries : List (HashKey × Value × Value)}
    (held : AtHand state answers (.hash serial entries)) : Filed entries := by
  obtain ⟨_, provides⟩ := filing_lawful.arises filing_hosted arises
  exact (provides.held filing_lawful filing_hosted held).whole

/-- `{1: 1, true: 2, 1: 3}` -/
def mixedKeys : List (Node × Node) :=
  [(.integerLiteral 1, .integerLiteral 1), (.booleanLiteral true, .integerLiteral 2),
    (.integerLiteral 1, .integerLiteral 3)]

end Eval

end MonkeyLang
