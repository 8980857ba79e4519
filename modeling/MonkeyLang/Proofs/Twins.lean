import MonkeyLang.Proofs.Likeness
import MonkeyLang.Proofs.Simulation

/-!
A node evaluated in two states that are alike. The two evaluations make objects and open scopes
side by side, so that whatever they compare, look up or hand on is alike as well: they end
in the same way, with values that are alike, and count the same.
-/

namespace MonkeyLang

/-- The counters that add up have grown by as much on the left since `pace` as on the right
since `pace'`. -/
structure Counters.InStep (pace pace' counters counters' : Counters) : Prop where
  statements : counters.statements + pace'.statements = counters'.statements + pace.statements
  errors : counters.errors + pace'.errors = counters'.errors + pace.errors
  functionCalls :
    counters.functionCalls + pace'.functionCalls = counters'.functionCalls + pace.functionCalls
  builtinCalls :
    counters.builtinCalls + pace'.builtinCalls = counters'.builtinCalls + pace.builtinCalls

namespace Counters.InStep

variable {pace pace' counters counters' : Counters}

theorem start (pace pace' : Counters) : InStep pace pace' pace pace' :=
  ⟨Nat.add_comm .., Nat.add_comm .., Nat.add_comm .., Nat.add_comm ..⟩

theorem gained (step : InStep pace pace' counters counters') {change : Counters → Counters}
    (gain : IsGain change) : InStep pace pace' (change counters) (change counters') := by
  obtain ⟨_, _, _, _, gains⟩ := gain
  obtain ⟨statements, errors, functionCalls, builtinCalls⟩ := step
  rw [gains, gains]
  constructor <;> dsimp only <;> omega

theorem failed (step : InStep pace pace' counters counters') :
    InStep pace pace' { counters with errors := counters.errors + 1 }
      { counters' with errors := counters'.errors + 1 } := by
  obtain ⟨statements, errors, functionCalls, builtinCalls⟩ := step
  constructor <;> dsimp only <;> omega

end Counters.InStep

namespace Eval.Twins

/-- Two states that are alike, as far as their scopes are paired. The level and the log are
nobody's business. -/
structure Held (pace pace' : Counters) (pairing : Pairing) (first second : State) : Prop where
  serials : pairing.serials.left = first.nextSerial ∧ pairing.serials.right = second.nextSerial
  scopes : pairing.scopes.left = first.scopes.next ∧ pairing.scopes.right = second.scopes.next
  counters : Counters.InStep pace pace' first.counters second.counters
  bindings {here there} : pairing.scopes here there → Assoc.Matched (Value.Alike pairing)
    (first.scopes.bindings here) (second.scopes.bindings there)
  outer {here there} : pairing.scopes here there → Option.Rel
    (fun around around' => pairing.scopes around around' ∧ around < here ∧ around' < there)
    (first.scopes.outer? here) (second.scopes.outer? there)

variable {pace pace' : Counters} {pairing : Pairing} {first second : State}

namespace Held

theorem of_same {tempo tempo' : Counters} {other other' : State}
    (held : Held pace pace' pairing first second)
    (scopes : other.scopes = first.scopes) (scopes' : other'.scopes = second.scopes)
    (serial : other.nextSerial = first.nextSerial)
    (serial' : other'.nextSerial = second.nextSerial)
    (counters : Counters.InStep tempo tempo' other.counters other'.counters) :
    Held tempo tempo' pairing other other' where
  serials := by rw [serial, serial']; exact held.serials
  scopes := by rw [scopes, scopes']; exact held.scopes
  counters := counters
  bindings paired := by rw [scopes, scopes']; exact held.bindings paired
  outer paired := by rw [scopes, scopes']; exact held.outer paired

theorem noted (held : Held pace pace' pairing first second) (severity : Severity)
    (message : Level) (event event' : Event) : Held pace pace' pairing
      (first.noted severity message event) (second.noted severity message event') := by
  apply held.of_same (by simp) (by simp) (by simp) (by simp)
  rw [State.noted_counters, State.noted_counters]
  exact held.counters

theorem traced (held : Held pace pace' pairing first second) (event event' : Event) :
    Held pace pace' pairing (first.traced event) (second.traced event') :=
  held.noted ..

theorem alarmed (held : Held pace pace' pairing first second) (event : Event) :
    Held pace pace' pairing (first.alarmed event) (second.alarmed event) :=
  held.of_same rfl rfl rfl rfl held.counters

theorem counted (held : Held pace pace' pairing first second) {change : Counters → Counters}
    (gain : Counters.IsGain change) :
    Held pace pace' pairing (first.counted change) (second.counted change) :=
  held.of_same rfl rfl rfl rfl (held.counters.gained gain)

theorem new_paired (held : Held pace pace' pairing first second) :
    pairing.made.serials first.nextSerial second.nextSerial := by
  rw [← held.serials.1, ← held.serials.2]
  exact pairing.serials.extend_new

theorem new_opened (held : Held pace pace' pairing first second) :
    pairing.opened.scopes first.scopes.next second.scopes.next := by
  rw [← held.scopes.1, ← held.scopes.2]
  exact pairing.scopes.extend_new

theorem bumped (held : Held pace pace' pairing first second) :
    Held pace pace' pairing.made first.bumped second.bumped where
  serials := ⟨congrArg (· + 1) held.serials.1, congrArg (· + 1) held.serials.2⟩
  scopes := held.scopes
  counters := held.counters
  bindings paired := (held.bindings paired).imp fun _ _ alike => alike.mono pairing.le_made
  outer paired := held.outer paired

theorem failed (held : Held pace pace' pairing first second) (fault : Fault) :
    Held pace pace' pairing.made (first.failed fault) (second.failed fault) := by
  have counted : Held pace pace' pairing
      (first.counted fun counters => { counters with errors := counters.errors + 1 })
      (second.counted fun counters => { counters with errors := counters.errors + 1 }) :=
    held.of_same rfl rfl rfl rfl held.counters.failed
  exact (counted.noted ..).bumped

theorem bound (held : Held pace pace' pairing first second) {here there : ScopeId} {name : String}
    {value other : Value} (paired : pairing.scopes here there)
    (alike : value.Alike pairing other) :
    Held pace pace' pairing (first.bound here name value) (second.bound there name other) where
  serials := held.serials
  scopes := by simpa [State.bound] using held.scopes
  counters := held.counters
  bindings {here' there'} paired' := by
    obtain ⟨below, below'⟩ := pairing.scopes.lt paired
    rw [held.scopes.1] at below
    rw [held.scopes.2] at below'
    have same := pairing.scopes.iff paired' paired
    simp only [State.bound, Scopes.bindings_bind]
    by_cases at_here : here' = here
    · rw [if_pos ⟨at_here, below⟩, if_pos ⟨same.mp at_here, below'⟩]
      exact (held.bindings paired).insert alike name
    · rw [if_neg fun hit => at_here hit.1, if_neg fun hit => at_here (same.mpr hit.1)]
      exact held.bindings paired'
  outer paired' := by
    simp only [State.bound, Scopes.outer?_bind]
    exact held.outer paired'

/-- Both sides open a scope inside of scopes that are paired. -/
theorem created (held : Held pace pace' pairing first second) {around around' : ScopeId}
    (paired : pairing.scopes around around') :
    Held pace pace' pairing.opened
      { first with scopes := first.scopes.create (some around) }
      { second with scopes := second.scopes.create (some around') } where
  serials := held.serials
  scopes := by
    simp only [Scopes.next_create, ← held.scopes.1, ← held.scopes.2]
    exact ⟨rfl, rfl⟩
  counters := held.counters
  bindings := by
    rintro here there (old | ⟨rfl, rfl⟩)
    · simp only [Scopes.bindings_create]
      exact (held.bindings old).imp fun _ _ alike => alike.mono pairing.le_opened
    · simp only [Scopes.bindings_create, held.scopes.1, held.scopes.2,
        Scopes.bindings_of_next_le _ (Nat.le_refl _)]
      exact .nil
  outer := by
    rintro here there (old | ⟨rfl, rfl⟩)
    · obtain ⟨below, below'⟩ := pairing.scopes.lt old
      rw [held.scopes.1] at below
      rw [held.scopes.2] at below'
      simp only [Scopes.outer?_create, if_neg (Nat.ne_of_lt below), if_neg (Nat.ne_of_lt below')]
      have outer := held.outer old
      generalize first.scopes.outer? here = link, second.scopes.outer? there = link' at outer ⊢
      cases outer with
      | none => exact .none
      | some inside => exact .some ⟨.inl inside.1, inside.2⟩
    · obtain ⟨below, below'⟩ := pairing.scopes.lt paired
      simp only [Scopes.outer?_create, if_pos held.scopes.1, if_pos held.scopes.2]
      exact .some ⟨.inl paired, below, below'⟩

theorem boundAll (held : Held pace pace' pairing first second) {here there : ScopeId}
    (paired : pairing.scopes here there) {names : List String} {values others : List Value}
    (alike : List.Forall₂ (Value.Alike pairing) values others) :
    Held pace pace' pairing
      { first with scopes := first.scopes.bindAll here (names.zip values) }
      { second with scopes := second.scopes.bindAll there (names.zip others) } := by
  induction alike generalizing names first second with
  | nil => simpa [Scopes.bindAll] using held
  | cons head _ ih =>
      cases names with
      | nil => simpa [Scopes.bindAll] using held
      | cons name names => exact ih (held.bound paired head)

theorem entered (held : Held pace pace' pairing first second) {around around' : ScopeId}
    (paired : pairing.scopes around around') {names : List String} {values others : List Value}
    (alike : List.Forall₂ (Value.Alike pairing) values others) :
    Held pace pace' pairing.opened (first.entered around (names.zip values))
      (second.entered around' (names.zip others)) :=
  (held.created paired).boundAll held.new_opened
    (alike.imp fun _ _ alike => alike.mono pairing.le_opened)

/-- The walks outwards from two paired scopes go through paired scopes, whatever bounds they are
given beyond what they need. -/
theorem chainWithin (held : Held pace pace' pairing first second) {here there : ScopeId}
    (paired : pairing.scopes here there) {bound bound' : Nat} (enough : here < bound)
    (enough' : there < bound') :
    List.Forall₂ pairing.scopes (first.scopes.chainWithin bound here)
      (second.scopes.chainWithin bound' there) := by
  induction here using Nat.strongRecOn generalizing there bound bound' with
  | ind here ih =>
      obtain ⟨bound, rfl⟩ := Nat.exists_eq_add_one_of_ne_zero (Nat.ne_zero_of_lt enough)
      obtain ⟨bound', rfl⟩ := Nat.exists_eq_add_one_of_ne_zero (Nat.ne_zero_of_lt enough')
      have outer := held.outer paired
      rw [Scopes.chainWithin, Scopes.chainWithin]
      generalize first.scopes.outer? here = link, second.scopes.outer? there = link' at outer ⊢
      cases outer with
      | none => exact .cons paired .nil
      | some inside =>
          obtain ⟨inside, older, older'⟩ := inside
          exact .cons paired (ih _ older inside
            (Nat.lt_of_lt_of_le older (Nat.le_of_lt_succ enough))
            (Nat.lt_of_lt_of_le older' (Nat.le_of_lt_succ enough')))

theorem lookup? (held : Held pace pace' pairing first second) {here there : ScopeId}
    (paired : pairing.scopes here there) (name : String) :
    Option.Rel (Value.Alike pairing) (first.scopes.lookup? here name)
      (second.scopes.lookup? there name) :=
  rel_findSome? (held.chainWithin paired (Nat.lt_succ_self _) (Nat.lt_succ_self _))
    fun _ _ member => (held.bindings member).lookup name

end Held

/-- Both sides hold values that are alike, in states that are. -/
def simulation (pace pace' : Counters) : Simulation Pairing where
  state := Held pace pace'
  value pairing value other := value.isError = false ∧ value.Alike pairing other
  failed pairing value first other second :=
    value.Alike pairing other ∧ Held pace pace' pairing first second

abbrev Agrees (pace pace' : Counters) (pairing : Pairing) (left right : Eval Value)
    (first second : State) : Prop :=
  (simulation pace pace').Matches (simulation pace pace').value pairing left right first second

section Operations
variable {value other : Value}

theorem meets (alike : value.Alike pairing other) (held : Held pace pace' pairing first second) :
    (simulation pace pace').Meets (simulation pace pace').value pairing value first other
      second := by
  cases failure : value.isError with
  | true => exact .inl ⟨failure, alike.isError ▸ failure, alike, held⟩
  | false => exact .inr ⟨failure, alike.isError ▸ failure, ⟨failure, alike⟩, held⟩

theorem alike_of_meets (meets : (simulation pace pace').Meets (simulation pace pace').value
    pairing value first other second) :
    value.Alike pairing other ∧ Held pace pace' pairing first second := by
  rcases meets with ⟨-, -, alike, held⟩ | ⟨-, -, ⟨-, alike⟩, held⟩ <;> exact ⟨alike, held⟩

theorem agrees_pure (alike : value.Alike pairing other)
    (held : Held pace pace' pairing first second) :
    Agrees pace pace' pairing (pure value) (pure other) first second :=
  Simulates.done rfl rfl (meets alike held)

/-- Objects that are made side by side are paired. -/
theorem agrees_make {build build' : Nat → Value} (held : Held pace pace' pairing first second)
    (alike : ∀ {serial serial'}, pairing.made.serials serial serial' →
      (build serial).Alike pairing.made (build' serial')) :
    Agrees pace pace' pairing (make build) (make build') first second :=
  Simulates.of_later pairing.le_made
    (Simulates.done (make_run _ _) (make_run _ _) (meets (alike held.new_paired) held.bumped))

theorem agrees_integer (number : Int) (held : Held pace pace' pairing first second) :
    Agrees pace pace' pairing (makeInteger number) (makeInteger number) first second :=
  agrees_make held .integer

theorem agrees_string (text : String) (held : Held pace pace' pairing first second) :
    Agrees pace pace' pairing (makeString text) (makeString text) first second :=
  agrees_make held .string

theorem agrees_array {values others : List Value}
    (alike : List.Forall₂ (Value.Alike pairing) values others)
    (held : Held pace pace' pairing first second) :
    Agrees pace pace' pairing (makeArray values) (makeArray others) first second :=
  agrees_make held fun paired =>
    .array paired ((Value.allAlike_iff.mpr alike).mono pairing.le_made)

theorem agrees_fail (fault : Fault) (held : Held pace pace' pairing first second) :
    Agrees pace pace' pairing (fail fault) (fail fault) first second :=
  Simulates.of_later pairing.le_made (Simulates.done (fail_run _ _) (fail_run _ _)
    (meets (.error held.new_paired) (held.failed fault)))

theorem agrees_integerInfix (operator : Operator) (left right : Int)
    (held : Held pace pace' pairing first second) :
    Agrees pace pace' pairing (integerInfix operator left right)
      (integerInfix operator left right) first second := by
  cases operator with
  | divide =>
      simp only [integerInfix]
      cases Word.quotient? left right with
      | some quotient => exact agrees_integer _ held
      | none => exact agrees_fail _ held
  | plus => exact agrees_integer _ held
  | minus => exact agrees_integer _ held
  | times => exact agrees_integer _ held
  | bang => exact agrees_fail _ held
  | other spelling => exact agrees_fail _ held
  | _ => exact agrees_pure (.boolean _) held

theorem agrees_stringInfix (operator : Operator) (left right : String)
    (held : Held pace pace' pairing first second) :
    Agrees pace pace' pairing (stringInfix operator left right)
      (stringInfix operator left right) first second := by
  cases operator with
  | plus => exact agrees_string _ held
  | _ => exact agrees_fail _ held

/-- Operands that are neither integers nor strings are compared by identity. -/
theorem agrees_identical {left left' right right' : Value} (operator : Operator)
    (alike : left.Alike pairing left') (alike' : right.Alike pairing right')
    (held : Held pace pace' pairing first second) :
    Agrees pace pace' pairing
      (match operator with
        | .equal => return .boolean (left.same right)
        | .unequal => return .boolean (!left.same right)
        | _ => fail (.unknownInfix left.tag operator right.tag))
      (match operator with
        | .equal => return .boolean (left'.same right')
        | .unequal => return .boolean (!left'.same right')
        | _ => fail (.unknownInfix left'.tag operator right'.tag)) first second := by
  rw [← alike.same alike', ← alike.tag, ← alike'.tag]
  cases operator with
  | equal => exact agrees_pure (.boolean _) held
  | unequal => exact agrees_pure (.boolean _) held
  | _ => exact agrees_fail _ held

theorem agrees_infix {left left' right right' : Value} (operator : Operator)
    (alike : left.Alike pairing left') (alike' : right.Alike pairing right')
    (held : Held pace pace' pairing first second) :
    Agrees pace pace' pairing (applyInfix operator left right) (applyInfix operator left' right')
      first second := by
  unfold applyInfix
  rw [← alike.tag, ← alike'.tag]
  by_cases mixed : left.tag ≠ right.tag
  · rw [if_pos mixed, if_pos mixed]
    exact agrees_fail _ held
  · rw [if_neg mixed, if_neg mixed]
    have whole := alike
    cases alike with
    | integer _ =>
        cases alike' with
        | integer _ => exact agrees_integerInfix operator _ _ held
        | _ => exact absurd (by simp [Value.tag]) mixed
    | string _ =>
        cases alike' with
        | string _ => exact agrees_stringInfix operator _ _ held
        | _ => exact absurd (by simp [Value.tag]) mixed
    | _ => exact agrees_identical operator whole alike' held

theorem agrees_prefix (operator : Operator) (alike : value.Alike pairing other)
    (held : Held pace pace' pairing first second) :
    Agrees pace pace' pairing (applyPrefix operator value) (applyPrefix operator other)
      first second := by
  cases operator with
  | bang =>
      show Agrees pace pace' pairing (pure _) (pure _) first second
      rw [alike.isTruthy]
      exact agrees_pure (.boolean _) held
  | minus =>
      cases alike with
      | integer _ => exact agrees_integer _ held
      | _ => exact agrees_fail _ held
  | _ =>
      show Agrees pace pace' pairing (fail (.unknownPrefix _ value.tag))
        (fail (.unknownPrefix _ other.tag)) first second
      rw [alike.tag]
      exact agrees_fail _ held

theorem agrees_lookup {entries others : List (HashKey × Value × Value)} (key : HashKey)
    (alike : Value.EntriesAlike pairing entries others)
    (held : Held pace pace' pairing first second) :
    Agrees pace pace' pairing (pure (((entries.lookup key).map Prod.snd).getD .null))
      (pure (((others.lookup key).map Prod.snd).getD .null)) first second := by
  have found := (Value.entriesAlike_iff.mp alike).lookup key
  generalize entries.lookup key = pair, others.lookup key = pair' at found ⊢
  cases found with
  | none => exact agrees_pure .null held
  | some related => exact agrees_pure related.2 held

theorem agrees_index {value' other' : Value} (alike : value.Alike pairing other)
    (alike' : value'.Alike pairing other') (held : Held pace pace' pairing first second) :
    Agrees pace pace' pairing (applyIndex value value') (applyIndex other other')
      first second := by
  cases alike with
  | array _ elements =>
      cases alike' with
      | integer _ =>
          simp only [applyIndex]
          split
          · exact agrees_pure .null held
          · exact agrees_pure
              (rel_getD (rel_getElem? (Value.allAlike_iff.mp elements) _) .null) held
      | _ => exact agrees_fail _ held
  | hash _ entries =>
      simp only [applyIndex, ← alike'.hashKey?]
      cases value'.hashKey? with
      | none => exact agrees_fail _ held
      | some key => exact agrees_lookup key entries held
  | _ => exact agrees_fail _ held

theorem agrees_length (alike : value.Alike pairing other)
    (held : Held pace pace' pairing first second) :
    Agrees pace pace' pairing (lengthOf value) (lengthOf other) first second := by
  cases alike with
  | string _ => exact agrees_integer _ held
  | array _ elements =>
      simp only [lengthOf, (Value.allAlike_iff.mp elements).length_eq]
      exact agrees_integer _ held
  | _ => exact agrees_fail _ held

theorem agrees_elements (callee : Builtin) {next next' : List Value → Eval Value}
    (alike : value.Alike pairing other) (held : Held pace pace' pairing first second)
    (goes : ∀ elements others, List.Forall₂ (Value.Alike pairing) elements others →
      Agrees pace pace' pairing (next elements) (next' others) first second) :
    Agrees pace pace' pairing (withElements callee value next) (withElements callee other next')
      first second := by
  cases alike with
  | array _ elements => exact goes _ _ (Value.allAlike_iff.mp elements)
  | _ => exact agrees_fail _ held

theorem agrees_builtin (callee : Builtin) {arguments others : List Value}
    (alike : List.Forall₂ (Value.Alike pairing) arguments others)
    (held : Held pace pace' pairing first second) :
    Agrees pace pace' pairing (applyBuiltin callee arguments) (applyBuiltin callee others)
      first second := by
  have refused (want : Nat) : Agrees pace pace' pairing
      (fail (.wrongArity arguments.length want)) (fail (.wrongArity others.length want))
      first second := by
    rw [alike.length_eq]
    exact agrees_fail _ held
  cases callee with
  | len =>
      rcases alike with _ | ⟨head, _ | ⟨_, _⟩⟩
      · exact refused 1
      · exact agrees_length head held
      · exact refused 1
  | first =>
      rcases alike with _ | ⟨head, _ | ⟨_, _⟩⟩
      · exact refused 1
      · apply agrees_elements _ head held
        intro elements others related
        exact agrees_pure (rel_getD (rel_head? related) .null) held
      · exact refused 1
  | last =>
      rcases alike with _ | ⟨head, _ | ⟨_, _⟩⟩
      · exact refused 1
      · apply agrees_elements _ head held
        intro elements others related
        exact agrees_pure (rel_getD (rel_getLast? related) .null) held
      · exact refused 1
  | rest =>
      rcases alike with _ | ⟨head, _ | ⟨_, _⟩⟩
      · exact refused 1
      · apply agrees_elements _ head held
        intro elements others related
        cases related with
        | nil => exact agrees_pure .null held
        | cons _ tail => exact agrees_array tail held
      · exact refused 1
  | push =>
      rcases alike with _ | ⟨head, _ | ⟨item, _ | ⟨_, _⟩⟩⟩
      · exact refused 2
      · exact refused 2
      · apply agrees_elements _ head held
        intro elements others related
        exact agrees_array (List.rel_append related (.cons item .nil)) held
      · exact refused 2

end Operations

theorem lawful : (simulation pace pace').Lawful where
  grows le related := ⟨related.1, related.2.mono le⟩
  tag related := related.2.tag
  truth related := related.2.isTruthy
  key related := related.2.hashKey?
  sound related := related.1
  null := ⟨rfl, .null⟩
  boolean truth := ⟨rfl, .boolean truth⟩
  traced event held := held.traced event event
  finished _ held := held.traced ..
  returned ends := meets (alike_of_meets ends).1 ((alike_of_meets ends).2.traced ..)
  counted gain held := held.counted gain
  failed_stepped failed := ⟨failed.1, failed.2.counted .statement⟩
  failed_interrupted failed := ⟨failed.1, failed.2.traced ..⟩
  failed_shown failed := ⟨failed.1, failed.2.traced ..⟩
  fails fault held := agrees_fail fault held
  string text held := agrees_string text held
  array relateds held := agrees_array (relateds.imp fun _ _ related => related.2) held
  hash relateds _ held := agrees_make held fun paired =>
    .hash paired ((Value.entriesAlike_iff.mpr
      (relateds.imp fun _ _ entry => ⟨entry.1, entry.2.1.2, entry.2.2.2⟩)).mono (Pairing.le_made _))
  prefixed operator related held := agrees_prefix operator related.2 held
  infixed operator related related' held := agrees_infix operator related.2 related'.2 held
  indexed related related' held := agrees_index related.2 related'.2 held

theorem passes : (simulation pace pace').Passes (simulation pace pace').value where
  operand related := related
  tag related := related.2.tag
  sound related := related.1
  unwrapped related held := meets related.2.unwrapped held

section Evaluation
variable {here there : ScopeId}

theorem agrees_identifier (name : String) (paired : pairing.scopes here there)
    (held : Held pace pace' pairing first second) :
    Agrees pace pace' pairing (evalIdentifier name here) (evalIdentifier name there)
      first second := by
  have held := held.traced (.lookupStarted name) (.lookupStarted name)
  apply Simulates.step (trace_run _ _) (trace_run _ _)
  apply Simulates.step (lookup?_run _ _ _) (lookup?_run _ _ _)
  have found := held.lookup? paired name
  generalize (first.traced (.lookupStarted name)).scopes.lookup? here name = bound,
    (second.traced (.lookupStarted name)).scopes.lookup? there name = bound' at found ⊢
  cases found with
  | some alike => exact agrees_pure alike held
  | none =>
      cases Builtin.ofName? name with
      | none => exact agrees_fail _ held
      | some builtin =>
          exact Simulates.step (trace_run _ _) (trace_run _ _)
            (agrees_pure (.builtin builtin) (held.traced ..))

theorem admits (paired : pairing.scopes here there) (node : Node) :
    (simulation pace pace').Admits (simulation pace pace').value pairing here there node := by
  cases node with
  | letStatement name node =>
      intro later value other first second le related held
      exact held.bound (le.2.pairs paired) related.2
  | returnStatement node =>
      intro later value other first second le related held
      exact agrees_make held fun made => .returned made (related.2.mono later.le_made)
  | identifier name =>
      intro later first second le held
      exact agrees_identifier name (le.2.pairs paired) held
  | integerLiteral number =>
      intro later first second le held
      exact agrees_integer number held
  | functionLiteral parameters body =>
      intro later first second le held
      exact agrees_make held fun made => .function made (le.2.pairs paired)
  | unknown name =>
      intro later first second le held
      exact Simulates.step (report_run _ _) (report_run _ _) (agrees_fail _ (held.noted ..))
  | _ => trivial

/-- Calls of values that are alike, whether a program or a host makes them. -/
theorem agrees_call {left right : Node → ScopeId → Eval Value} {callee callee' : Value}
    {arguments others : List Value}
    (bodies : ∀ later body here there after final, pairing ≤ later → later.scopes here there →
      Held pace pace' later after final →
        Agrees pace pace' later (left body here) (right body there) after final)
    (alike : callee.Alike pairing callee')
    (alikes : List.Forall₂ (Value.Alike pairing) arguments others)
    (held : Held pace pace' pairing first second) :
    Agrees pace pace' pairing (applyFunction left callee arguments)
      (applyFunction right callee' others) first second := by
  cases alike with
  | function _ inside =>
      have held := held.counted .functionCall
      apply Simulates.step (count_run _ _) (count_run _ _)
      rw [← alikes.length_eq]
      split
      · exact agrees_fail _ held
      · apply Simulates.step (enter_run _ _ _) (enter_run _ _ _)
        apply Simulates.step (trace_run _ _) (trace_run _ _)
        refine Simulates.of_later pairing.le_opened (Simulates.bind (Simulates.mono
          (bodies _ _ _ _ _ _ pairing.le_opened held.new_opened
            ((held.entered inside alikes).traced ..)) ?_))
        intro later value after other final le ends
        obtain ⟨alike, held⟩ := alike_of_meets ends
        exact Simulates.done rfl rfl (meets alike.unwrapped held)
  | builtin builtin =>
      apply Simulates.step (count_run _ _) (count_run _ _)
      apply Simulates.step (trace_run _ _) (trace_run _ _)
      exact agrees_builtin builtin alikes ((held.counted .builtinCall).traced ..)
  | failing _ =>
      apply Simulates.step (count_run _ _) (count_run _ _)
      apply Simulates.step (trace_run _ _) (trace_run _ _)
      apply Simulates.step (alarm_run _ _) (alarm_run _ _)
      exact agrees_fail _ (((held.counted .builtinCall).traced ..).alarmed _)
  | returned _ _ => exact agrees_fail _ held
  | _ => exact agrees_fail _ held

theorem agrees_evalWithin (depth : Nat) (node : Node) (paired : pairing.scopes here there)
    (held : Held pace pace' pairing first second) :
    Agrees pace pace' pairing (evalWithin depth node here) (evalWithin depth node there)
      first second := by
  induction depth generalizing pairing node here there first second with
  | zero =>
      intro value after finished
      cases finished
  | succ depth ih =>
      refine Simulation.Matches.node lawful passes (admits paired node) ?_ ?_ ?_ held
      · intro child _ later after final le held
        exact ih child (le.2.pairs paired) held
      · intro child _ later after final le held
        exact ih child (le.2.pairs paired) held
      · intro later callee other arguments others after final le related relateds held
        apply agrees_call _ related.2 (relateds.imp fun _ _ related => related.2) held
        intro last body here there after final _ paired held
        exact ih body paired held

theorem agrees_applied (depth : Nat) {callee callee' : Value} {arguments others : List Value}
    (alike : callee.Alike pairing callee')
    (alikes : List.Forall₂ (Value.Alike pairing) arguments others)
    (held : Held pace pace' pairing first second) :
    Agrees pace pace' pairing (call depth callee arguments) (call depth callee' others)
      first second := by
  apply agrees_call _ alike alikes held
  intro later body here there after final _ paired held
  exact agrees_evalWithin depth body paired held

/-- A finished evaluation has a twin, which finishes with a value that is alike. -/
theorem Held.evalWithin {depth : Nat} {node : Node} {value : Value} {after : State}
    (held : Held pace pace' pairing first second) (paired : pairing.scopes here there)
    (run : Eval.evalWithin depth node here first = some (value, after)) :
    ∃ other final later, Eval.evalWithin depth node there second = some (other, final) ∧
      pairing ≤ later ∧ value.Alike later other ∧ Held pace pace' later after final := by
  obtain ⟨other, final, later, twin, le, ends⟩ :=
    agrees_evalWithin depth node paired held value after run
  exact ⟨other, final, later, twin, le, alike_of_meets ends⟩

theorem Held.call {depth : Nat} {callee callee' value : Value} {arguments others : List Value}
    {after : State} (held : Held pace pace' pairing first second)
    (alike : callee.Alike pairing callee')
    (alikes : List.Forall₂ (Value.Alike pairing) arguments others)
    (run : Eval.call depth callee arguments first = some (value, after)) :
    ∃ other final later, Eval.call depth callee' others second = some (other, final) ∧
      pairing ≤ later ∧ value.Alike later other ∧ Held pace pace' later after final := by
  obtain ⟨other, final, later, twin, le, ends⟩ :=
    agrees_applied depth alike alikes held value after run
  exact ⟨other, final, later, twin, le, alike_of_meets ends⟩

end Evaluation

end Eval.Twins

end MonkeyLang
