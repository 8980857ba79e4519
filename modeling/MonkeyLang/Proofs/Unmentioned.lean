import MonkeyLang.Proofs.Depth
import MonkeyLang.Proofs.Everywhere
import MonkeyLang.Proofs.Hereditary

/-!
Names that no code mentions. Names are looked up along chains of scopes that closures share, so
a binding can be reached from code that is far from it; but not from code in which the name does
not occur. With another value bound to such a name, or with one where there was none, a run
goes the same way: the two runs are in scopes that differ in this one binding only.
-/

namespace MonkeyLang

namespace Assoc

universe u v
variable {Key : Type u} {Item : Type v} [DecidableEq Key]

/-- The entries under other keys. -/
def without (key : Key) : List (Key × Item) → List (Key × Item)
  | [] => []
  | entry :: rest => if entry.1 = key then without key rest else entry :: without key rest

theorem without_insert_self (key : Key) (item : Item) (entries : List (Key × Item)) :
    without key (insert key item entries) = without key entries := by
  induction entries with
  | nil => simp [insert, without]
  | cons entry rest ih =>
      obtain ⟨first, old⟩ := entry
      by_cases here : first = key
      · simp [insert, without, here]
      · simp [insert, without, here, ih]

theorem without_insert {key other : Key} (apart : other ≠ key) (item : Item)
    (entries : List (Key × Item)) :
    without key (insert other item entries) = insert other item (without key entries) := by
  induction entries with
  | nil => simp [insert, without, apart]
  | cons entry rest ih =>
      obtain ⟨first, old⟩ := entry
      by_cases here : first = other
      · simp [insert, without, here, apart]
      · by_cases dropped : first = key
        · have kept : key ≠ other := Ne.symm apart
          simp [insert, without, dropped, kept, ih]
        · simp [insert, without, here, dropped, ih]

theorem lookup_without {key other : Key} (apart : other ≠ key) (entries : List (Key × Item)) :
    (without key entries).lookup other = entries.lookup other := by
  induction entries with
  | nil => rfl
  | cons entry rest ih =>
      obtain ⟨first, old⟩ := entry
      by_cases dropped : first = key
      · have different : (other == first) = false := by simpa [dropped] using apart
        rw [without, if_pos dropped, ih, List.lookup_cons, different]
      · rw [without, if_neg dropped, List.lookup_cons, List.lookup_cons, ih]

theorem mem_without {key : Key} {entry : Key × Item} {entries : List (Key × Item)} :
    entry ∈ without key entries ↔ entry ∈ entries ∧ entry.1 ≠ key := by
  induction entries with
  | nil => simp [without]
  | cons head rest ih =>
      by_cases dropped : head.1 = key
      · rw [without, if_pos dropped, ih, List.mem_cons]
        constructor
        · exact fun found => ⟨.inr found.1, found.2⟩
        · rintro ⟨rfl | later, apart⟩
          · exact absurd dropped apart
          · exact ⟨later, apart⟩
      · rw [without, if_neg dropped, List.mem_cons, List.mem_cons, ih]
        constructor
        · rintro (rfl | found)
          · exact ⟨.inl rfl, dropped⟩
          · exact ⟨.inr found.1, found.2⟩
        · rintro ⟨rfl | later, apart⟩
          · exact .inl rfl
          · exact .inr ⟨later, apart⟩

end Assoc

/-- The names that a node itself brings in, beside those in its parts. -/
def Node.ownNames : Node → List String
  | .letStatement name _ => [name]
  | .identifier name => [name]
  | .functionLiteral parameters _ => parameters
  | _ => []

/-- The name occurs nowhere in the tree. -/
def Node.Avoids (name : String) (node : Node) : Prop :=
  node.Everywhere fun part => name ∉ part.ownNames

/-- The code of a function does not mention the name. -/
def Value.Avoids (name : String) : Value → Prop
  | .function _ parameters body _ => (Node.functionLiteral parameters body).Avoids name
  | _ => True

namespace Scopes

/-- The same scopes, but for what the name is bound to in the one that is called `home`. -/
structure SameBut (home : ScopeId) (name : String) (first second : Scopes) : Prop where
  next : first.next = second.next
  link : ∀ scope, first.outer? scope = second.outer? scope
  elsewhere : ∀ scope, scope ≠ home → first.bindings scope = second.bindings scope
  others : Assoc.without name (first.bindings home) = Assoc.without name (second.bindings home)

namespace SameBut

variable {home : ScopeId} {name : String} {first second : Scopes}

theorem symm (same : SameBut home name first second) : SameBut home name second first where
  next := same.next.symm
  link scope := (same.link scope).symm
  elsewhere scope apart := (same.elsewhere scope apart).symm
  others := same.others.symm

/-- Binding the name in `home` is the one change that is allowed for. -/
theorem of_bind (scopes : Scopes) (home : ScopeId) (name : String) (value : Value) :
    SameBut home name scopes (scopes.bind home name value) where
  next := by simp
  link scope := by simp
  elsewhere scope apart := by simp [bindings_bind, apart]
  others := by
    rw [bindings_bind]
    split
    · rw [Assoc.without_insert_self]
    · rfl

theorem bind (same : SameBut home name first second) {scope : ScopeId} {other : String}
    (apart : scope = home → other ≠ name) (value : Value) :
    SameBut home name (first.bind scope other value) (second.bind scope other value) where
  next := by simpa using same.next
  link inner := by simpa using same.link inner
  elsewhere inner away := by
    rw [bindings_bind, bindings_bind, same.next, same.elsewhere inner away]
    by_cases here : inner = scope
    · rw [← here, same.elsewhere inner away]
    · rw [if_neg (fun both => here both.1), if_neg (fun both => here both.1)]
  others := by
    rw [bindings_bind, bindings_bind, same.next]
    by_cases here : home = scope ∧ scope < second.next
    · rw [if_pos here, if_pos here, ← here.1, Assoc.without_insert (apart here.1.symm),
        Assoc.without_insert (apart here.1.symm), same.others]
    · rw [if_neg here, if_neg here, same.others]

theorem create (same : SameBut home name first second) (outer : Option ScopeId) :
    SameBut home name (first.create outer) (second.create outer) where
  next := by simp [same.next]
  link scope := by rw [outer?_create, outer?_create, same.next, same.link]
  elsewhere scope apart := by simpa using same.elsewhere scope apart
  others := by simpa using same.others

theorem bindAll (same : SameBut home name first second) {scope : ScopeId} (apart : scope ≠ home)
    (made : List (String × Value)) :
    SameBut home name (first.bindAll scope made) (second.bindAll scope made) := by
  induction made generalizing first second with
  | nil => exact same
  | cons binding rest ih => exact ih (same.bind (fun here => absurd here apart) binding.2)

theorem chainWithin (same : SameBut home name first second) (bound : Nat) (scope : ScopeId) :
    first.chainWithin bound scope = second.chainWithin bound scope := by
  induction bound generalizing scope with
  | zero => rfl
  | succ bound ih =>
      rw [Scopes.chainWithin, Scopes.chainWithin, same.link]
      cases second.outer? scope with
      | none => rfl
      | some outer => simp only [ih]

theorem lookup? (same : SameBut home name first second) {other : String} (apart : other ≠ name)
    (scope : ScopeId) : first.lookup? scope other = second.lookup? scope other := by
  have found (member : ScopeId) :
      (first.bindings member).lookup other = (second.bindings member).lookup other := by
    by_cases here : member = home
    · rw [here, ← Assoc.lookup_without apart (first.bindings home), same.others,
        Assoc.lookup_without apart]
    · rw [same.elsewhere member here]
  rw [Scopes.lookup?, Scopes.lookup?, chain, chain, same.chainWithin]
  simp only [found]

end SameBut

/-- A binding that is neither made in its scope nor changed there. -/
theorem lookup_bind_of_apart (scopes : Scopes) {home scope : ScopeId} {name other : String}
    (apart : scope = home → other ≠ name) (value : Value) :
    ((scopes.bind scope other value).bindings home).lookup name =
      (scopes.bindings home).lookup name := by
  rw [bindings_bind]
  split
  · next here =>
    rw [Assoc.lookup_insert, if_neg (Ne.symm (apart here.1.symm)), here.1]
  · rfl

end Scopes

/-- Two states that differ at most in what the name is bound to in `home`. -/
structure State.SameBut (home : ScopeId) (name : String) (first second : State) : Prop where
  serial : first.nextSerial = second.nextSerial
  counters : first.counters = second.counters
  level : first.level = second.level
  log : first.log = second.log
  scopes : first.scopes.SameBut home name second.scopes

namespace State.SameBut

variable {home : ScopeId} {name : String} {first second : State}

theorem symm (same : SameBut home name first second) : SameBut home name second first where
  serial := same.serial.symm
  counters := same.counters.symm
  level := same.level.symm
  log := same.log.symm
  scopes := same.scopes.symm

theorem of_bound (state : State) (home : ScopeId) (name : String) (value : Value) :
    SameBut home name state (state.bound home name value) where
  serial := rfl
  counters := rfl
  level := rfl
  log := rfl
  scopes := .of_bind state.scopes home name value

theorem noted (same : SameBut home name first second) (severity : Severity) (level : Level)
    (event : Event) :
    SameBut home name (first.noted severity level event) (second.noted severity level event) where
  serial := by simpa using same.serial
  counters := by simpa using same.counters
  level := by simpa using same.level
  log := by rw [State.noted_log, State.noted_log, same.level, same.log]
  scopes := by simpa using same.scopes

theorem alarmed (same : SameBut home name first second) (event : Event) :
    SameBut home name (first.alarmed event) (second.alarmed event) :=
  { same with log := congrArg (Array.push · _) same.log }

theorem counted (same : SameBut home name first second) (change : Counters → Counters) :
    SameBut home name (first.counted change) (second.counted change) :=
  { same with counters := congrArg change same.counters }

theorem bumped (same : SameBut home name first second) :
    SameBut home name first.bumped second.bumped :=
  { same with serial := congrArg (· + 1) same.serial }

end State.SameBut

namespace Eval

namespace Unmentioned

/-- Two runs side by side. In `home` the name is bound to `value?` in the one and to `value'?`
in the other, if to anything; no other binding holds code that mentions the name. -/
structure Aside (home : ScopeId) (name : String) (value? value'? : Option Value)
    (first second : State) : Prop where
  same : first.SameBut home name second
  present : home < first.scopes.next
  left : (first.scopes.bindings home).lookup name = value?
  right : (second.scopes.bindings home).lookup name = value'?
  silent : ∀ scope, ∀ binding ∈ first.scopes.bindings scope,
    (scope = home → binding.1 ≠ name) → binding.2.Throughout (Value.Avoids name)

namespace Aside

variable {home : ScopeId} {name : String} {value? value'? : Option Value} {first second : State}

theorem symm (aside : Aside home name value? value'? first second) :
    Aside home name value'? value? second first where
  same := aside.same.symm
  present := aside.same.scopes.next ▸ aside.present
  left := aside.right
  right := aside.left
  silent scope binding member apart := by
    apply aside.silent scope binding _ apart
    -- the binding is not the one that differs, so the first run has it as well
    by_cases here : scope = home
    · subst here
      have kept := Assoc.mem_without.mpr ⟨member, apart rfl⟩
      rw [← aside.same.scopes.others] at kept
      exact (Assoc.mem_without.mp kept).1
    · rwa [aside.same.scopes.elsewhere scope here]

/-- Steps that leave the scopes alone. -/
theorem of_scopes {first' second' : State} (aside : Aside home name value? value'? first second)
    (same : first'.SameBut home name second') (left : first'.scopes = first.scopes)
    (right : second'.scopes = second.scopes) :
    Aside home name value? value'? first' second' where
  same := same
  present := by rw [left]; exact aside.present
  left := by rw [left]; exact aside.left
  right := by rw [right]; exact aside.right
  silent := by rw [left]; exact aside.silent

theorem leveled (aside : Aside home name value? value'? first second) (level : Level) :
    Aside home name value? value'? { first with level } { second with level } :=
  aside.of_scopes { aside.same with level := rfl } rfl rfl

/-- A name that the code mentions is looked up alike, and not found as other code. -/
theorem found (aside : Aside home name value? value'? first second) {other : String}
    (apart : other ≠ name) (scope : ScopeId) :
    first.scopes.lookup? scope other = second.scopes.lookup? scope other ∧
      ∀ value, first.scopes.lookup? scope other = some value →
        value.Throughout (Value.Avoids name) := by
  constructor
  · exact aside.same.scopes.lookup? apart scope
  · intro value found
    obtain ⟨member, bound⟩ := Scopes.mem_of_lookup? _ found
    exact aside.silent member _ bound fun _ => apart

theorem bound (aside : Aside home name value? value'? first second) {other : String}
    (apart : other ≠ name) (scope : ScopeId) {value : Value}
    (clean : value.Throughout (Value.Avoids name)) :
    Aside home name value? value'? (first.bound scope other value)
      (second.bound scope other value) where
  same := { aside.same with scopes := aside.same.scopes.bind (fun _ => apart) value }
  present := by
    show home < (first.scopes.bind scope other value).next
    rw [Scopes.next_bind]
    exact aside.present
  left := (Scopes.lookup_bind_of_apart _ (fun _ => apart) value).trans aside.left
  right := (Scopes.lookup_bind_of_apart _ (fun _ => apart) value).trans aside.right
  silent inner binding member away := by
    rcases Scopes.mem_bindings_bind _ member with rfl | old
    · exact clean
    · exact aside.silent inner binding old away

/-- The scope of a call is not `home`: it is new, whatever the parameters are called. -/
theorem entered (aside : Aside home name value? value'? first second) (outer : ScopeId)
    {made : List (String × Value)}
    (clean : ∀ binding ∈ made, binding.2.Throughout (Value.Avoids name)) :
    Aside home name value? value'? (first.entered outer made) (second.entered outer made) := by
  have next := aside.same.scopes.next
  have older : home ≠ first.scopes.next := Nat.ne_of_lt aside.present
  have bindings (scopes : Scopes) (same : scopes.next = first.scopes.next) :
      ((scopes.create (some outer)).bindAll scopes.next made).bindings home =
        scopes.bindings home := by
    rw [Scopes.bindings_bindAll_of_ne _ (same ▸ older), Scopes.bindings_create]
  constructor
  case same =>
    have scopes := (aside.same.scopes.create (some outer)).bindAll (Ne.symm older) made
    exact { aside.same with scopes := by rwa [State.entered, State.entered, ← next] }
  case present =>
    have larger : (first.entered outer made).scopes.next = first.scopes.next + 1 := by
      rw [State.entered, Scopes.next_bindAll, Scopes.next_create]
    rw [larger]
    exact Nat.lt_succ_of_lt aside.present
  case left => exact (congrArg (List.lookup name) (bindings first.scopes rfl)).trans aside.left
  case right =>
    exact (congrArg (List.lookup name) (bindings second.scopes next.symm)).trans aside.right
  case silent =>
    intro scope binding member away
    rcases Scopes.mem_bindings_bindAll _ member with new | old
    · exact clean binding new
    · rw [Scopes.bindings_create] at old
      exact aside.silent scope binding old away

end Aside

theorem avoids_hereditary (name : String) : Hereditary (Value.Avoids name) (Node.Avoids name) where
  containers := ⟨fun _ _ => trivial, fun _ _ => trivial⟩
  returned _ _ := trivial
  null := trivial
  boolean _ := trivial
  string _ _ := trivial
  wrapped _ _ := trivial
  measured _ _ _ := trivial
  integer _ _ := trivial
  builtin _ _ := trivial
  function _ _ avoids := avoids
  body avoids := Node.Everywhere.body avoids
  operand := Node.Everywhere.operand
  step := Node.Everywhere.step

theorem carries_aside (home : ScopeId) (name : String) (value? value'? : Option Value) :
    Carries (Value.Avoids name) (Node.Avoids name) (Aside home name value? value'?) where
  serial aside := aside.same.serial
  next aside := aside.same.scopes.next
  noted severity level event aside := aside.of_scopes (aside.same.noted severity level event)
    (State.noted_scopes ..) (State.noted_scopes ..)
  alarmed event aside := aside.of_scopes (aside.same.alarmed event) rfl rfl
  counted change aside := aside.of_scopes (aside.same.counted change) rfl rfl
  bumped aside := aside.of_scopes aside.same.bumped rfl rfl
  found scope avoids aside := by
    have apart := Node.Everywhere.here avoids
    exact aside.found (Ne.symm (List.ne_of_not_mem_cons apart)) scope
  bound scope avoids clean aside := by
    have apart := Node.Everywhere.here avoids
    exact aside.bound (Ne.symm (List.ne_of_not_mem_cons apart)) scope clean
  entered _ clean aside := by
    apply aside.entered
    intro binding member
    exact clean binding.2 (List.of_mem_zip member).2

/-- A run that has a result has the same one beside it. -/
theorem evaluate_aside {home : ScopeId} {name : String} {value? value'? : Option Value}
    {depth : Nat} {node : Node} {scope : ScopeId} {verbose : Bool} {first second after : State}
    {answer : Value} (avoids : node.Avoids name)
    (aside : Aside home name value? value'? first second)
    (run : evaluate depth node scope verbose first = some (answer, after)) :
    ∃ final, evaluate depth node scope verbose second = some (answer, final) ∧
      Aside home name value? value'? after final := by
  have starts : Aside home name value? value'?
      (if verbose then { first with level := .debug } else first)
      (if verbose then { second with level := .debug } else second) := by
    cases verbose with
    | true => exact aside.leveled .debug
    | false => exact aside
  rw [evaluate_run, Option.map_eq_some_iff] at run
  obtain ⟨⟨result, last⟩, run, finish⟩ := run
  obtain ⟨final, run', ends, -⟩ :=
    (avoids_hereditary name).finished (carries_aside home name value? value'?) avoids starts run
  cases finish
  refine ⟨{ final with level := second.level }, ?_, ?_⟩
  · rw [evaluate_run, run', Option.map_some]
  · rw [aside.same.level]
    exact ends.leveled second.level

/-- Neither run goes on where the other has a result. -/
theorem evaluate_aside_none {home : ScopeId} {name : String} {value? value'? : Option Value}
    {depth : Nat} {node : Node} {scope : ScopeId} {verbose : Bool} {first second : State}
    (avoids : node.Avoids name) (aside : Aside home name value? value'? first second)
    (stuck : evaluate depth node scope verbose first = none) :
    evaluate depth node scope verbose second = none := by
  cases run : evaluate depth node scope verbose second with
  | none => rfl
  | some result =>
      obtain ⟨_, run', -⟩ := evaluate_aside avoids aside.symm run
      rw [stuck] at run'
      cases run'

end Unmentioned

/-- Of a binding whose name no code mentions only the binding itself is left behind, and
whether a run has a result does not depend on it. The old value of the name, if there is one,
and the new one may be any, also functions that do mention it. -/
theorem unmentioned_binding_unused {name : String} {node : Node} {home : ScopeId} {before : State}
    (present : home < before.scopes.next) (avoids : node.Avoids name)
    (silent : ∀ scope, ∀ binding ∈ before.scopes.bindings scope,
      (scope = home → binding.1 ≠ name) → binding.2.Throughout (Value.Avoids name))
    (value : Value) (depth : Nat) (scope : ScopeId) (verbose : Bool) :
    (∀ answer after, evaluate depth node scope verbose before = some (answer, after) →
      ∃ final,
        evaluate depth node scope verbose (before.bound home name value) = some (answer, final) ∧
          after.SameBut home name final ∧
          (final.scopes.bindings home).lookup name = some value) ∧
    (evaluate depth node scope verbose before = none ↔
      evaluate depth node scope verbose (before.bound home name value) = none) := by
  have aside : Unmentioned.Aside home name ((before.scopes.bindings home).lookup name)
      (some value) before (before.bound home name value) := {
    same := .of_bound before home name value
    present := present
    left := rfl
    right := by
      rw [State.bound, Scopes.bindings_bind, if_pos ⟨rfl, present⟩, Assoc.lookup_insert, if_pos rfl]
    silent := silent }
  constructor
  · intro answer after run
    obtain ⟨final, run', ends⟩ := Unmentioned.evaluate_aside avoids aside run
    exact ⟨final, run', ends.same, ends.right⟩
  · constructor
    · exact Unmentioned.evaluate_aside_none avoids aside
    · exact Unmentioned.evaluate_aside_none avoids aside.symm

/-- `let f = fn(a) { len(a) }; f(s)` -/
def measuringClosure : Node :=
  .program [
    .letStatement "f" (.functionLiteral ["a"] (.blockStatement
      [.expressionStatement (.callExpression (.identifier "len") [.identifier "a"])])),
    .expressionStatement (.callExpression (.identifier "f") [.identifier "s"])]

/-- A string is bound to `s`, and to `x` a function that mentions `x`. -/
def oldBound : State :=
  (State.initial.bound 0 "s" (.string 0 "abc")).bound 0 "x" (.function 1 [] (.identifier "x") 0)

/-- The scope of the program is the one that a closure captures, and `x` is rebound in it. -/
theorem unmentioned_binding_unused_measuringClosure : ∃ serial after final,
    measuringClosure.Avoids "x" ∧
      evaluate 9 measuringClosure 0 true oldBound = some (.integer serial 3, after) ∧
      evaluate 9 measuringClosure 0 true (oldBound.bound 0 "x" (.builtin .len)) =
        some (.integer serial 3, final) ∧
      after.SameBut 0 "x" final ∧
      (final.scopes.bindings 0).lookup "x" = some (.builtin .len) := by
  have avoids : measuringClosure.Avoids "x" := .of_holdsWithin 9 (by decide)
  have text : (Value.string 0 "abc").Avoids "x" := trivial
  have quiet : (State.initial.bound 0 "s" (.string 0 "abc")).Throughout (Value.Avoids "x") :=
    State.initial_throughout.bound (.of_atom text trivial) 0 "s"
  have silent : ∀ scope, ∀ binding ∈ oldBound.scopes.bindings scope,
      (scope = 0 → binding.1 ≠ "x") → binding.2.Throughout (Value.Avoids "x") := by
    intro scope binding member away
    by_cases here : scope = 0
    · rcases Scopes.mem_bindings_bind _ member with rfl | old
      · exact absurd rfl (away here)
      · exact quiet scope binding old
    · rw [oldBound, State.bound, Scopes.bindings_bind, if_neg (fun both => here both.1)] at member
      exact quiet scope binding member
  obtain ⟨serial, after, run⟩ : ∃ serial after,
      evaluate 9 measuringClosure 0 true oldBound = some (.integer serial 3, after) :=
    ⟨_, _, rfl⟩
  obtain ⟨final, run', same, still⟩ :=
    (unmentioned_binding_unused (by decide) avoids silent (.builtin .len) 9 0 true).1 _ _ run
  exact ⟨serial, after, final, avoids, run, run', same, still⟩

end Eval

end MonkeyLang
