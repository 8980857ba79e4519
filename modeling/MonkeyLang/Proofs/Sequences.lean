import MonkeyLang.Proofs.Answers

/-!
Arrays as persistent sequences. Five builtins and indexing take an array apart and make new ones,
each with its own answer at the ends of the array. They agree with each other on what the elements
are: what one of them put in another one finds, and what is taken off the front comes in the
order in which it was put in. None of them fails on an array, and none changes one.
-/

namespace MonkeyLang.Eval

open Semantics

/-- In whatever state it starts, a computation ends with such a value, and what is bound
anywhere is what was bound there before. -/
def Gives (computation : Eval Value) (good : Value → Prop) : Prop :=
  ∀ before, ∃ value after, computation before = some (value, after) ∧ good value ∧
    after.scopes = before.scopes

/-- Two computations hand out one value. -/
def GiveOne (computation other : Eval Value) : Prop :=
  ∃ value, Gives computation (· = value) ∧ Gives other (· = value)

def IsNumber (number : Int) (value : Value) : Prop :=
  ∃ serial, value = .integer serial number

def IsArray (elements : List Value) (value : Value) : Prop :=
  ∃ serial, value = .array serial elements

namespace Gives

variable {computation : Eval Value} {next : Value → Eval Value} {good better : Value → Prop}

theorem pure {value : Value} (holds : good value) : Gives (pure value) good :=
  fun before => ⟨value, before, rfl, holds, rfl⟩

theorem bind (first : Gives computation good)
    (rest : ∀ value, good value → Gives (next value) better) :
    Gives (computation >>= next) better := by
  intro before
  obtain ⟨value, middle, run, holds, same⟩ := first before
  obtain ⟨result, after, run', holds', same'⟩ := rest value holds middle
  exact ⟨result, after, (bind_run_of run).trans run', holds', same'.trans same⟩

theorem eq {value other : Value} (gives : Gives computation (· = value)) (same : value = other) :
    Gives computation (· = other) :=
  same ▸ gives

/-- What goes on with an array of which the elements are known. -/
theorem array {elements : List Value} (first : Gives computation (IsArray elements))
    (rest : ∀ serial, Gives (next (.array serial elements)) better) :
    Gives (computation >>= next) better := by
  apply first.bind
  rintro _ ⟨serial, rfl⟩
  exact rest serial

theorem answer {answer : Answer} (same : computation = answer.run)
    (holds : ∀ store, good (answer.value store)) : Gives computation good := by
  intro before
  obtain ⟨after, run, stored⟩ := answer.run_store before
  refine ⟨_, after, same ▸ run, holds _, ?_⟩
  calc after.scopes = (answer.after before.store).scopes := congrArg Store.scopes stored
    _ = before.scopes := by cases answer <;> rfl

theorem called {callee : Builtin} {arguments : List Value} {answer : Answer} {depth : Nat}
    (rule : BuiltinAnswer callee arguments answer) (holds : ∀ store, good (answer.value store)) :
    Gives (call depth (.builtin callee) arguments) good := by
  intro before
  obtain ⟨value, after, run, holds, same⟩ := Gives.answer rule.run holds
    ((before.counted fun counters => { counters with
      builtinCalls := counters.builtinCalls + 1 }).traced (.builtinCalled callee.name))
  refine ⟨value, after, ?_, holds, same.trans (State.noted_scopes ..)⟩
  exact (bind_run_of (count_run _ _)).trans ((bind_run_of (trace_run _ _)).trans run)

end Gives

namespace Sequence

section Operations
variable (depth : Nat)

def len (value : Value) : Eval Value :=
  call depth (.builtin .len) [value]

def first (array : Value) : Eval Value :=
  call depth (.builtin .first) [array]

def last (array : Value) : Eval Value :=
  call depth (.builtin .last) [array]

def rest (array : Value) : Eval Value :=
  call depth (.builtin .rest) [array]

def push (array item : Value) : Eval Value :=
  call depth (.builtin .push) [array, item]

/-- What stands at a place, which is an object with its own number. -/
def item (mark : Nat) (place : Int) (array : Value) : Eval Value :=
  applyIndex array (.integer mark place)

/-- Take elements off the front. -/
def dropped : Nat → Value → Eval Value
  | 0, array => pure array
  | steps + 1, array => do dropped steps (← rest depth array)

/-- Take elements off the front of one array and push them onto another. -/
def moved : Nat → Value → Value → Eval Value
  | 0, _, target => pure target
  | steps + 1, source, target => do
      let item ← first depth source
      let longer ← push depth target item
      let shorter ← rest depth source
      moved steps shorter longer

end Operations

/-- What the operations say of an array with these elements, and of it with an item pushed. -/
structure Laws (depth mark serial : Nat) (elements : List Value) (pushed : Value) : Prop where
  len : Gives (len depth (.array serial elements)) (IsNumber elements.length)
  element : ∀ (place : Nat) value, elements[place]? = some value →
    Gives (item mark place (.array serial elements)) (· = value)
  last_push : Gives (push depth (.array serial elements) pushed >>= last depth) (· = pushed)
  len_push : Gives (push depth (.array serial elements) pushed >>= Sequence.len depth)
    (IsNumber (elements.length + 1))
  push_inside : ∀ place : Int, 0 ≤ place → place < elements.length →
    GiveOne (item mark place (.array serial elements))
      (push depth (.array serial elements) pushed >>= item mark place)
  push_end : Gives (push depth (.array serial elements) pushed >>= item mark elements.length)
    (· = pushed)
  push_outside : ∀ place : Int, place < 0 ∨ elements.length < place →
    Gives (push depth (.array serial elements) pushed >>= item mark place) (· = .null)
  first : GiveOne (first depth (.array serial elements)) (item mark 0 (.array serial elements))
  last : GiveOne (last depth (.array serial elements))
    (item mark (elements.length - 1) (.array serial elements))
  len_rest : elements ≠ [] → Gives (rest depth (.array serial elements) >>= Sequence.len depth)
    (IsNumber (elements.length - 1))
  rest_item : elements ≠ [] → ∀ place : Int, 0 ≤ place →
    GiveOne (item mark (place + 1) (.array serial elements))
      (rest depth (.array serial elements) >>= item mark place)
  rest_before : elements ≠ [] → ∀ place : Int, place < 0 →
    Gives (rest depth (.array serial elements) >>= item mark place) (· = .null)
  rest_push : elements ≠ [] → ∃ others,
    Gives (push depth (.array serial elements) pushed >>= rest depth) (IsArray others) ∧
      Gives (do push depth (← rest depth (.array serial elements)) pushed) (IsArray others)
  dropped : ∀ steps ≤ elements.length,
    Gives (dropped depth steps (.array serial elements)) (IsArray (elements.drop steps))
  exhausted : Gives (Sequence.dropped depth (elements.length + 1) (.array serial elements))
    (· = .null)
  moved : ∀ other, Gives (moved depth elements.length (.array serial elements) (.array other []))
    (IsArray elements)

/-- What stands at a place, if something does. -/
def entry (elements : List Value) (place : Int) : Value :=
  if place < 0 then .null else elements[place.toNat]?.getD .null

section Entries
variable {elements : List Value} {place : Int}

theorem entry_before (elements : List Value) (before : place < 0) : entry elements place = .null :=
  if_pos before

theorem entry_of_nonneg (elements : List Value) (inside : 0 ≤ place) :
    entry elements place = elements[place.toNat]?.getD .null :=
  if_neg (Int.not_lt.mpr inside)

theorem entry_push_inside (pushed : Value) (start : 0 ≤ place) (inside : place < elements.length) :
    entry (elements ++ [pushed]) place = entry elements place := by
  have below : place.toNat < elements.length := by omega
  rw [entry_of_nonneg _ start, entry_of_nonneg _ start, List.getElem?_append_left below]

theorem entry_push_end (elements : List Value) (pushed : Value) :
    entry (elements ++ [pushed]) elements.length = pushed := by
  rw [entry_of_nonneg _ (Int.natCast_nonneg _), Int.toNat_natCast, List.getElem?_concat_length,
    Option.getD_some]

theorem entry_beyond (start : 0 ≤ place) (beyond : elements.length ≤ place) :
    entry elements place = .null := by
  rw [entry_of_nonneg _ start, List.getElem?_eq_none (by omega), Option.getD_none]

theorem entry_succ (head : Value) (tail : List Value) (start : 0 ≤ place) :
    entry (head :: tail) (place + 1) = entry tail place := by
  have next : (place + 1).toNat = place.toNat + 1 := by omega
  rw [entry_of_nonneg _ (by omega), entry_of_nonneg _ start, next, List.getElem?_cons_succ]

theorem entry_zero (elements : List Value) : entry elements 0 = elements.head?.getD .null := by
  rw [entry_of_nonneg _ (Int.le_refl 0), Int.toNat_zero, ← List.head?_eq_getElem?]

theorem entry_last (elements : List Value) :
    entry elements (elements.length - 1) = elements.getLast?.getD .null := by
  rcases elements.eq_nil_or_concat' with rfl | ⟨front, value, rfl⟩
  · rfl
  · have place : ((front ++ [value]).length : Int) - 1 = front.length := by
      rw [List.length_append, List.length_singleton]
      omega
    rw [place, entry_push_end, List.getLast?_concat, Option.getD_some]

end Entries

section Answers
variable (depth : Nat) {mark serial : Nat} {elements : List Value}

theorem gives_len : Gives (len depth (.array serial elements)) (IsNumber elements.length) :=
  .called .array_length fun _ => ⟨_, rfl⟩

theorem gives_push (pushed : Value) :
    Gives (push depth (.array serial elements) pushed) (IsArray (elements ++ [pushed])) :=
  .called .push fun _ => ⟨_, rfl⟩

theorem gives_rest {head : Value} {tail : List Value} :
    Gives (rest depth (.array serial (head :: tail))) (IsArray tail) :=
  .called .rest fun _ => ⟨_, rfl⟩

theorem gives_rest_nil : Gives (rest depth (.array serial [])) (· = .null) :=
  .called (.empty (by simp)) fun _ => rfl

theorem gives_first :
    Gives (first depth (.array serial elements)) (· = elements.head?.getD .null) := by
  cases elements with
  | nil => exact .called (.empty (by simp)) fun _ => rfl
  | cons head tail => exact .called .first fun _ => rfl

theorem gives_last :
    Gives (last depth (.array serial elements)) (· = elements.getLast?.getD .null) := by
  rcases elements.eq_nil_or_concat' with rfl | ⟨front, value, rfl⟩
  · exact .called (.empty (by simp)) fun _ => rfl
  · rw [List.getLast?_concat]
    exact .called .last fun _ => rfl

theorem gives_item (place : Int) :
    Gives (item mark place (.array serial elements)) (· = entry elements place) := by
  by_cases before : place < 0
  · rw [entry_before _ before]
    exact .answer (IndexAnswer.beyond (.inl before)).run fun _ => rfl
  · rw [entry_of_nonneg _ (Int.not_lt.mp before)]
    obtain ⟨place, rfl⟩ := Int.eq_ofNat_of_zero_le (Int.not_lt.mp before)
    rw [Int.toNat_natCast]
    cases found : elements[place]? with
    | none =>
        have beyond : (elements.length : Int) ≤ place :=
          Int.ofNat_le.mpr (List.getElem?_eq_none_iff.mp found)
        exact .answer (IndexAnswer.beyond (.inr beyond)).run fun _ => rfl
    | some value => exact .answer (IndexAnswer.element found).run fun _ => rfl

/-- What is taken off the front leaves the elements behind it. -/
theorem gives_dropped {steps : Nat} (enough : steps ≤ elements.length) :
    Gives (dropped depth steps (.array serial elements)) (IsArray (elements.drop steps)) := by
  induction steps generalizing serial elements with
  | zero => exact .pure ⟨serial, rfl⟩
  | succ steps ih =>
      cases elements with
      | nil => cases enough
      | cons head tail =>
          exact (gives_rest depth).array fun _ => ih (Nat.le_of_succ_le_succ enough)

theorem gives_dropped_all :
    Gives (dropped depth (elements.length + 1) (.array serial elements)) (· = .null) := by
  induction elements generalizing serial with
  | nil =>
      apply (gives_rest_nil depth).bind
      rintro _ rfl
      exact .pure rfl
  | cons head tail ih =>
      exact (gives_rest depth).array fun _ => ih

/-- Elements are moved to the end of what is there, in order. -/
theorem gives_moved {other : Nat} {there : List Value} :
    Gives (moved depth elements.length (.array serial elements) (.array other there))
      (IsArray (there ++ elements)) := by
  -- what was moved and what is left are the elements at every step
  induction elements generalizing serial other there with
  | nil =>
      rw [List.append_nil]
      exact .pure ⟨other, rfl⟩
  | cons head tail ih =>
      apply (gives_first depth).bind
      intro item taken
      obtain rfl : item = head := taken
      apply (gives_push depth item).array
      intro longer
      apply (gives_rest depth).array
      intro shorter
      rw [List.append_cons there item tail]
      exact ih

end Answers

theorem laws (depth mark serial : Nat) (elements : List Value) (pushed : Value) :
    Laws depth mark serial elements pushed where
  len := gives_len depth
  element place value found := by
    have here : entry elements place = value := by
      rw [entry_of_nonneg _ (Int.natCast_nonneg place), Int.toNat_natCast, found, Option.getD_some]
    exact (gives_item _).eq here
  last_push := by
    apply (gives_push depth pushed).array
    intro longer
    have last : (elements ++ [pushed]).getLast?.getD .null = pushed := by
      rw [List.getLast?_concat, Option.getD_some]
    exact (gives_last depth).eq last
  len_push := by
    apply (gives_push depth pushed).array
    intro longer
    have size : ((elements ++ [pushed]).length : Int) = elements.length + 1 := by
      rw [List.length_append, List.length_singleton, Int.natCast_add, Int.natCast_one]
    exact size ▸ gives_len depth
  push_inside place start inside := by
    refine ⟨_, gives_item place, (gives_push depth pushed).array fun longer => ?_⟩
    exact (gives_item place).eq (entry_push_inside pushed start inside)
  push_end := by
    apply (gives_push depth pushed).array
    intro longer
    exact (gives_item _).eq (entry_push_end elements pushed)
  push_outside place outside := by
    apply (gives_push depth pushed).array
    intro longer
    have nothing : entry (elements ++ [pushed]) place = .null := by
      by_cases before : place < 0
      · exact entry_before _ before
      · refine entry_beyond (Int.not_lt.mp before) ?_
        rw [List.length_append, List.length_singleton]
        omega
    exact (gives_item place).eq nothing
  first := ⟨_, gives_first depth, (gives_item 0).eq (entry_zero elements)⟩
  last := ⟨_, gives_last depth, (gives_item _).eq (entry_last elements)⟩
  len_rest nonempty := by
    obtain ⟨head, tail, rfl⟩ := List.exists_cons_of_ne_nil nonempty
    apply (gives_rest depth).array
    intro shorter
    have size : (tail.length : Int) = (head :: tail).length - 1 := by
      rw [List.length_cons]
      omega
    exact size ▸ gives_len depth
  rest_item nonempty place start := by
    obtain ⟨head, tail, rfl⟩ := List.exists_cons_of_ne_nil nonempty
    refine ⟨_, gives_item _, (gives_rest depth).array fun shorter => ?_⟩
    exact (gives_item place).eq (entry_succ head tail start).symm
  rest_before nonempty place before := by
    obtain ⟨head, tail, rfl⟩ := List.exists_cons_of_ne_nil nonempty
    refine (gives_rest depth).array fun shorter => ?_
    exact (gives_item place).eq (entry_before tail before)
  rest_push nonempty := by
    obtain ⟨head, tail, rfl⟩ := List.exists_cons_of_ne_nil nonempty
    refine ⟨tail ++ [pushed], ?_, ?_⟩
    · exact (gives_push depth pushed).array fun longer => gives_rest depth
    · exact (gives_rest depth).array fun shorter => gives_push depth pushed
  dropped steps enough := gives_dropped depth enough
  exhausted := gives_dropped_all depth
  moved other := gives_moved depth

end Sequence

/-- The length of a text is that of its encoding. -/
theorem gives_len_text (depth serial : Nat) (text : String) :
    Gives (Sequence.len depth (.string serial text)) (IsNumber (utf8Bytes text).length) :=
  .called .text_length fun _ => ⟨_, rfl⟩

theorem utf8Bytes_append (text other : String) :
    utf8Bytes (text ++ other) = utf8Bytes text ++ utf8Bytes other := by
  simp [utf8Bytes]

end MonkeyLang.Eval
