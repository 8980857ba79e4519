import MonkeyLang.Proofs.Depth
import MonkeyLang.Proofs.Frame
import MonkeyLang.Proofs.Twins

/-!
Programs that share a process. Each turn evaluates a program in one of several root scopes,
with settings of its own; turns in different roots may alternate in any way. What the turns in
one root report is what they report when there are no others: the run with the others and
the run without are alike as far as the one root can see, and a turn elsewhere changes
nothing there.
-/

namespace MonkeyLang

/-- A scope that nothing has been done with and that lies in no other. -/
structure State.IsRoot (state : State) (scope : ScopeId) : Prop where
  present : scope < state.scopes.next
  empty : state.scopes.bindings scope = []
  outermost : state.scopes.outer? scope = none

/-- The bindings of a scope as they can be shown: names in order, with type and text. -/
def State.shown (state : State) (scope : ScopeId) : List (String × Tag × String) :=
  (state.scopes.bindings scope).map fun binding =>
    (binding.1, binding.2.tag, binding.2.inspect)

namespace Eval

/-- A program, the root scope it is evaluated in, and what is set before it starts. -/
structure Turn where
  root : ScopeId
  program : Node
  verbose : Bool
  level : Level
  counters : Counters

/-- What can be seen of a turn: its answer, and what it leaves in its scope. -/
structure Report where
  root : ScopeId
  tag : Tag
  text : String
  bindings : List (String × Tag × String)
  deriving DecidableEq

namespace Turn

/-- What a turn does, whatever the settings. -/
def task (turn : Turn) : ScopeId × Node :=
  (turn.root, turn.program)

def run (depth : Nat) (turn : Turn) : Eval Report := do
  modify fun state => { state with level := turn.level, counters := turn.counters }
  let value ← evaluate depth turn.program turn.root turn.verbose
  return ⟨turn.root, value.tag, value.inspect, (← get).shown turn.root⟩

/-- The state in which the program of a turn starts. -/
def ready (turn : Turn) (state : State) : State :=
  { state with
    level := if turn.verbose then .debug else turn.level
    counters := turn.counters }

def report (turn : Turn) (value : Value) (state : State) : Report :=
  ⟨turn.root, value.tag, value.inspect, state.shown turn.root⟩

theorem run_eq (depth : Nat) (turn : Turn) (before : State) : turn.run depth before =
    (evalWithin depth turn.program turn.root (turn.ready before)).map fun result =>
      (turn.report result.1 result.2, { result.2 with level := turn.level }) := by
  show (evaluate depth turn.program turn.root turn.verbose
    { before with level := turn.level, counters := turn.counters }).bind _ = _
  rw [evaluate_run]
  have start : (if turn.verbose then
      ({ before with level := .debug, counters := turn.counters } : State)
      else { before with level := turn.level, counters := turn.counters }) =
        turn.ready before := by
    unfold ready
    split <;> rfl
  rw [start]
  cases evalWithin depth turn.program turn.root (turn.ready before) <;> rfl

end Turn

def runTurns (depth : Nat) : List Turn → Eval (List Report)
  | [] => return []
  | turn :: rest => do
      let report ← turn.run depth
      return report :: (← runTurns depth rest)

theorem runTurns_cons {depth : Nat} {turn : Turn} {rest : List Turn} {before after : State}
    {reports : List Report} (run : runTurns depth (turn :: rest) before = some (reports, after)) :
    ∃ value middle others, evalWithin depth turn.program turn.root (turn.ready before) =
        some (value, middle) ∧
      runTurns depth rest { middle with level := turn.level } = some (others, after) ∧
      reports = turn.report value middle :: others := by
  obtain ⟨report, middle, first, run⟩ := exists_of_bind_run run
  obtain ⟨others, last, rest_run, run⟩ := exists_of_bind_run run
  cases run
  rw [Turn.run_eq] at first
  obtain ⟨⟨value, middle⟩, started, ends⟩ := Option.map_eq_some_iff.mp first
  cases ends
  exact ⟨value, middle, others, started, rest_run, rfl⟩

theorem runTurns_cons_of {depth : Nat} {turn : Turn} {rest : List Turn}
    {before middle after : State} {value : Value} {reports : List Report}
    (run : evalWithin depth turn.program turn.root (turn.ready before) = some (value, middle))
    (others : runTurns depth rest { middle with level := turn.level } = some (reports, after)) :
    runTurns depth (turn :: rest) before = some (turn.report value middle :: reports, after) := by
  have first : turn.run depth before =
      some (turn.report value middle, { middle with level := turn.level }) := by
    rw [Turn.run_eq, run]
    rfl
  rw [runTurns, bind_run_of first, bind_run_of others]
  rfl

end Eval

/-- Nothing is connected yet. -/
def Link.none (left right : Nat) : Link where
  left := left
  right := right
  pairs _ _ := False
  lt := False.elim
  iff := False.elim

/-- One number stands for itself. -/
def Link.only {number count : Nat} (below : number < count) : Link where
  left := count
  right := count
  pairs here there := here = number ∧ there = number
  lt := by
    rintro here there ⟨rfl, rfl⟩
    exact ⟨below, below⟩
  iff := by
    rintro here there here' there' ⟨rfl, rfl⟩ ⟨rfl, rfl⟩
    exact Iff.rfl

/-- Numbers are handed out on the left to which nothing corresponds. -/
def Link.skip (link : Link) {left : Nat} (le : link.left ≤ left) : Link where
  left := left
  right := link.right
  pairs := link.pairs
  lt paired := ⟨Nat.lt_of_lt_of_le (link.lt paired).1 le, (link.lt paired).2⟩
  iff := link.iff

namespace Eval.Sessions

open Twins

/-- The run with all turns and the run with those in one root: they are alike, and on the left no
scope but the root and such as were opened since the beginning is paired. -/
structure Abreast (base : Nat) (root : ScopeId) (pairing : Pairing) (left right : State) :
    Prop where
  held : Held left.counters right.counters pairing left right
  own : pairing.scopes root root
  secluded {here there} : pairing.scopes here there → here = root ∨ base ≤ here
  grown : base ≤ left.scopes.next

variable {base depth : Nat} {root : ScopeId} {pairing : Pairing} {left right after : State}
  {value : Value}

/-- Bindings that are alike are shown in the same way. -/
theorem shown_eq {entries others : List (String × Value)}
    (matched : Assoc.Matched (Value.Alike pairing) entries others) :
    (entries.map fun binding => (binding.1, binding.2.tag, binding.2.inspect)) =
      others.map fun binding => (binding.1, binding.2.tag, binding.2.inspect) := by
  induction matched with
  | nil => rfl
  | cons head _ ih => rw [List.map_cons, List.map_cons, ih, head.1, head.2.tag, head.2.inspect]

theorem start {before : State} (fresh : before.IsRoot root) :
    Abreast before.scopes.next root
      ⟨.none before.nextSerial before.nextSerial, .only fresh.present⟩ before before where
  held :=
    { serials := ⟨rfl, rfl⟩
      scopes := ⟨rfl, rfl⟩
      counters := .start _ _
      bindings := by
        rintro here there ⟨rfl, rfl⟩
        rw [fresh.empty]
        exact .nil
      outer := by
        rintro here there ⟨rfl, rfl⟩
        rw [fresh.outermost]
        exact .none }
  own := ⟨rfl, rfl⟩
  secluded paired := .inl paired.1
  grown := Nat.le_refl _

/-- A turn in the root goes the same way on both sides, with whatever settings. -/
theorem Abreast.own_turn (abreast : Abreast base root pairing left right) {turn other : Turn}
    (task : other.task = turn.task) (home : turn.root = root)
    (run : evalWithin depth turn.program turn.root (turn.ready left) = some (value, after)) :
    ∃ answer final later,
      evalWithin depth other.program other.root (other.ready right) = some (answer, final) ∧
      other.report answer final = turn.report value after ∧
      Abreast base root later { after with level := turn.level }
        { final with level := other.level } := by
  obtain ⟨same_root, same_program⟩ := Prod.mk.inj task
  have ready : Held turn.counters other.counters pairing (turn.ready left) (other.ready right) :=
    abreast.held.of_same rfl rfl rfl rfl (.start _ _)
  have own : pairing.scopes turn.root other.root := by
    rw [same_root, home]
    exact abreast.own
  obtain ⟨answer, final, later, twin, le, alike, held⟩ := ready.evalWithin own run
  refine ⟨answer, final, later, same_program ▸ twin, ?_, ?_⟩
  · have bindings := shown_eq (held.bindings (le.2.pairs own))
    rw [Turn.report, Turn.report, alike.tag, alike.inspect, same_root, State.shown, State.shown]
    rw [same_root] at bindings
    rw [bindings]
  · exact
      { held := held.of_same rfl rfl rfl rfl (.start _ _)
        own := le.2.pairs abreast.own
        secluded := by
          intro here there paired
          by_cases old : here < pairing.scopes.left
          · exact abreast.secluded (le.2.old paired old)
          · rw [abreast.held.scopes.1] at old
            exact .inr (Nat.le_trans abreast.grown (Nat.le_of_not_lt old))
        grown := by
          have grown := le.2.left
          rw [abreast.held.scopes.1, held.scopes.1] at grown
          exact Nat.le_trans abreast.grown grown }

/-- A turn in another root is not noticed. -/
theorem Abreast.other_turn (abreast : Abreast base root pairing left right) {turn : Turn}
    (away : turn.root ≠ root) (present : turn.root < base)
    (run : evalWithin depth turn.program turn.root (turn.ready left) = some (value, after)) :
    ∃ later, Abreast base root later { after with level := turn.level } right := by
  have still_present : turn.root < (turn.ready left).scopes.next :=
    Nat.lt_of_lt_of_le present abreast.grown
  have writes := evalWithin_writes still_present run
  have serials := evalWithin_nextSerial_le run
  have fewer : pairing.serials.left ≤ after.nextSerial := abreast.held.serials.1 ▸ serials
  have older : pairing.scopes.left ≤ after.scopes.next := abreast.held.scopes.1 ▸ writes.grown
  -- what is paired is neither the other root nor one of the scopes that the turn opened
  have old {here there : ScopeId} (paired : pairing.scopes here there) :
      here < left.scopes.next := abreast.held.scopes.1 ▸ (pairing.scopes.lt paired).1
  have untouched {here there : ScopeId} (paired : pairing.scopes here there) :
      some turn.root ≠ some here := by
    intro same
    cases same
    rcases abreast.secluded paired with home | new
    · exact away home
    · exact Nat.not_lt_of_le new present
  let later : Pairing := ⟨pairing.serials.skip fewer, pairing.scopes.skip older⟩
  have within : pairing.Within later := ⟨id, id⟩
  refine ⟨later, ?_⟩
  exact
    { held :=
        { serials := ⟨rfl, abreast.held.serials.2⟩
          scopes := ⟨rfl, abreast.held.scopes.2⟩
          counters := .start _ _
          bindings := by
            intro here there paired
            rw [writes.other here (old paired) (untouched paired)]
            exact (abreast.held.bindings paired).imp fun _ _ alike => alike.imp within
          outer := by
            intro here there paired
            rw [writes.link here (old paired)]
            exact abreast.held.outer paired }
      own := abreast.own
      secluded := abreast.secluded
      grown := Nat.le_trans abreast.grown writes.grown }

theorem Abreast.turns (abreast : Abreast base root pairing left right) {turns solo : List Turn}
    {reports : List Report} (present : ∀ turn ∈ turns, turn.root < base)
    (tasks : solo.map Turn.task = (turns.filter fun turn => turn.root = root).map Turn.task)
    (run : runTurns depth turns left = some (reports, after)) :
    ∃ final, runTurns depth solo right =
      some (reports.filter fun report => report.root = root, final) := by
  induction turns generalizing solo reports pairing left right with
  | nil =>
      cases run
      rw [List.map_eq_nil_iff.mp tasks]
      exact ⟨right, rfl⟩
  | cons turn rest ih =>
      obtain ⟨value, middle, others, started, rest_run, rfl⟩ := runTurns_cons run
      have rest_present : ∀ turn ∈ rest, turn.root < base := fun turn member =>
        present turn (List.mem_cons_of_mem _ member)
      have reporter : (turn.report value middle).root = turn.root := rfl
      rw [List.filter_cons] at tasks ⊢
      by_cases home : turn.root = root
      · rw [if_pos (decide_eq_true home), List.map_cons] at tasks
        obtain ⟨other, solo, rfl, task, tasks⟩ := List.map_eq_cons_iff.mp tasks
        obtain ⟨answer, middle', later, twin, same, abreast⟩ := abreast.own_turn task home started
        obtain ⟨final, solo_run⟩ := ih abreast rest_present tasks rest_run
        refine ⟨final, ?_⟩
        rw [if_pos (decide_eq_true (reporter.trans home)), ← same]
        exact runTurns_cons_of twin solo_run
      · rw [if_neg (by rwa [decide_eq_true_eq])] at tasks
        obtain ⟨later, abreast⟩ := abreast.other_turn home (present turn List.mem_cons_self) started
        obtain ⟨final, solo_run⟩ := ih abreast rest_present tasks rest_run
        rw [if_neg (by rwa [decide_eq_true_eq, reporter])]
        exact ⟨final, solo_run⟩

end Eval.Sessions

namespace Eval

/-- Turns in several scopes, in any order and with any settings, report for a root among these what
the turns in it report without the others, with whatever settings those have then. -/
theorem runTurns_separate {depth : Nat} {before after : State} {turns : List Turn}
    {reports : List Report} (present : ∀ turn ∈ turns, turn.root < before.scopes.next)
    (run : runTurns depth turns before = some (reports, after)) {root : ScopeId}
    (fresh : before.IsRoot root) {solo : List Turn}
    (tasks : solo.map Turn.task = (turns.filter fun turn => turn.root = root).map Turn.task) :
    ∃ final, runTurns depth solo before =
      some (reports.filter fun report => report.root = root, final) :=
  (Sessions.start fresh).turns present tasks run

/-- Two roots, of which neither has been used. -/
def twoRoots : State :=
  { State.initial with scopes := State.initial.scopes.create none }

/-- `let a = [1];`, for both roots in turn, and then `a == a` in the first of them. -/
def alternating : List Turn :=
  [⟨0, .letStatement "a" (.arrayLiteral [.integerLiteral 1]), true, .none, {}⟩,
    ⟨1, .letStatement "a" (.arrayLiteral [.integerLiteral 1]), false, .error, {}⟩,
    ⟨0, .infixExpression (.identifier "a") .equal (.identifier "a"), false, .debug, {}⟩]

/-- The turns in the first root alone, and with other settings. -/
def firstAlone : List Turn :=
  [⟨0, .letStatement "a" (.arrayLiteral [.integerLiteral 1]), false, .error, {}⟩,
    ⟨0, .infixExpression (.identifier "a") .equal (.identifier "a"), true, .none, { errors := 3 }⟩]

theorem runTurns_separate_alternating : ∃ reports after final,
    runTurns 4 alternating twoRoots = some (reports, after) ∧
      runTurns 4 firstAlone twoRoots =
        some (reports.filter fun report => report.root = 0, final) := by
  have together : ∃ reports after, runTurns 4 alternating twoRoots = some (reports, after) :=
    ⟨_, _, rfl⟩
  rcases together with ⟨reports, after, together⟩
  have present : ∀ turn ∈ alternating, turn.root < twoRoots.scopes.next := by
    simp [alternating, twoRoots, State.initial, Scopes.next, Scopes.create, Scopes.empty]
  have fresh : twoRoots.IsRoot 0 := ⟨by decide, rfl, rfl⟩
  have tasks : firstAlone.map Turn.task =
      (alternating.filter fun turn => turn.root = 0).map Turn.task := rfl
  obtain ⟨final, alone⟩ := runTurns_separate present together fresh tasks
  exact ⟨reports, after, final, together, alone⟩

end Eval

end MonkeyLang
