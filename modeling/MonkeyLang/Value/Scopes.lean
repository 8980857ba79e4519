import MonkeyLang.Assoc
import MonkeyLang.Text.Quoted
import MonkeyLang.Value.Basic

/-!
The store of scopes. A scope holds its own bindings in order of first binding and
may be enclosed by an older scope. Scopes are numbered as they are created and
are never removed; binding a name writes to one scope only.
-/

namespace MonkeyLang

structure Scope where
  bindings : List (String × Value)
  outer : Option ScopeId

structure Scopes where
  table : Array Scope

namespace Scopes

def empty : Scopes :=
  ⟨#[]⟩

/-- The number that the next scope will get. -/
def next (scopes : Scopes) : ScopeId :=
  scopes.table.size

/-- Add a scope without bindings; its number is `scopes.next`. -/
def create (scopes : Scopes) (outer : Option ScopeId) : Scopes :=
  ⟨scopes.table.push ⟨[], outer⟩⟩

/-- The bindings of one scope, without those of the scopes around it. -/
def bindings (scopes : Scopes) (scope : ScopeId) : List (String × Value) :=
  match scopes.table[scope]? with
  | some found => found.bindings
  | none => []

def outer? (scopes : Scopes) (scope : ScopeId) : Option ScopeId :=
  scopes.table[scope]?.bind Scope.outer

def bind (scopes : Scopes) (scope : ScopeId) (name : String) (value : Value) : Scopes :=
  ⟨scopes.table.modify scope fun found =>
    { found with bindings := Assoc.insert name value found.bindings }⟩

/-- Bind several names in turn; of a repeated name the last value stays. -/
def bindAll (scopes : Scopes) (scope : ScopeId) : List (String × Value) → Scopes
  | [] => scopes
  | (name, value) :: rest => (scopes.bind scope name value).bindAll scope rest

/-- At most `bound` scopes, from the given one outwards. -/
def chainWithin (scopes : Scopes) : Nat → ScopeId → List ScopeId
  | 0, _ => []
  | bound + 1, scope =>
      scope :: match scopes.outer? scope with
        | some outer => scopes.chainWithin bound outer
        | none => []

/-- The scope and those around it. Each encloses only younger ones, so a chain has
no more members than the number of its first scope allows. -/
def chain (scopes : Scopes) (scope : ScopeId) : List ScopeId :=
  scopes.chainWithin (scope + 1) scope

/-- The binding in the nearest scope of the chain that has one. -/
def lookup? (scopes : Scopes) (scope : ScopeId) (name : String) : Option Value :=
  (scopes.chain scope).findSome? fun member => (scopes.bindings member).lookup name

/-- The loop of `get`: at most `bound` scopes are visited, outwards from the given one. -/
def getWithin (scopes : Scopes) (name : String) (default : Option Value) :
    Nat → Option ScopeId → Option Value
  | 0, _ => default
  | _ + 1, none => default
  | bound + 1, some scope =>
      match (scopes.bindings scope).lookup name with
      | some value => some value
      | none => scopes.getWithin name default bound (scopes.outer? scope)

/-- The value of a name, or the default. What is not a value of the language, such as the
mark by which `subscript` knows that nothing was found, is `none`. -/
def get (scopes : Scopes) (scope : ScopeId) (name : String) (default : Option Value) :
    Option Value :=
  scopes.getWithin name default (scope + 1) (some scope)

def containsWithin (scopes : Scopes) (name : String) : Nat → ScopeId → Bool
  | 0, _ => false
  | bound + 1, scope =>
      if name ∈ Assoc.keys (scopes.bindings scope) then true
      else
        match scopes.outer? scope with
        | some outer => scopes.containsWithin name bound outer
        | none => false

/-- Whether a name is bound in a scope or in one around it. -/
def contains (scopes : Scopes) (scope : ScopeId) (name : String) : Bool :=
  scopes.containsWithin name (scope + 1) scope

/-- The refusal of a subscript: the name is bound nowhere. -/
structure KeyError where
  name : String
  deriving DecidableEq, Repr

def subscript (scopes : Scopes) (scope : ScopeId) (name : String) : Except KeyError Value :=
  match scopes.get scope name none with
  | some value => .ok value
  | none => .error ⟨name⟩

/-- The number of scopes around a scope. -/
def depth (scopes : Scopes) (scope : ScopeId) : Nat :=
  (scopes.chain scope).length - 1

def names (scopes : Scopes) (scope : ScopeId) : List String :=
  Assoc.keys (scopes.bindings scope)

/-- A scope as it is shown: its own names in alphabetical order, and its depth. -/
def describe (scopes : Scopes) (scope : ScopeId) : String :=
  let sorted := (scopes.names scope).mergeSort fun left right => decide (left ≤ right)
  "Environment(names=" ++ Text.quotedList sorted ++ s!", depth={scopes.depth scope})"

end Scopes

end MonkeyLang
