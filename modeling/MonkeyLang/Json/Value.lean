import MonkeyLang.Number.Shortest
import MonkeyLang.Text.Quoted

/-!
JSON values. Integers have any size and are kept apart from numbers with a point
or an exponent. The members of an object stand in order of first arrival, each
name once.
-/

namespace MonkeyLang.Json

inductive Value where
  | null
  | boolean (value : Bool)
  | integer (value : Int)
  | float (value : Binary64)
  | string (text : String)
  | array (elements : List Value)
  | object (members : List (String × Value))
  deriving Repr

instance : Inhabited Value := ⟨.null⟩

/-- The type of a value, as messages call it. -/
inductive Shape where
  | null
  | boolean
  | integer
  | float
  | string
  | array
  | object
  deriving DecidableEq, Repr

def Shape.name : Shape → String
  | null => "NoneType"
  | boolean => "bool"
  | integer => "int"
  | float => "float"
  | string => "str"
  | array => "list"
  | object => "dict"

namespace Value

def shape : Value → Shape
  | null => .null
  | boolean _ => .boolean
  | integer _ => .integer
  | float _ => .float
  | string _ => .string
  | array _ => .array
  | object _ => .object

mutual

/-- The text of a value inside a message. -/
def display : Value → String
  | null => "None"
  | boolean value => if value then "True" else "False"
  | integer value => toString value
  | float value => value.render
  | string text => Text.quoted text
  | array elements => "[" ++ ", ".intercalate (displayAll elements) ++ "]"
  | object members => "\x7b" ++ ", ".intercalate (displayMembers members) ++ "\x7d"

def displayAll : List Value → List String
  | [] => []
  | value :: rest => value.display :: displayAll rest

def displayMembers : List (String × Value) → List String
  | [] => []
  | (name, value) :: rest => (Text.quoted name ++ ": " ++ value.display) :: displayMembers rest

end

mutual

/-- How deeply arrays and objects are nested. -/
def depth : Value → Nat
  | array elements => depthAll elements + 1
  | object members => depthMembers members + 1
  | _ => 0

def depthAll : List Value → Nat
  | [] => 0
  | value :: rest => max value.depth (depthAll rest)

def depthMembers : List (String × Value) → Nat
  | [] => 0
  | (_, value) :: rest => max value.depth (depthMembers rest)

end

theorem depth_le_depthAll {value : Value} {values : List Value} (member : value ∈ values) :
    value.depth ≤ depthAll values := by
  induction values with
  | nil => cases member
  | cons first rest ih =>
      simp only [depthAll]
      rcases List.mem_cons.mp member with same | later
      · subst same; omega
      · have := ih later; omega

theorem depth_le_depthMembers {name : String} {value : Value} {members : List (String × Value)}
    (found : members.lookup name = some value) : value.depth ≤ depthMembers members := by
  induction members with
  | nil => cases found
  | cons first rest ih =>
      obtain ⟨key, held⟩ := first
      simp only [List.lookup_cons] at found
      simp only [depthMembers]
      split at found
      · cases found; omega
      · have := ih found; omega

end Value

end MonkeyLang.Json
