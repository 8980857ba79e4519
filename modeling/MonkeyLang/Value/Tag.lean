/-!
The types of runtime values, and the five functions that are built in.
-/

namespace MonkeyLang

inductive Tag where
  | integer
  | string
  | boolean
  | null
  | array
  | hash
  | function
  | builtin
  | returned
  | error
  deriving DecidableEq, Repr

/-- The name that error messages and hash keys show. -/
def Tag.name : Tag → String
  | integer => "INTEGER"
  | string => "STRING"
  | boolean => "BOOLEAN"
  | null => "NULL"
  | array => "ARRAY"
  | hash => "HASH"
  | function => "FUNCTION"
  | builtin => "BUILTIN"
  | returned => "RETURN_VALUE"
  | error => "ERROR"

inductive Builtin where
  | len
  | first
  | last
  | rest
  | push
  deriving DecidableEq, Repr

namespace Builtin

def name : Builtin → String
  | len => "len"
  | first => "first"
  | last => "last"
  | rest => "rest"
  | push => "push"

/-- The registry, in the order in which it is listed. -/
def all : List Builtin :=
  [len, first, last, rest, push]

def ofName? (text : String) : Option Builtin :=
  all.find? fun builtin => builtin.name == text

theorem ofName?_eq_some_iff (text : String) (builtin : Builtin) :
    ofName? text = some builtin ↔ builtin.name = text := by
  constructor
  · intro found
    simpa using List.find?_some found
  · intro named
    subst named
    cases builtin <;> rfl

end Builtin

end MonkeyLang
