import MonkeyLang.Syntax.Render
import MonkeyLang.Value.Basic

/-!
Texts of values. `inspect` is what a program's user sees, `describe` adds the
type, and `display` is the form that the log embeds in a message.
-/

namespace MonkeyLang.Value

mutual

def inspect : Value → String
  | integer _ value => toString value
  | string _ text => text
  | boolean value => if value then "true" else "false"
  | null => "null"
  | array _ elements => "[" ++ ", ".intercalate (inspectAll elements) ++ "]"
  | hash _ entries => "\x7b" ++ ", ".intercalate (inspectEntries entries) ++ "\x7d"
  | function _ parameters body _ =>
      "fn(" ++ ", ".intercalate parameters ++ ") \x7b\n" ++ body.render ++ "\n\x7d"
  | builtin callee => "<built-in function: " ++ callee.name ++ ">"
  | failing _ name _ => "<built-in function: " ++ name ++ ">"
  | returned _ value => value.inspect
  | error _ fault => "ERROR: " ++ fault.message

def inspectAll : List Value → List String
  | [] => []
  | value :: rest => value.inspect :: inspectAll rest

def inspectEntries : List (HashKey × Value × Value) → List String
  | [] => []
  | (_, key, value) :: rest => (key.inspect ++ ": " ++ value.inspect) :: inspectEntries rest

end

theorem inspect_array (serial : Nat) (elements : List Value) :
    (array serial elements).inspect = "[" ++ ", ".intercalate (inspectAll elements) ++ "]" :=
  rfl

theorem inspect_hash (serial : Nat) (entries : List (HashKey × Value × Value)) :
    (hash serial entries).inspect =
      "\x7b" ++ ", ".intercalate (inspectEntries entries) ++ "\x7d" :=
  rfl

theorem inspect_returned (serial : Nat) (value : Value) :
    (returned serial value).inspect = value.inspect :=
  rfl

theorem inspectAll_eq_map (values : List Value) : inspectAll values = values.map inspect := by
  induction values with
  | nil => rfl
  | cons value rest ih => simp [inspectAll, ih]

theorem inspectEntries_eq_map (entries : List (HashKey × Value × Value)) :
    inspectEntries entries =
      entries.map fun entry => entry.2.1.inspect ++ ": " ++ entry.2.2.inspect := by
  induction entries with
  | nil => rfl
  | cons entry rest ih => simp [inspectEntries, ih]

def describe (value : Value) : String :=
  "<" ++ value.tag.name ++ " " ++ value.inspect ++ ">"

/-- Strings and errors show their bare text, all else its description. -/
def display : Value → String
  | string _ text => text
  | error _ fault => fault.message
  | value => value.describe

end MonkeyLang.Value
