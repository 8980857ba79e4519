import MonkeyLang.Text.Quoted

/-!
The verbosity of the log. The levels are ordered, and a message of a level is
admitted when the configured level is at least as high; nothing is logged at the
lowest one.
-/

namespace MonkeyLang

inductive Level where
  | none
  | error
  | debug
  deriving DecidableEq, Repr

namespace Level

def name : Level → String
  | none => "none"
  | error => "error"
  | debug => "debug"

def rank : Level → Nat
  | none => 0
  | error => 1
  | debug => 2

def all : List Level :=
  [none, error, debug]

def ofName? (text : String) : Option Level :=
  all.find? fun level => level.name == text

/-- Whether a message of a level passes the configured threshold. -/
def admits (configured message : Level) : Bool :=
  message != none && message.rank ≤ configured.rank

/-- Words that switch the log fully on. -/
def affirmations : List String :=
  ["1", "true", "yes", "on"]

/-- The level that a setting from the surroundings asks for. Case and blanks at the
ends do not matter, and a setting that means nothing leaves the log off. -/
def ofSetting : Option String → Level
  | .none => none
  | some raw =>
      let word := (String.ofList (Text.strip raw.toList)).toLower
      match ofName? word with
      | some level => level
      | .none => if affirmations.contains word then debug else none

/-- A level name that does not exist. -/
structure Invalid where
  text : String

def Invalid.message (invalid : Invalid) : String :=
  "invalid debug level " ++ Text.quoted invalid.text ++ "; expected one of " ++
    ", ".intercalate (all.map name)

def parse (text : String) : Except Invalid Level :=
  match ofName? text with
  | some level => .ok level
  | .none => .error ⟨text⟩

/-- Whether messages of a named level are logged; of an unknown level none is. -/
def admitsNamed (configured : Level) (text : String) : Bool :=
  match ofName? text with
  | some message => configured.admits message
  | .none => false

/-- The configuration as it is shown. -/
def describe (level : Level) : String :=
  "Config(debug_level=" ++ Text.quoted level.name ++ ")"

end Level

end MonkeyLang
