import MonkeyLang.Console.Color
import MonkeyLang.Text.Ranges

/-!
Styles as they are written in words, such as `bold red on white`. Words that mean the same
style have one normal form, by which the end of a style finds its beginning.
-/

namespace MonkeyLang.Console

inductive Emphasis where
  | bold
  | dim
  | italic
  | underline
  | blink
  | blink2
  | reverse
  | conceal
  | strike
  | underline2
  | frame
  | encircle
  | overline
  deriving DecidableEq, Repr

namespace Emphasis

def name : Emphasis → String
  | bold => "bold"
  | dim => "dim"
  | italic => "italic"
  | underline => "underline"
  | blink => "blink"
  | blink2 => "blink2"
  | reverse => "reverse"
  | conceal => "conceal"
  | strike => "strike"
  | underline2 => "underline2"
  | frame => "frame"
  | encircle => "encircle"
  | overline => "overline"

/-- The emphases in the order of the normal form. -/
def all : List Emphasis :=
  [bold, dim, italic, underline, blink, blink2, reverse, conceal, strike, underline2, frame,
    encircle, overline]

/-- The short names. -/
def abbreviations : List (String × Emphasis) :=
  [("d", dim), ("b", bold), ("i", italic), ("u", underline), ("r", reverse), ("c", conceal),
    ("s", strike), ("uu", underline2), ("o", overline)]

def ofName? (text : String) : Option Emphasis :=
  match abbreviations.lookup text with
  | some emphasis => some emphasis
  | none => all.find? fun emphasis => emphasis.name == text

end Emphasis

/-- What a style says about each emphasis, and about colours and a link. -/
structure Style where
  emphasis : Emphasis → Option Bool := fun _ => none
  colour : Option String := none
  background : Option String := none
  link : Option String := none

namespace Style

def set (style : Style) (emphasis : Emphasis) (on : Bool) : Style :=
  { style with
    emphasis := fun other => if other = emphasis then some on else style.emphasis other }

/-- Add what words say to a style; there is none when a word has no meaning. Case matters
in a link and behind `not`. -/
def read (style : Style) : List String → Option Style
  | [] => some style
  | word :: rest =>
      match word.toLower with
      | "on" =>
          match rest with
          | colour :: rest =>
              if isColour colour.toLower then
                read { style with background := some colour.toLower } rest
              else none
          | [] => none
      | "not" =>
          match rest with
          | name :: rest =>
              match Emphasis.ofName? name with
              | some emphasis => read (style.set emphasis false) rest
              | none => none
          | [] => none
      | "link" =>
          match rest with
          | target :: rest => read { style with link := some target } rest
          | [] => none
      | word =>
          match Emphasis.ofName? word with
          | some emphasis => read (style.set emphasis true) rest
          | none => if isColour word then read { style with colour := some word } rest else none

/-- The words of a style in a fixed order. -/
def render (style : Style) : String :=
  let emphases := Emphasis.all.filterMap fun emphasis =>
    (style.emphasis emphasis).map fun on =>
      if on then emphasis.name else "not " ++ emphasis.name
  let words := emphases ++ style.colour.toList ++
    (style.background.map fun colour => "on " ++ colour).toList ++
    (style.link.map fun target => "link " ++ target).toList
  if words.isEmpty then "none" else " ".intercalate words

/-- The normal form of a style. Words that name no style stand for themselves, in lower
case; only the letters from A to Z have one. -/
def normalForm (text : List Char) : String :=
  let bare := String.ofList (Text.strip text)
  if bare = "none" || text.isEmpty then "none"
  else
    match read {} ((Text.words text).map String.ofList) with
    | some style => style.render
    | none => bare.toLower

end Style

end MonkeyLang.Console
