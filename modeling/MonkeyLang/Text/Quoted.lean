import MonkeyLang.Text.Hidden

/-!
Texts in quotes, as error messages and the log show them. A text stands in single
quotes unless it holds a single quote and no double quote. The closing quote and
the backslash are escaped, and so is every character that would not be seen.
-/

namespace MonkeyLang.Text

/-- A number in lower-case hexadecimal, padded with zeros to a width. -/
def hex (width value : Nat) : List Char :=
  let digits := Nat.toDigits 16 value
  List.replicate (width - digits.length) '0' ++ digits

def quoteMark (text : List Char) : Char :=
  if text.contains '\'' && !text.contains '"' then '"' else '\''

/-- One character inside the given quotes. A hidden character is written by its
code point, in two, four or eight digits. -/
def escape (mark char : Char) : List Char :=
  if char = mark ∨ char = '\\' then ['\\', char]
  else if char = '\n' then ['\\', 'n']
  else if char = '\r' then ['\\', 'r']
  else if char = '\t' then ['\\', 't']
  else if !isHidden char then [char]
  else if char.toNat < 0x100 then '\\' :: 'x' :: hex 2 char.toNat
  else if char.toNat < 0x10000 then '\\' :: 'u' :: hex 4 char.toNat
  else '\\' :: 'U' :: hex 8 char.toNat

def quoted (text : String) : String :=
  let chars := text.toList
  let mark := quoteMark chars
  String.ofList (mark :: chars.flatMap (escape mark) ++ [mark])

/-- Quoted texts in brackets. -/
def quotedList (texts : List String) : String :=
  "[" ++ ", ".intercalate (texts.map quoted) ++ "]"

end MonkeyLang.Text
