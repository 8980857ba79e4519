import MonkeyLang.Console.Style
import MonkeyLang.Text.Alphanumeric

/-!
Style markup on a console without styles. A piece in brackets that starts with a
lower-case letter or one of `#`, `/` and `@` is a tag and is not shown. A backslash
before a tag makes it text, two stand for one backslash, and so on. A tag with a slash
ends the style it names, or else the latest one, and that style must have been begun.
-/

namespace MonkeyLang.Console

/-- The name of a tag and what stands behind its first equals sign. -/
structure Tag where
  name : List Char
  parameters : Option (List Char)
  deriving DecidableEq, Repr

/-- A tag by the text between its brackets. -/
def Tag.ofText (text : List Char) : Tag where
  name := text.takeWhile (· ≠ '=')
  parameters := if text.contains '=' then some ((text.dropWhile (· ≠ '=')).drop 1) else none

inductive Piece where
  | text (chars : List Char)
  | tag (tag : Tag)
  deriving DecidableEq, Repr

def opensTag (char : Char) : Bool :=
  ('a' ≤ char && char ≤ 'z') || char == '#' || char == '/' || char == '@'

/-- The text of a tag behind its opening bracket, and what follows its closing one. A tag
has no bracket inside. -/
def takeTag : List Char → Option (List Char × List Char)
  | first :: rest =>
      if opensTag first then
        let inside := fun char => char ≠ '[' && char ≠ ']'
        match rest.dropWhile inside with
        | ']' :: behind => some (first :: rest.takeWhile inside, behind)
        | _ => none
      else none
  | [] => none

def backslashes (count : Nat) : List Char :=
  List.replicate count '\\'

/-- The pieces of a text from some place on, before which `pending` backslashes stand. -/
def piecesWithin : Nat → Nat → List Char → List Piece
  | 0, pending, text => [.text (backslashes pending ++ text)]
  | _ + 1, pending, [] => [.text (backslashes pending)]
  | bound + 1, pending, '\\' :: rest => piecesWithin bound (pending + 1) rest
  | bound + 1, pending, '[' :: rest =>
      match takeTag rest with
      | some (inside, behind) =>
          let tag := if pending % 2 = 1 then Piece.text ('[' :: inside ++ [']'])
            else .tag (.ofText inside)
          .text (backslashes (pending / 2)) :: tag :: piecesWithin bound 0 behind
      | none => .text (backslashes (pending - 1) ++ ['[']) :: piecesWithin bound 0 rest
  | bound + 1, pending, char :: rest =>
      let plain := fun char => char ≠ '\\' && char ≠ '['
      .text (backslashes pending ++ char :: rest.takeWhile plain) ::
        piecesWithin bound 0 (rest.dropWhile plain)

def pieces (text : List Char) : List Piece :=
  piecesWithin text.length 0 text

/-- Why markup has no meaning. -/
inductive MarkupFault where
  | nothingToClose
  | notOpen (style : String)
  | unreadableParameters (text : List Char)
  deriving DecidableEq, Repr

def MarkupFault.message : MarkupFault → String
  | nothingToClose => "closing tag '[/]' has nothing to close"
  | notOpen style => "closing tag '[/" ++ style ++ "]' doesn't match any open tag"
  | unreadableParameters text => "error parsing '" ++ String.ofList text ++ "'"

/-- A style that was begun, in normal form. -/
structure OpenTag where
  style : String
  parameters : Option (List Char)
  deriving DecidableEq, Repr

/-- Whether a word is a constant: a number, one of three names, or a text in quotes. -/
def isConstant (word : List Char) : Bool :=
  ["None", "True", "False"].contains (String.ofList word) ||
    (readNumber word).isSome ||
    match word with
    | mark :: rest =>
        (mark == '\'' || mark == '"') && rest.getLast? == some mark &&
          rest.dropLast.all fun char => char != mark && char != '\\' && char != '\n'
    | [] => false

/-- Whether parameters can be read: a name that may have constants in brackets behind it,
or constants alone. -/
def parametersReadable (text : List Char) : Bool :=
  let text := Text.strip text
  let named := fun char => Text.isAlphanumeric char || char == '_' || char == '.'
  let areConstants := fun (text : List Char) =>
    (text.splitOn ',').all fun word => isConstant (Text.strip word)
  match text.dropWhile named with
  | [] => true
  | '(' :: rest =>
      rest.getLast? == some ')' && (rest.dropLast.all Text.isBlank || areConstants rest.dropLast)
  | _ => areConstants text

/-- The end of a style. A style whose name starts with `@` carries parameters. -/
def OpenTag.close (tag : OpenTag) : Except MarkupFault Unit :=
  match tag.parameters with
  | some text =>
      if "@".isPrefixOf tag.style && !text.isEmpty && !parametersReadable text then
        .error (.unreadableParameters text)
      else .ok ()
  | none => .ok ()

/-- Take the latest style of a given form from those that are open. -/
def takeOpen (style : String) : List OpenTag → Option (OpenTag × List OpenTag)
  | [] => none
  | tag :: rest =>
      if tag.style = style then some (tag, rest)
      else (takeOpen style rest).map fun found => (found.1, tag :: found.2)

/-- Follow a tag, given the open styles with the latest first. -/
def follow (tag : Tag) (stack : List OpenTag) : Except MarkupFault (List OpenTag) :=
  match tag.name with
  | '/' :: name =>
      let name := Text.strip name
      if name.isEmpty then
        match stack with
        | [] => .error .nothingToClose
        | latest :: rest => do
            latest.close
            return rest
      else
        match takeOpen (Style.normalForm name) stack with
        | none => .error (.notOpen (String.ofList name))
        | some (found, rest) => do
            found.close
            return rest
  | name => .ok (⟨Style.normalForm name, tag.parameters⟩ :: stack)

/-- What is shown of pieces, given the open styles. -/
def showPieces : List OpenTag → List Piece → Except MarkupFault (List Char)
  | _, [] => .ok []
  | stack, .text chars :: rest => do return chars ++ (← showPieces stack rest)
  | stack, .tag tag :: rest => do showPieces (← follow tag stack) rest

/-- The text that a reader of the console sees. -/
def shown (text : List Char) : Except MarkupFault (List Char) :=
  showPieces [] (pieces text)

/-- Double the backslashes before every tag and add one. -/
def escapeWithin : Nat → Nat → List Char → List Char
  | 0, pending, text => backslashes pending ++ text
  | _ + 1, pending, [] => backslashes pending
  | bound + 1, pending, '\\' :: rest => escapeWithin bound (pending + 1) rest
  | bound + 1, pending, '[' :: rest =>
      match takeTag rest with
      | some (inside, behind) =>
          backslashes (2 * pending + 1) ++ '[' :: inside ++ ']' :: escapeWithin bound 0 behind
      | none => backslashes pending ++ '[' :: escapeWithin bound 0 rest
  | bound + 1, pending, char :: rest =>
      backslashes pending ++ char :: escapeWithin bound 0 rest

/-- Markup that shows a text whose brackets are not meant as tags. One backslash at the
end is doubled, so that a tag may follow. -/
def escapeMarkup (text : List Char) : List Char :=
  let escaped := escapeWithin text.length 0 text
  match escaped.reverse with
  | '\\' :: '\\' :: _ => escaped
  | '\\' :: _ => escaped ++ ['\\']
  | _ => escaped

/-- A text in a style, with its own brackets kept. -/
def styled (style : String) (text : List Char) : List Char :=
  '[' :: style.toList ++ ']' :: text ++ '[' :: '/' :: style.toList ++ [']']

end MonkeyLang.Console
