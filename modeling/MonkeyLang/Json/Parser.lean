import MonkeyLang.Assoc
import MonkeyLang.Json.Value

/-!
Reading JSON text. Besides the standard grammar the numbers `NaN`, `Infinity` and
`-Infinity` are read, and a repeated member name keeps its place and takes the
later value. A complaint says what was expected and where, as the number of
characters left from there.
-/

namespace MonkeyLang.Json

inductive Complaint where
  | byteOrderMark
  | expectingValue
  | extraData
  | expectingName
  | expectingColon
  | expectingComma
  | unterminatedString
  | controlCharacter
  | invalidEscape
  | invalidUnicodeEscape
  deriving DecidableEq, Repr

def Complaint.message : Complaint → String
  | byteOrderMark => "Unexpected UTF-8 BOM (decode using utf-8-sig)"
  | expectingValue => "Expecting value"
  | extraData => "Extra data"
  | expectingName => "Expecting property name enclosed in double quotes"
  | expectingColon => "Expecting ':' delimiter"
  | expectingComma => "Expecting ',' delimiter"
  | unterminatedString => "Unterminated string starting at"
  | controlCharacter => "Invalid control character at"
  | invalidEscape => "Invalid \\escape"
  | invalidUnicodeEscape => "Invalid \\uXXXX escape"

/-- Why reading stopped. -/
inductive Stop where
  | malformed (complaint : Complaint) (left : Nat)
  /-- An integer literal with more digits than are converted. -/
  | overlong (digits : Nat)
  deriving DecidableEq, Repr

/-- The most digits that an integer literal may have. -/
def digitLimit : Nat := 4300

/-- What a parser makes of the text before it, and the text left behind. -/
abbrev Parsed (α : Type) := Except Stop (α × List Char)

def complain {α : Type} (complaint : Complaint) (place : List Char) : Except Stop α :=
  .error (.malformed complaint place.length)

def isSpace (char : Char) : Bool :=
  char == ' ' || char == '\t' || char == '\n' || char == '\r'

def skipSpace (text : List Char) : List Char :=
  text.dropWhile isSpace

def digitsValue (digits : List Char) : Nat :=
  digits.foldl (fun value digit => value * 10 + (digit.toNat - '0'.toNat)) 0

/-- The digits of a fraction after a point; without a digit there is no fraction. -/
def takeFraction : List Char → List Char × List Char
  | '.' :: rest =>
      match rest.takeWhile Char.isDigit with
      | [] => ([], '.' :: rest)
      | digits => (digits, rest.dropWhile Char.isDigit)
  | text => ([], text)

/-- An exponent with its sign; without a digit there is none. -/
def takeExponent (text : List Char) : Option Int × List Char :=
  let magnitude (negative : Bool) (rest : List Char) : Option Int × List Char :=
    match rest.takeWhile Char.isDigit with
    | [] => (none, text)
    | digits =>
        let value : Int := digitsValue digits
        (some (if negative then -value else value), rest.dropWhile Char.isDigit)
  match text with
  | 'e' :: '-' :: rest => magnitude true rest
  | 'E' :: '-' :: rest => magnitude true rest
  | 'e' :: '+' :: rest => magnitude false rest
  | 'E' :: '+' :: rest => magnitude false rest
  | 'e' :: rest => magnitude false rest
  | 'E' :: rest => magnitude false rest
  | text => (none, text)

/-- The digits before a point: one zero, or digits that do not start with zero. -/
def takeWhole : List Char → List Char × List Char
  | '0' :: rest => (['0'], rest)
  | text => (text.takeWhile Char.isDigit, text.dropWhile Char.isDigit)

/-- A number whose sign has been read; `start` is where it began. -/
def parseNumber (negative : Bool) (start text : List Char) : Parsed Value :=
  match takeWhole text with
  | ([], _) => complain .expectingValue start
  | (whole, rest) =>
      let (fraction, rest) := takeFraction rest
      let (exponent, rest) := takeExponent rest
      if fraction.isEmpty && exponent.isNone then
        if whole.length > digitLimit then .error (.overlong whole.length)
        else
          let value : Int := digitsValue whole
          .ok (.integer (if negative then -value else value), rest)
      else
        let scale := exponent.getD 0 - fraction.length
        .ok (.float (.ofDecimal negative (digitsValue (whole ++ fraction)) scale), rest)

def hexDigit? (char : Char) : Option Nat :=
  if char.isDigit then some (char.toNat - '0'.toNat)
  else if 'a' ≤ char ∧ char ≤ 'f' then some (char.toNat - 'a'.toNat + 10)
  else if 'A' ≤ char ∧ char ≤ 'F' then some (char.toNat - 'A'.toNat + 10)
  else none

/-- The 16-bit unit that four hexadecimal digits write. A character must follow them. -/
def takeUnit : List Char → Option (Nat × List Char)
  | a :: b :: c :: d :: next :: rest => do
      let a ← hexDigit? a
      let b ← hexDigit? b
      let c ← hexDigit? c
      let d ← hexDigit? d
      return (a * 4096 + b * 256 + c * 16 + d, next :: rest)
  | _ => none

def isHighSurrogate (unit : Nat) : Bool :=
  0xD800 ≤ unit && unit < 0xDC00

def isLowSurrogate (unit : Nat) : Bool :=
  0xDC00 ≤ unit && unit < 0xE000

/-- A character by its code point; half of a surrogate pair alone is replaced. -/
def charOfUnit (unit : Nat) : Char :=
  if isHighSurrogate unit || isLowSurrogate unit then '\ufffd' else Char.ofNat unit

/-- The character after `\u`. Two units that form a surrogate pair are one character. -/
def parseUnicode (text : List Char) : Parsed Char :=
  match takeUnit text with
  | none => .error (.malformed .invalidUnicodeEscape (text.length + 1))
  | some (high, rest) =>
      match rest with
      | '\\' :: 'u' :: more =>
          if isHighSurrogate high && more.length > 4 then
            match takeUnit more with
            | none => .error (.malformed .invalidUnicodeEscape (more.length + 1))
            | some (low, behind) =>
                if isLowSurrogate low then
                  .ok (Char.ofNat (0x10000 + (high - 0xD800) * 0x400 + (low - 0xDC00)), behind)
                else .ok (charOfUnit high, rest)
          else .ok (charOfUnit high, rest)
      | _ => .ok (charOfUnit high, rest)

def unescape? : Char → Option Char
  | '"' => some '"'
  | '\\' => some '\\'
  | '/' => some '/'
  | 'b' => some '\x08'
  | 'f' => some '\x0c'
  | 'n' => some '\n'
  | 'r' => some '\r'
  | 't' => some '\t'
  | _ => none

/-- The rest of a string after its opening quote; `start` is the text from that quote on.
`read` holds the characters so far, the last one first. -/
def parseString (start : List Char) : Nat → List Char → List Char → Parsed String
  | 0, _, _ => complain .unterminatedString start
  | _ + 1, _, [] => complain .unterminatedString start
  | _ + 1, read, '"' :: rest => .ok (String.ofList read.reverse, rest)
  | _ + 1, _, ['\\'] => complain .unterminatedString start
  | bound + 1, read, '\\' :: 'u' :: rest =>
      match parseUnicode rest with
      | .error stop => .error stop
      | .ok (char, rest) => parseString start bound (char :: read) rest
  | bound + 1, read, '\\' :: char :: rest =>
      match unescape? char with
      | some char => parseString start bound (char :: read) rest
      | none => complain .invalidEscape ('\\' :: char :: rest)
  | bound + 1, read, char :: rest =>
      if char.toNat < 0x20 then complain .controlCharacter (char :: rest)
      else parseString start bound (char :: read) rest

mutual

/-- One value at the start of the text. Each character is reached by at most two nested
calls, so twice the length of the text bounds them. -/
def parseValue : Nat → List Char → Parsed Value
  | 0, text => complain .expectingValue text
  | bound + 1, text =>
      match text with
      | '"' :: rest =>
          match parseString text bound [] rest with
          | .error stop => .error stop
          | .ok (string, rest) => .ok (.string string, rest)
      | '{' :: rest =>
          match skipSpace rest with
          | '}' :: rest => .ok (.object [], rest)
          | rest => parseMembers bound [] rest
      | '[' :: rest =>
          match skipSpace rest with
          | ']' :: rest => .ok (.array [], rest)
          | rest => parseElements bound [] rest
      | 'n' :: 'u' :: 'l' :: 'l' :: rest => .ok (.null, rest)
      | 't' :: 'r' :: 'u' :: 'e' :: rest => .ok (.boolean true, rest)
      | 'f' :: 'a' :: 'l' :: 's' :: 'e' :: rest => .ok (.boolean false, rest)
      | 'N' :: 'a' :: 'N' :: rest => .ok (.float .notANumber, rest)
      | 'I' :: 'n' :: 'f' :: 'i' :: 'n' :: 'i' :: 't' :: 'y' :: rest =>
          .ok (.float (.infinite false), rest)
      | '-' :: 'I' :: 'n' :: 'f' :: 'i' :: 'n' :: 'i' :: 't' :: 'y' :: rest =>
          .ok (.float (.infinite true), rest)
      | '-' :: rest => parseNumber true text rest
      | text => parseNumber false text text

/-- The elements of an array from a value on; `read` holds those before it, reversed. -/
def parseElements : Nat → List Value → List Char → Parsed Value
  | 0, _, text => complain .expectingValue text
  | bound + 1, read, text =>
      match parseValue bound text with
      | .error stop => .error stop
      | .ok (value, rest) =>
          match skipSpace rest with
          | ']' :: rest => .ok (.array (value :: read).reverse, rest)
          | ',' :: rest => parseElements bound (value :: read) (skipSpace rest)
          | rest => complain .expectingComma rest

/-- The members of an object from a name on; `read` holds those before it. -/
def parseMembers : Nat → List (String × Value) → List Char → Parsed Value
  | 0, _, text => complain .expectingName text
  | bound + 1, read, text =>
      match text with
      | '"' :: rest =>
          match parseString text bound [] rest with
          | .error stop => .error stop
          | .ok (name, rest) =>
              match skipSpace rest with
              | ':' :: rest =>
                  match parseValue bound (skipSpace rest) with
                  | .error stop => .error stop
                  | .ok (value, rest) =>
                      match skipSpace rest with
                      | '}' :: rest => .ok (.object (Assoc.insert name value read), rest)
                      | ',' :: rest =>
                          parseMembers bound (Assoc.insert name value read) (skipSpace rest)
                      | rest => complain .expectingComma rest
              | rest => complain .expectingColon rest
      | text => complain .expectingName text

end

/-- A complaint about a text, with the place in characters, lines and columns. -/
structure Position where
  offset : Nat
  line : Nat
  column : Nat
  deriving DecidableEq, Repr

/-- Lines are counted from one; a column is counted from the last line break. -/
def Position.of (text : List Char) (offset : Nat) : Position :=
  let before := text.take offset
  { offset
    line := before.count '\n' + 1
    column := (before.reverse.takeWhile (· ≠ '\n')).length + 1 }

def Position.describe (position : Position) : String :=
  s!"line {position.line} column {position.column} (char {position.offset})"

inductive ReadError where
  | malformed (complaint : Complaint) (position : Position)
  | overlong (digits : Nat)
  deriving DecidableEq, Repr

/-- The one value that a text holds. -/
def parse (text : String) : Except ReadError Value :=
  let chars := text.toList
  let result : Except Stop Value :=
    match chars with
    | '\ufeff' :: _ => complain .byteOrderMark chars
    | _ =>
        match parseValue (2 * chars.length + 1) (skipSpace chars) with
        | .error stop => .error stop
        | .ok (value, rest) =>
            match skipSpace rest with
            | [] => .ok value
            | rest => complain .extraData rest
  match result with
  | .ok value => .ok value
  | .error (.malformed complaint left) =>
      .error (.malformed complaint (.of chars (chars.length - left)))
  | .error (.overlong digits) => .error (.overlong digits)

end MonkeyLang.Json
