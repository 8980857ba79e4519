import MonkeyLang.Text.Quoted

/-!
Text from bytes. UTF-8 is decoded strictly: overlong forms, surrogates and values
beyond the last code point are refused at the byte that rules them out. The line
ends of a decoded text are then made uniform.
-/

namespace MonkeyLang.Text

inductive EncodingFlaw where
  | invalidStart
  | invalidContinuation
  | unexpectedEnd
  deriving DecidableEq, Repr

def EncodingFlaw.reason : EncodingFlaw → String
  | invalidStart => "invalid start byte"
  | invalidContinuation => "invalid continuation byte"
  | unexpectedEnd => "unexpected end of data"

/-- Bytes `first` to `last` do not encode a character; `byte` is the first of them. -/
structure EncodingError where
  flaw : EncodingFlaw
  byte : UInt8
  first : Nat
  last : Nat
  deriving DecidableEq, Repr

def EncodingError.message (error : EncodingError) : String :=
  let place :=
    if error.first = error.last then
      "byte 0x" ++ String.ofList (hex 2 error.byte.toNat) ++ s!" in position {error.first}"
    else s!"bytes in position {error.first}-{error.last}"
  "'utf-8' codec can't decode " ++ place ++ ": " ++ error.flaw.reason

/-- A character of which the first bytes were read: what they contribute to its code
point, and the range in which each byte to come must lie. -/
structure Partial where
  start : Nat
  byte : UInt8
  code : Nat
  awaited : List (UInt8 × UInt8)

inductive Lead where
  | complete (char : Char)
  | opening (code : Nat) (awaited : List (UInt8 × UInt8))
  | invalid

def continuation : UInt8 × UInt8 := (0x80, 0xBF)

/-- What the first byte of a character says. The second byte is restricted where the
plain range would admit an overlong form, a surrogate or too large a value. -/
def Lead.of (byte : UInt8) : Lead :=
  let value := byte.toNat
  if value < 0x80 then complete (Char.ofNat value)
  else if value < 0xC2 then invalid
  else if value < 0xE0 then opening (value - 0xC0) [continuation]
  else if value = 0xE0 then opening 0 [(0xA0, 0xBF), continuation]
  else if value = 0xED then opening 0xD [(0x80, 0x9F), continuation]
  else if value < 0xF0 then opening (value - 0xE0) [continuation, continuation]
  else if value = 0xF0 then opening 0 [(0x90, 0xBF), continuation, continuation]
  else if value < 0xF4 then opening (value - 0xF0) [continuation, continuation, continuation]
  else if value = 0xF4 then opening 4 [(0x80, 0x8F), continuation, continuation]
  else invalid

/-- Decode from a position on; `read` holds the characters so far, the last one first. -/
def decodeFrom (position : Nat) (pending : Option Partial) (read : List Char) :
    List UInt8 → Except EncodingError (List Char)
  | [] =>
      match pending with
      | none => .ok read.reverse
      | some part => .error ⟨.unexpectedEnd, part.byte, part.start, position - 1⟩
  | byte :: rest =>
      match pending with
      | none =>
          match Lead.of byte with
          | .complete char => decodeFrom (position + 1) none (char :: read) rest
          | .opening code awaited =>
              decodeFrom (position + 1) (some ⟨position, byte, code, awaited⟩) read rest
          | .invalid => .error ⟨.invalidStart, byte, position, position⟩
      | some part =>
          match part.awaited with
          | [] => .error ⟨.invalidContinuation, part.byte, part.start, position - 1⟩
          | (low, high) :: later =>
              if low ≤ byte ∧ byte ≤ high then
                let code := part.code * 64 + (byte.toNat - 0x80)
                if later.isEmpty then
                  decodeFrom (position + 1) none (Char.ofNat code :: read) rest
                else
                  decodeFrom (position + 1) (some ⟨part.start, part.byte, code, later⟩) read rest
              else .error ⟨.invalidContinuation, part.byte, part.start, position - 1⟩

def decodeUtf8 (bytes : List UInt8) : Except EncodingError (List Char) :=
  decodeFrom 0 none [] bytes

/-- A carriage return with or without a line feed behind it becomes one line feed. -/
def unifyLineEnds (text : List Char) : List Char :=
  (text.foldl (fun (read, afterReturn) char =>
    if char = '\r' then ('\n' :: read, true)
    else if char = '\n' ∧ afterReturn then (read, false)
    else (char :: read, false)) (([] : List Char), false)).1.reverse

end MonkeyLang.Text
