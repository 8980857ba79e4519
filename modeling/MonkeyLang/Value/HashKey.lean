import MonkeyLang.Value.Tag

/-!
Keys of hash values. A key is the type of the key object together with a 64-bit
word made from its contents: an integer modulo `2^64`, one or zero for a boolean,
and the FNV-1a digest of the UTF-8 bytes of a string.
-/

namespace MonkeyLang

namespace Digest

def offset : UInt64 :=
  0xcbf29ce484222325

def prime : UInt64 :=
  0x100000001b3

/-- One round: the byte is mixed in before the multiplication. -/
def round (state : UInt64) (byte : UInt8) : UInt64 :=
  (state ^^^ byte.toUInt64) * prime

def fnv1a (bytes : List UInt8) : UInt64 :=
  bytes.foldl round offset

end Digest

/-- The UTF-8 encoding of a text. -/
def utf8Bytes (text : String) : List UInt8 :=
  text.toUTF8.data.toList

structure HashKey where
  type : Tag
  word : UInt64
  deriving DecidableEq

namespace HashKey

def ofInteger (value : Int) : HashKey :=
  ⟨.integer, UInt64.ofInt value⟩

def ofBoolean (value : Bool) : HashKey :=
  ⟨.boolean, if value then 1 else 0⟩

def ofString (text : String) : HashKey :=
  ⟨.string, Digest.fnv1a (utf8Bytes text)⟩

end HashKey

end MonkeyLang
