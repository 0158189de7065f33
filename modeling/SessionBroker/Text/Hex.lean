/-!
# Bytes and hexadecimal text

Byte strings are lists of bytes. Their text form has two lower case digits per byte; reading it takes
either letter case and nothing else.
-/

namespace SessionBroker

/-- A string of bytes. -/
abbrev Bytes := List UInt8

/-- The UTF-8 form of a text. -/
def Bytes.ofText (s : String) : Bytes := s.toUTF8.data.toList

/-- The text that the bytes are the UTF-8 form of, if there is one. -/
def Bytes.text? (b : Bytes) : Option String := String.fromUTF8? ⟨b.toArray⟩

namespace Hex

def digit (n : Nat) : Char := ("0123456789abcdef".toList)[n % 16]?.getD '0'

def digit? (c : Char) : Option Nat :=
  if '0' ≤ c && c ≤ '9' then some (c.toNat - '0'.toNat)
  else if 'a' ≤ c && c ≤ 'f' then some (c.toNat - 'a'.toNat + 10)
  else if 'A' ≤ c && c ≤ 'F' then some (c.toNat - 'A'.toNat + 10)
  else none

def encodeChars : Bytes → List Char
  | [] => []
  | b :: rest => digit (b.toNat / 16) :: digit (b.toNat % 16) :: encodeChars rest

def encode (b : Bytes) : String := String.ofList (encodeChars b)

def decodeChars : List Char → Option Bytes
  | [] => some []
  | [_] => none
  | high :: low :: rest => do
    let h ← digit? high
    let l ← digit? low
    let tail ← decodeChars rest
    some (UInt8.ofNat (h * 16 + l) :: tail)

def decode? (s : String) : Option Bytes := decodeChars s.toList

end Hex

end SessionBroker
