import SessionBroker.Json.Value
import SessionBroker.Json.Double

/-!
# JSON as text

The compact form: members in key order, no blanks, and in strings only the quote, the backslash and
control characters escaped.
-/

namespace SessionBroker.Json

/-- One character of a string. Control characters without a short escape are written by number. -/
def escapeChar (c : Char) : List Char :=
  if c = '"' then ['\\', '"']
  else if c = '\\' then ['\\', '\\']
  else if c.toNat = 8 then ['\\', 'b']
  else if c.toNat = 9 then ['\\', 't']
  else if c.toNat = 10 then ['\\', 'n']
  else if c.toNat = 12 then ['\\', 'f']
  else if c.toNat = 13 then ['\\', 'r']
  else if c.toNat < 32 then
    ['\\', 'u', '0', '0', Nat.digitChar (c.toNat / 16), Nat.digitChar (c.toNat % 16)]
  else [c]

def quote (s : String) : List Char := '"' :: s.toList.flatMap escapeChar ++ ['"']

def intChars (i : Int) : List Char :=
  (if i < 0 then ['-'] else []) ++ Nat.toDigits 10 i.natAbs

mutual

def chars : Json → List Char
  | .null => "null".toList
  | .bool true => "true".toList
  | .bool false => "false".toList
  | .int i => intChars i
  | .float d => d.chars
  | .str s => quote s
  | .arr items => '[' :: itemChars items
  | .obj members => '{' :: memberChars members

/-- The items of an array with the closing bracket. -/
def itemChars : List Json → List Char
  | [] => [']']
  | [item] => chars item ++ [']']
  | item :: rest => chars item ++ ',' :: itemChars rest

/-- The members of an object with the closing brace. -/
def memberChars : List (String × Json) → List Char
  | [] => ['}']
  | [(key, value)] => quote key ++ ':' :: (chars value ++ ['}'])
  | (key, value) :: rest => quote key ++ ':' :: (chars value ++ ',' :: memberChars rest)

end

/-- The compact text of a value. -/
def compact (j : Json) : String := String.ofList j.chars

end SessionBroker.Json
