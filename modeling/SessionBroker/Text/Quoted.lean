import SessionBroker.Text.PrintableTable
import SessionBroker.Text.CodePoints

/-!
# Quoted texts in messages

A text quoted inside a message stands between double quotes. The quote and the backslash are
escaped, and so is every character that a terminal would not show on its own.
-/

namespace SessionBroker.Quoted

/-- The number in lower case hexadecimal digits. -/
def hexadecimal (n : Nat) : String := String.ofList (Nat.toDigits 16 n)

def escape (c : Char) : String :=
  if c = '"' then "\\\""
  else if c = '\\' then "\\\\"
  else if c = '\n' then "\\n"
  else if c = '\r' then "\\r"
  else if c = '\t' then "\\t"
  else if c.toNat = 0 then "\\0"
  else if 32 ≤ c.toNat && c.toNat < 127 then c.toString
  else if CodePoints.member PrintableTable.extendingRanges c
      || CodePoints.member PrintableTable.unprintableRanges c then
    "\\u\x7b" ++ hexadecimal c.toNat ++ "\x7d"
  else c.toString

def text (s : String) : String :=
  "\"" ++ String.join (s.toList.map escape) ++ "\""

end SessionBroker.Quoted
