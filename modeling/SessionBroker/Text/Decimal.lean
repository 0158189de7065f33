/-!
# Decimal digits

Numbers in wire formats are runs of ASCII digits. `Decimal.value` reads a run and `Decimal.padded`
writes one of a least width.
-/

namespace SessionBroker.Decimal

def isDigit (c : Char) : Bool := '0' ≤ c && c ≤ '9'

def digitValue (c : Char) : Nat := c.toNat - '0'.toNat

/-- The number that a run of digits denotes. -/
def value (digits : List Char) : Nat :=
  digits.foldl (fun n c => 10 * n + digitValue c) 0

/-- The number that a run of digits denotes, or the limit if that is smaller. -/
def valueUpTo (limit : Nat) (digits : List Char) : Nat :=
  digits.foldl (fun n c => min limit (10 * n + digitValue c)) 0

/-- The digits at the front of a text, and what follows them. -/
def span (s : List Char) : List Char × List Char :=
  (s.takeWhile isDigit, s.dropWhile isDigit)

/-- Exactly `count` digits at the front of a text. -/
def fixed (count : Nat) (s : List Char) : Option (Nat × List Char) :=
  let digits := s.take count
  if digits.length == count && digits.all isDigit then some (value digits, s.drop count) else none

/-- The digits of a number, with zeros in front up to a width. -/
def padded (width n : Nat) : String :=
  let digits := Nat.toDigits 10 n
  String.ofList (List.replicate (width - digits.length) '0' ++ digits)

end SessionBroker.Decimal
