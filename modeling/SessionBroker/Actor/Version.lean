import SessionBroker.Text.CodePoints
import SessionBroker.Text.Decimal

/-!
# Actor versions

Versions are dotted texts that compare part by part as numbers. A part counts as the digits at its
front; a part without digits, or with a number beyond 64 bits, counts as zero, and so do parts that
one version has and the other lacks.
-/

namespace SessionBroker.Version

/-- The number that one part of a version counts as. -/
def partNumber (part : List Char) : Nat :=
  let n := Decimal.value (Decimal.span (CodePoints.trim part)).1
  if 18446744073709551615 < n then 0 else n

/-- The parts of a text between points. -/
def split : List Char → List (List Char)
  | [] => [[]]
  | c :: rest =>
    if c = '.' then [] :: split rest
    else match split rest with
      | part :: more => (c :: part) :: more
      | [] => [[c]]

def parts (version : String) : List Nat := (split version.toList).map partNumber

/-- Lexicographic order of two sequences that are continued with zeros. -/
def partsLt : List Nat → List Nat → Bool
  | [], [] => false
  | [], b :: bs => 0 < b || partsLt [] bs
  | a :: as, [] => a == 0 && partsLt as []
  | a :: as, b :: bs => a < b || (a == b && partsLt as bs)

/-- The left version is the older one. -/
def lt (left right : String) : Bool := partsLt (parts left) (parts right)

end SessionBroker.Version
