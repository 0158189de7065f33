import SessionBroker.Dict

/-!
# JSON values

The values that travel in requests, replies and payloads. Whole numbers between -2^63 and 2^64 are
kept apart from all others, which are binary floating point numbers and are held by their 64 bits.
An object lists its members in key order, each key once.
-/

namespace SessionBroker

/-- A binary floating point number by its bits. -/
structure Double where
  bits : UInt64
deriving DecidableEq, Repr

inductive Json where
  | null
  | bool (value : Bool)
  | int (value : Int)
  | float (value : Double)
  | str (value : String)
  | arr (items : List Json)
  | obj (members : List (String × Json))
deriving Repr, Inhabited

namespace Double

/-- The two zeros are the same number; nothing else has two forms. -/
def same (a b : Double) : Bool :=
  a.bits == b.bits || (a.bits <<< 1 == 0 && b.bits <<< 1 == 0)

end Double

namespace Json

mutual

/-- Two values are equal as JSON. -/
def same : Json → Json → Bool
  | .null, .null => true
  | .bool a, .bool b => a == b
  | .int a, .int b => a == b
  | .float a, .float b => a.same b
  | .str a, .str b => a == b
  | .arr a, .arr b => sameItems a b
  | .obj a, .obj b => sameMembers a b
  | _, _ => false

def sameItems : List Json → List Json → Bool
  | [], [] => true
  | a :: as, b :: bs => same a b && sameItems as bs
  | _, _ => false

def sameMembers : List (String × Json) → List (String × Json) → Bool
  | [], [] => true
  | (k, a) :: as, (l, b) :: bs => k == l && same a b && sameMembers as bs
  | _, _ => false

end

/-- An object from its members in any order. -/
def object (members : List (String × Json)) : Json := .obj (Dict.ofList members)

/-- The member of an object; other values have none. -/
def get? (key : String) : Json → Option Json
  | .obj members => Dict.find? key members
  | _ => none

def text? : Json → Option String
  | .str s => some s
  | _ => none

def isNull : Json → Bool
  | .null => true
  | _ => false

/-- A value or null. -/
def ofOption : Option Json → Json
  | some v => v
  | none => .null

end Json

end SessionBroker
