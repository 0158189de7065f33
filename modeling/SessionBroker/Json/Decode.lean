import SessionBroker.Json.Value
import SessionBroker.Json.Double
import SessionBroker.Text.Quoted
import SessionBroker.Time.Timestamp
import SessionBroker.Uuid

/-!
# Typed values and JSON

`FromJson` reads a typed value and `ToJson` writes one. Records are read by a `RecordReader`, which
knows the fields in their order of declaration. A record is an object, whose members are looked at in
key order, so that of two faults the one with the smaller key is reported, and a missing field only
where no member has a fault. Members that are no fields are ignored. An array in place of the object
holds the fields in their order.
-/

namespace SessionBroker

/-- Why a JSON value is no value of the wanted type. -/
inductive DecodeError
  | missingField (name : String)
  | invalidType (found expected : String)
  | invalidValue (found expected : String)
  | invalidLength (length : Nat) (expected : String)
  | unknownVariant (name : String) (known : List String)
  | refused (reason : String)
deriving DecidableEq, Repr

namespace DecodeError

/-- The names that would have been accepted. -/
def choices : List String → String
  | [] => "there are no variants"
  | [a] => "expected \x60" ++ a ++ "\x60"
  | [a, b] => "expected \x60" ++ a ++ "\x60 or \x60" ++ b ++ "\x60"
  | many => "expected one of " ++ ", ".intercalate (many.map fun n => "\x60" ++ n ++ "\x60")

def message : DecodeError → String
  | missingField name => "missing field \x60" ++ name ++ "\x60"
  | invalidType found expected => "invalid type: " ++ found ++ ", expected " ++ expected
  | invalidValue found expected => "invalid value: " ++ found ++ ", expected " ++ expected
  | invalidLength length expected => "invalid length " ++ toString length ++ ", expected " ++ expected
  | unknownVariant name known => "unknown variant \x60" ++ name ++ "\x60, " ++ choices known
  | refused reason => reason

end DecodeError

/-- The outcome of reading a typed value. -/
abbrev Decoded (α : Type) := Except DecodeError α

class FromJson (α : Type) where
  fromJson : Json → Decoded α

class ToJson (α : Type) where
  toJson : α → Json

export FromJson (fromJson)
export ToJson (toJson)

namespace Json

/-- A value as messages name it. -/
def describe : Json → String
  | .null => "null"
  | .bool b => "boolean \x60" ++ (if b then "true" else "false") ++ "\x60"
  | .int i => "integer \x60" ++ toString i ++ "\x60"
  | .float d => "floating point \x60" ++ d.text ++ "\x60"
  | .str s => "string " ++ Quoted.text s
  | .arr _ => "sequence"
  | .obj _ => "map"

/-- A whole number inside a range; the name of the range is for messages. -/
def decodeInt (low high : Int) (expected : String) : Json → Decoded Int
  | .int i =>
    if low ≤ i && i ≤ high then .ok i
    else .error (.invalidValue ("integer \x60" ++ toString i ++ "\x60") expected)
  | other => .error (.invalidType other.describe expected)

def decodeNat (high : Nat) (expected : String) (j : Json) : Decoded Nat :=
  (j.decodeInt 0 high expected).map Int.toNat

def decodeU16 : Json → Decoded Nat := decodeNat 65535 "u16"
def decodeU64 : Json → Decoded Nat := decodeNat 18446744073709551615 "u64"
def decodeUsize : Json → Decoded Nat := decodeNat 18446744073709551615 "usize"
def decodeI64 : Json → Decoded Int := decodeInt (-9223372036854775808) 9223372036854775807 "i64"

/-- A variant without data: its name, or an object that gives the name a null. -/
def decodeVariant {α : Type} (variants : List (String × α)) (j : Json) : Decoded α := do
  let named (name : String) : Decoded α := match variants.lookup name with
    | some a => .ok a
    | none => .error (.unknownVariant name (variants.map Prod.fst))
  match j with
  | .str name => named name
  | .obj [(name, content)] => do
    let a ← named name
    match content with
    | .null => .ok a
    | other => .error (.invalidType other.describe "unit")
  | .obj _ => .error (.invalidValue "map" "map with a single key")
  | other => .error (.invalidType other.describe "string or map")

end Json

instance : FromJson Json := ⟨.ok⟩
instance : ToJson Json := ⟨id⟩

instance : FromJson String where
  fromJson
    | .str s => .ok s
    | other => .error (.invalidType other.describe "a string")
instance : ToJson String := ⟨.str⟩

instance : FromJson Bool where
  fromJson
    | .bool b => .ok b
    | other => .error (.invalidType other.describe "a boolean")
instance : ToJson Bool := ⟨.bool⟩

instance : ToJson Nat := ⟨fun n => .int n⟩
instance : ToJson Int := ⟨.int⟩

/-- Null stands for no value. -/
instance {α : Type} [FromJson α] : FromJson (Option α) where
  fromJson
    | .null => .ok none
    | other => some <$> fromJson other

instance {α : Type} [ToJson α] : ToJson (Option α) where
  toJson
    | some a => toJson a
    | none => .null

instance {α : Type} [FromJson α] : FromJson (List α) where
  fromJson
    | .arr items => items.mapM fromJson
    | other => .error (.invalidType other.describe "a sequence")

instance {α : Type} [ToJson α] : ToJson (List α) := ⟨fun xs => .arr (xs.map toJson)⟩

instance : FromJson Uuid where
  fromJson
    | .str s => match Uuid.parse s with
      | .ok u => .ok u
      | .error e => .error (.refused ("UUID parsing failed: " ++ e.message))
    | other => .error (.invalidType other.describe "a formatted UUID string")
instance : ToJson Uuid := ⟨fun u => .str u.text⟩

instance : FromJson Instant where
  fromJson
    | .str s => match Timestamp.parse? s with
      | some t => .ok t
      | none => .error (.refused "input contains invalid characters")
    | other => .error (.invalidType other.describe "an rfc3339 date")

/-- Instants that have no written form come out as null. -/
instance : ToJson Instant := ⟨fun t => match Timestamp.text? t with
  | some s => .str s
  | none => .null⟩

/-- Durations are written in whole seconds. -/
instance : FromJson Duration := ⟨fun j => Duration.ofSeconds <$> j.decodeU64⟩
instance : ToJson Duration := ⟨fun d => .int d.seconds⟩

/-- A reader of some fields of a record, in their order of declaration. -/
structure RecordReader (ρ : Type) where
  /-- The fault of one member, by field name. -/
  checks : List (String × (Json → Option DecodeError))
  fromMembers : Dict Json → Decoded ρ
  /-- Reads from the items that are left. `expected` names the record in messages; the number says how
  many items came before. -/
  fromItems : (expected : String) → Nat → List Json → Decoded (ρ × List Json)

namespace RecordReader

variable {α β ρ : Type}

def fault (a : Decoded α) : Option DecodeError :=
  match a with
  | .ok _ => none
  | .error e => some e

/-- One field. `absent` is its value where an object lacks it, and `tail` where an array ends before
it. -/
def one (name : String) (read : Json → Decoded α) (absent tail : Option α) : RecordReader α where
  checks := [(name, fun j => fault (read j))]
  fromMembers members := match members.find? name with
    | some j => read j
    | none => match absent with
      | some a => .ok a
      | none => .error (.missingField name)
  fromItems expected count
    | j :: rest => (read j).map (·, rest)
    | [] => match tail with
      | some a => .ok (a, [])
      | none => .error (.invalidLength count expected)

/-- A field that has to be there. -/
def required [FromJson α] (name : String) : RecordReader α := one name fromJson none none

/-- A field that may be missing from an object. -/
def optional [FromJson α] (name : String) : RecordReader (Option α) := one name fromJson (some none) none

/-- A field with a value for where it is missing. -/
def defaulted [FromJson α] (name : String) (value : α) : RecordReader α :=
  one name fromJson (some value) (some value)

/-- A required field with a reader of its own. -/
def requiredWith (name : String) (read : Json → Decoded α) : RecordReader α := one name read none none

/-- A defaulted field with a reader of its own. -/
def defaultedWith (name : String) (read : Json → Decoded α) (value : α) : RecordReader α :=
  one name read (some value) (some value)

instance : Functor RecordReader where
  map f r := {
    checks := r.checks
    fromMembers := fun ms => f <$> r.fromMembers ms
    fromItems := fun expected count items => do
      let (a, rest) ← r.fromItems expected count items
      return (f a, rest) }

instance : Pure RecordReader where
  pure a := { checks := [], fromMembers := fun _ => .ok a, fromItems := fun _ _ items => .ok (a, items) }

instance : Seq RecordReader where
  seq f x :=
    let x := x ()
    { checks := f.checks ++ x.checks
      fromMembers := fun ms => do
        let g ← f.fromMembers ms
        let a ← x.fromMembers ms
        return g a
      fromItems := fun expected count items => do
        let (g, rest) ← f.fromItems expected count items
        let (a, rest) ← x.fromItems expected (count + f.checks.length) rest
        return (g a, rest) }

/-- The first fault among the members, in key order. -/
def firstFault (r : RecordReader ρ) : List (String × Json) → Option DecodeError
  | [] => none
  | (key, j) :: rest => match (r.checks.lookup key).bind (· j) with
    | some e => some e
    | none => firstFault r rest

def readMembers (r : RecordReader ρ) (members : Dict Json) : Decoded ρ :=
  match r.firstFault members with
  | some e => .error e
  | none => r.fromMembers members

def readItems (r : RecordReader ρ) (expected : String) (items : List Json) : Decoded ρ := do
  let (a, rest) ← r.fromItems s!"{expected} with {r.checks.length} elements" 0 items
  if rest.isEmpty then .ok a else .error (.invalidLength items.length "fewer elements in array")

/-- Reads a record of the given name. -/
def read (r : RecordReader ρ) (name : String) : Json → Decoded ρ
  | .obj members => r.readMembers members
  | .arr items => r.readItems ("struct " ++ name) items
  | other => .error (.invalidType other.describe ("struct " ++ name))

end RecordReader

end SessionBroker
