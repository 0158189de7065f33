import SessionBroker.Json.Decode

/-!
# Members with defaults

Some callers read an object without a diagnosis: a member that is missing, null or of another type
counts as the empty value of its type.
-/

namespace SessionBroker.Json

variable (j : Json) (key : String)

/-- A member that is there and not null. -/
def member? : Option Json := (j.get? key).filter (!·.isNull)

/-- A member as it is, null where it is missing. -/
def valueAt : Json := ofOption (j.get? key)

def textAt? : Option String := (j.member? key).bind text?

def textAt : String := (j.textAt? key).getD ""

def intAt? : Option Int :=
  match j.member? key with
  | some (.int i) => some i
  | _ => none

def intAt : Int := (j.intAt? key).getD 0

def natAt : Nat := (j.intAt key).toNat

def flagAt? : Option Bool :=
  match j.member? key with
  | some (.bool b) => some b
  | _ => none

def flagAt : Bool := (j.flagAt? key).getD false

def items : Json → List Json
  | .arr xs => xs
  | _ => []

def itemsAt : List Json := (j.valueAt key).items

def textsAt : List String := (j.itemsAt key).filterMap text?

/-- An instant by its milliseconds. -/
def instantAt? : Option Instant := (j.intAt? key).map Instant.ofMs

def instantAt : Instant := Instant.ofMs (j.intAt key)

/-- A member of a type that has a reader of its own. -/
def typedAt? (α : Type) [FromJson α] : Option α := (fromJson (j.valueAt key) : Decoded α).toOption

/-- A value by the reader of its type. One that the reader refuses is read part by part. -/
def readOr {α : Type} [FromJson α] (parts : Json → α) (j : Json) : α :=
  (fromJson j : Decoded α).toOption.getD (parts j)

def uuidAt? : Option Uuid := (j.textAt? key).bind Uuid.parse?

def uuidAt : Uuid := (j.uuidAt? key).getD .nil

end SessionBroker.Json
