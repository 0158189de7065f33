import SessionBroker.Json.Printer
import SessionBroker.Json.Reader
import SessionBroker.Error

/-!
# Tickets

A ticket record keeps a payload as bytes, in an envelope that names the version of its form. A validator
is checked against the payload whenever the ticket is read. A tunnel ticket is the payload by which a
tunnel server connects a user.
-/

namespace SessionBroker

/-- A check of a payload. -/
inductive TicketValidator
  | fieldEquals (field : String) (value : Json)
  | requiresFields (fields : List String)
deriving Repr

namespace TicketValidator

/-- A field that is null counts as missing for `requiresFields`. -/
def accepts (payload : Json) : TicketValidator → Bool
  | .fieldEquals field value => match payload.get? field with
    | some v => v.same value
    | none => false
  | .requiresFields fields => fields.all fun field => match payload.get? field with
    | some v => !v.isNull
    | none => false

def fieldEqualsReader : RecordReader TicketValidator :=
  .fieldEquals <$> .required "field" <*> .required "value"

def requiresFieldsReader : RecordReader TicketValidator :=
  .requiresFields <$> .required "fields"

/-- The reader of the fields that go with a kind. -/
def readerOf (kind : Json) : Decoded (RecordReader TicketValidator) :=
  match kind with
  | .str "field_equals" => .ok fieldEqualsReader
  | .str "requires_fields" => .ok requiresFieldsReader
  | .str other => .error (.unknownVariant other ["field_equals", "requires_fields"])
  | other => .error (.invalidType other.describe "variant identifier")

/-- The member `kind` says what the other members mean. In an array it comes first. -/
def decode : Json → Decoded TicketValidator
  | .obj members => match Dict.find? "kind" members with
    | none => .error (.missingField "kind")
    | some kind => do (← readerOf kind).readMembers (members.filter (·.1 ≠ "kind"))
  | .arr [] => .error (.missingField "kind")
  | .arr (kind :: rest) => do (← readerOf kind).readItems "enum TicketValidator" rest
  | other => .error (.invalidType other.describe "internally tagged enum TicketValidator")

instance : FromJson TicketValidator := ⟨decode⟩

instance : ToJson TicketValidator := ⟨fun
  | .fieldEquals field value => Json.object
    [("kind", .str "field_equals"), ("field", toJson field), ("value", value)]
  | .requiresFields fields => Json.object
    [("kind", .str "requires_fields"), ("fields", toJson fields)]⟩

end TicketValidator

structure TicketRecord where
  id : String
  owner : Option String
  stamp : Instant
  validity : Duration
  data : Bytes
  validator : Option TicketValidator
deriving Repr

/-- The last instant at which the ticket can be read. -/
def TicketRecord.expires (r : TicketRecord) : Instant := r.stamp.after r.validity

/-- What a tunnel server needs to connect a user. -/
structure TunnelTicket where
  user : Uuid
  userService : Uuid
  host : Option String
  port : Nat
  extra : Option Json
deriving Repr

namespace TunnelTicket

def reader : RecordReader TunnelTicket :=
  TunnelTicket.mk <$> .required "u" <*> .required "s" <*> .optional "h"
    <*> .requiredWith "p" Json.decodeU16 <*> .optional "e"

instance : FromJson TunnelTicket := ⟨reader.read "TunnelTicket"⟩
instance : ToJson TunnelTicket := ⟨fun t => Json.object
  [("u", toJson t.user), ("s", toJson t.userService), ("h", toJson t.host), ("p", toJson t.port),
    ("e", toJson t.extra)]⟩

end TunnelTicket

/-- Why a ticket operation failed. -/
inductive TicketError
  | invalidTicket (reason : String)
  | missingOwner
  | cipher (reason : String)
  | store (error : StoreError)
deriving DecidableEq, Repr

def TicketError.kind : TicketError → String
  | .invalidTicket _ => "InvalidTicket"
  | .missingOwner => "MissingOwner"
  | .cipher _ => "Cipher"
  | .store _ => "Store"

def TicketError.message : TicketError → String
  | .invalidTicket reason => "Invalid ticket: " ++ reason
  | .missingOwner => "Tried to use a secure ticket without owner."
  | .cipher reason => "Failed to encrypt the ticket payload: " ++ reason
  | .store error => error.message

namespace Envelope

/-- The version that is written. -/
def version : Nat := 1

/-- The bytes that hold a payload. -/
def encode (payload : Json) : Bytes :=
  Bytes.ofText ("\x7b\"v\":" ++ toString version ++ ",\"data\":" ++ payload.compact ++ "\x7d")

def reader : RecordReader (Nat × Json) :=
  Prod.mk <$> .requiredWith "v" (Json.decodeNat 4294967295 "u32") <*> .required "data"

/-- The version and the payload of an envelope. -/
def read? (bytes : Bytes) : Option (Nat × Json) := do
  let (record, rest) ← Json.readRecord ["v", "data"] Json.nestingLimit (Utf8.scan bytes)
  if Json.atEnd rest then (reader.read "Envelope" record).toOption else none

def decode (bytes : Bytes) : Except TicketError Json :=
  match read? bytes with
  | none => .error (.invalidTicket "undecodable payload")
  | some (v, payload) =>
    if v = version then .ok payload
    else .error (.invalidTicket ("unknown payload version " ++ toString v))

end Envelope

end SessionBroker
