import SessionBroker.Json.Decode

/-!
# Errors of the broker

Three layers report errors. Storage fails with a reason for the logs. The protocols of the actors fail
with a `ProtocolError`. What a caller gets to see is an `ActorError`, which tells as little as possible.
-/

namespace SessionBroker

/-- A failure of storage. The reason is for logs only. -/
structure StoreError where
  reason : String
deriving DecidableEq, Repr

def StoreError.message (e : StoreError) : String := "Storage failure: " ++ e.reason

/-- An operation on stored state, which may fail. -/
abbrev StoreM (σ α : Type) := ExceptT StoreError (StateM σ) α

/-- The operation, or the reason why it is out of order, before it does anything. -/
def StoreM.guarded {σ α : Type} (fault : Option String) (m : StoreM σ α) : StoreM σ α :=
  match fault with
  | some reason => throw ⟨reason⟩
  | none => m

/-- Why a protocol ended without a result. -/
inductive ProtocolError
  | accessDenied
  /-- The request looks like guessing and counts against its source. -/
  | blockAccess (reason : String)
  | missingField (name : String)
  | unexpectedReply (state : String)
  | certificate (reason : String)
  | notify (reason : String)
  | store (error : StoreError)
deriving DecidableEq, Repr

/-- The word for a kind of failure, as logs count them. -/
def ProtocolError.kind : ProtocolError → String
  | .accessDenied => "AccessDenied"
  | .blockAccess _ => "BlockAccess"
  | .missingField _ => "MissingField"
  | .unexpectedReply _ => "UnexpectedReply"
  | .certificate _ => "Certificate"
  | .notify _ => "Notify"
  | .store _ => "Store"

def ProtocolError.message : ProtocolError → String
  | .accessDenied => "The caller is not allowed to perform this action."
  | .blockAccess reason => "The request should count as a failed attempt: " ++ reason
  | .missingField name => "The request is missing the field " ++ name ++ "."
  | .unexpectedReply state =>
    "The driver received a reply it was not waiting for in state " ++ state ++ "."
  | .certificate reason => "Failed to issue a certificate: " ++ reason
  | .notify reason => "Failed to notify the service: " ++ reason
  | .store error => error.message

/-- Why a call of an actor was refused. -/
inductive ActorError
  | accessDenied
  /-- Counts against the source and is then shown as `accessDenied`. -/
  | blockAccess
  /-- The source is blocked; the refusal is held back for a while. -/
  | blocked
  | invalidTicket (reason : String)
  | requestError (reason : String)
  | missingField (name : String)
  | notFound (name : String)
  | unknownAction (name : String)
  | store (error : StoreError)
  | protocol (error : ProtocolError)
deriving DecidableEq, Repr

namespace ActorError

def kind : ActorError → String
  | .accessDenied => "AccessDenied"
  | .blockAccess => "BlockAccess"
  | .blocked => "Blocked"
  | .invalidTicket _ => "InvalidTicket"
  | .requestError _ => "RequestError"
  | .missingField _ => "MissingField"
  | .notFound _ => "NotFound"
  | .unknownAction _ => "UnknownAction"
  | .store _ => "Store"
  | .protocol _ => "Protocol"

def message : ActorError → String
  | .accessDenied | .blockAccess | .blocked => "Access denied"
  | .invalidTicket reason => "Invalid ticket: " ++ reason
  | .requestError reason => "Invalid parameters: " ++ reason
  | .missingField name => "Missing field: " ++ name
  | .notFound name => "Not found: " ++ name
  | .unknownAction name => "Unknown action: " ++ name
  | .store error => error.message
  | .protocol error => error.message

def ofProtocol : ProtocolError → ActorError
  | .accessDenied => .accessDenied
  | .blockAccess _ => .blockAccess
  | .missingField name => .missingField name
  | .store error => .store error
  | other => .protocol other

/-- Parameters that cannot be read. -/
def ofDecode : DecodeError → ActorError
  | .missingField name => .missingField name
  | other => .requestError other.message

end ActorError

end SessionBroker
