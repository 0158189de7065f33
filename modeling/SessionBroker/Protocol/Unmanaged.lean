import SessionBroker.Protocol.Ready

/-!
# Start of an unmanaged machine

The service that owns the machine picks which of the reported ids it knows. Under that id it is told of
a new certificate, and since the machine has just started, a user service bound to it is logged out.
-/

namespace SessionBroker

structure UnmanagedRequest where
  token : String
  ids : List IdEntry
  secret : String
  port : Nat
deriving Repr

namespace UnmanagedRequest

def reader : RecordReader UnmanagedRequest :=
  UnmanagedRequest.mk <$> .required "token" <*> .required "id" <*> .required "secret"
    <*> .requiredWith "port" Json.decodeU16

instance : FromJson UnmanagedRequest := ⟨reader.read "UnmanagedRequest"⟩
instance : ToJson UnmanagedRequest := ⟨fun r => Json.object
  [("token", toJson r.token), ("id", toJson r.ids), ("secret", toJson r.secret), ("port", toJson r.port)]⟩

end UnmanagedRequest

inductive UnmanagedOutcome
  /-- The token is neither a master token nor an alias. -/
  | invalidToken
  | certificate (reply : CertificateReply)
deriving Repr

namespace Unmanaged

/-- Who is logged out when a machine restarts. -/
def username : String := "init"

/-- An id that the service knows, and what it will be told about it. -/
structure Recognized where
  service : Uuid
  id : String
  info : IdInfo
  reply : CertificateReply
deriving Repr

inductive State
  | findService
  | resolveId (service : Uuid)
  | issue (service : Uuid) (validId : Option String)
  | findUserService (known : Recognized)
  | closeSession (known : Recognized)
  /-- Waits for the release, or for the notice of the start. -/
  | settle (known : Recognized)
  | storeInfo (reply : CertificateReply)

/-- The address in the entry that holds the valid id, else the first one. -/
def inferIp (entries : List IdEntry) (validId : Option String) : Option String :=
  let holder := validId.bind fun id => entries.find? fun e => e.ip = id || e.mac = id
  (holder <|> entries.head?).map IdEntry.ip

def start (request : UnmanagedRequest) : Move State UnmanagedOutcome :=
  .ask (.findService request.token true) .findService

def askIssue (request : UnmanagedRequest) (service : Uuid) (validId : Option String) :
    Move State UnmanagedOutcome :=
  match inferIp request.ids validId with
  | some ip => .ask (.issueCertificate ip) (.issue service validId)
  | none => .fail (.missingField "id")

def storeIdInfo (known : Recognized) : Move State UnmanagedOutcome :=
  .ask (.storeIdInfo known.service known.id known.info) (.storeInfo known.reply)

/-- Without a valid id the certificate is all there is to do. -/
def issued (request : UnmanagedRequest) (service : Uuid) (validId : Option String)
    (reply : CertificateReply) : Move State UnmanagedOutcome :=
  match validId with
  | none => .finish (.certificate reply)
  | some id =>
    .ask (.findUserService ⟨foldCases (candidateIds request.ids), none, [.usable, .preparing]⟩)
      (.findUserService
        ⟨service, id, ⟨reply.bundle.certificate, request.secret, request.port⟩, reply⟩)

def resume (request : UnmanagedRequest) (ciphers : Option String) (_now : Instant) (_draws : Draws) :
    State → Reply → Move State UnmanagedOutcome
  | .findService, .service none => .finish .invalidToken
  | .findService, .service (some record) =>
    .ask (.resolveValidId record.id (candidateIds request.ids)) (.resolveId record.id)
  | .findService, _ => .unexpected "unmanaged service"
  | .resolveId service, .validId validId => askIssue request service validId
  | .resolveId _, _ => .unexpected "unmanaged valid id"
  | .issue service validId, .certificate (.ok bundle) => issued request service validId ⟨bundle, ciphers⟩
  | .issue _ _, .certificate (.error reason) => .fail (.certificate reason)
  | .issue _ _, _ => .unexpected "unmanaged issue"
  | .findUserService known, .userService (some view) =>
    .ask (.closeSession view.uuid.text username "") (.closeSession known)
  | .findUserService known, .userService none =>
    .ask (.notifyInitialization known.service known.id) (.settle known)
  | .findUserService _, _ => .unexpected "unmanaged user service"
  | .closeSession known, .sessionClosed (some closed) =>
    if closed.wasInUse && closed.removableOnLogout then .ask (.release closed.userService) (.settle known)
    else storeIdInfo known
  | .closeSession known, .sessionClosed none => storeIdInfo known
  | .closeSession _, _ => .unexpected "unmanaged close"
  | .settle known, .stored => storeIdInfo known
  | .settle _, _ => .unexpected "unmanaged settle"
  | .storeInfo reply, .stored => .finish (.certificate reply)
  | .storeInfo _, _ => .unexpected "unmanaged store"

def rank : State → Nat
  | .findService => 6
  | .resolveId _ => 5
  | .issue _ _ => 4
  | .findUserService _ => 3
  | .closeSession _ => 2
  | .settle _ => 1
  | .storeInfo _ => 0

theorem resume_below (request : UnmanagedRequest) (ciphers : Option String) (now : Instant)
    (draws : Draws) (s : State) (reply : Reply) :
    (resume request ciphers now draws s reply).Below rank (rank s) := by
  unfold resume
  split <;> simp [askIssue, issued, storeIdInfo, rank]
  all_goals split <;> simp [rank]

def protocol (request : UnmanagedRequest) (ciphers : Option String) :
    Protocol State UnmanagedOutcome where
  start := start request
  resume := resume request ciphers
  rank := rank
  resume_below := resume_below request ciphers

end Unmanaged

end SessionBroker
