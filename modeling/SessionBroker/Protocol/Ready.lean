import SessionBroker.Protocol.Machine

/-!
# Readiness of a machine

An actor reports that its machine can be reached, or that its address has changed, and gets the
certificate for its connection. Only the first report ends a previous use of the user service.
-/

namespace SessionBroker

structure ReadyRequest where
  token : String
  ip : String
  port : Nat
  secret : String
deriving Repr

namespace ReadyRequest

def reader : RecordReader ReadyRequest :=
  ReadyRequest.mk <$> .required "token" <*> .required "ip" <*> .requiredWith "port" Json.decodeU16
    <*> .required "secret"

instance : FromJson ReadyRequest := ⟨reader.read "ReadyRequest"⟩
instance : ToJson ReadyRequest := ⟨fun r => Json.object
  [("token", toJson r.token), ("ip", toJson r.ip), ("port", toJson r.port), ("secret", toJson r.secret)]⟩

end ReadyRequest

/-- What an actor serves its connection with. -/
structure CertificateReply where
  bundle : CertificateBundle
  ciphers : Option String
deriving DecidableEq, Repr

/-- Old actors read `key` and `certificate`, newer ones the longer names. -/
instance : ToJson CertificateReply := ⟨fun r => Json.object
  [("key", .str r.bundle.key.value), ("private_key", .str r.bundle.key.value),
    ("certificate", .str r.bundle.certificate), ("server_certificate", .str r.bundle.certificate),
    ("password", .str r.bundle.password.value), ("ciphers", toJson r.ciphers)]⟩

/-- Where an actor is talked to. -/
def commsUrl (ip : String) (port : Nat) (secret : String) : String :=
  "https://" ++ ip ++ ":" ++ toString port ++ "/actor/" ++ secret

namespace Ready

inductive State
  | fetch
  | issue (service : UserServiceView)
  | commit (bundle : CertificateBundle)

def start (request : ReadyRequest) : Move State CertificateReply :=
  .ask (.fetchUserService request.token) .fetch

def report (request : ReadyRequest) (clearInUse : Bool) (service : UserServiceView)
    (bundle : CertificateBundle) : ReadyReport where
  userService := service.uuid
  ip := request.ip
  commsUrl := SessionBroker.commsUrl request.ip request.port request.secret
  certificate := bundle
  markOsUsable := service.osState ≠ .usable
  clearInUse := clearInUse

def resume (request : ReadyRequest) (clearInUse : Bool) (ciphers : Option String) (_now : Instant)
    (_draws : Draws) : State → Reply → Move State CertificateReply
  | .fetch, .userService (some service) => .ask (.issueCertificate request.ip) (.issue service)
  | .fetch, .userService none => .fail (.blockAccess "no user service for token")
  | .fetch, _ => .unexpected "ready fetch"
  | .issue service, .certificate (.ok bundle) =>
    .ask (.commitReady (report request clearInUse service bundle)) (.commit bundle)
  | .issue _, .certificate (.error reason) => .fail (.certificate reason)
  | .issue _, _ => .unexpected "ready issue"
  | .commit bundle, .stored => .finish ⟨bundle, ciphers⟩
  | .commit _, _ => .unexpected "ready commit"

def rank : State → Nat
  | .fetch => 2
  | .issue _ => 1
  | .commit _ => 0

theorem resume_below (request : ReadyRequest) (clearInUse : Bool) (ciphers : Option String) (now : Instant)
    (draws : Draws) (s : State) (reply : Reply) :
    (resume request clearInUse ciphers now draws s reply).Below rank (rank s) := by
  unfold resume
  split <;> simp [rank]

def protocol (request : ReadyRequest) (clearInUse : Bool) (ciphers : Option String) :
    Protocol State CertificateReply where
  start := start request
  resume := resume request clearInUse ciphers
  rank := rank
  resume_below := resume_below request clearInUse ciphers

end Ready

end SessionBroker
