import SessionBroker.Protocol.Machine

/-!
# Login of a user

A login opens a session on the user service that the token names. An unmanaged actor whose token names
none is passed on to its service, and learns nothing.
-/

namespace SessionBroker

structure LoginRequest where
  kind : ActorKind
  token : String
  username : String
  sessionType : String
  ids : List IdEntry
deriving Repr

namespace LoginRequest

def reader : RecordReader LoginRequest :=
  LoginRequest.mk <$> .defaulted "type" .managed <*> .required "token" <*> .defaulted "username" ""
    <*> .defaulted "session_type" "" <*> .defaulted "id" []

instance : FromJson LoginRequest := ⟨reader.read "LoginRequest"⟩
instance : ToJson LoginRequest := ⟨fun r => Json.object
  [("type", toJson r.kind), ("token", toJson r.token), ("username", toJson r.username),
    ("session_type", toJson r.sessionType), ("id", toJson r.ids)]⟩

end LoginRequest

/-- What an actor needs to keep a session within its limits. -/
structure LoginInfo where
  ip : String
  hostname : String
  /-- Seconds until the pool closes. -/
  deadline : Option Nat
  /-- Seconds without input that are tolerated. -/
  maxIdle : Option Nat
  sessionId : String
deriving DecidableEq, Repr

namespace LoginInfo

def empty : LoginInfo := ⟨"", "", none, none, ""⟩

/-- The deadline counts unless the OS manager ignores it. -/
def ofSession (opened : OpenedSession) (now : Instant) : LoginInfo where
  ip := opened.source.ip
  hostname := opened.source.hostname
  deadline :=
    if opened.osManager.any (·.ignoreDeadline) then none
    else opened.poolDeadline.map fun deadline => (now.timeUntil deadline).seconds
  maxIdle := opened.osManager.bind (·.maxIdle)
  sessionId := opened.sessionId

instance : ToJson LoginInfo := ⟨fun i => Json.object
  [("ip", toJson i.ip), ("hostname", toJson i.hostname), ("deadline", toJson i.deadline),
    ("max_idle", toJson i.maxIdle), ("session_id", toJson i.sessionId)]⟩

end LoginInfo

namespace Login

inductive State
  | opening
  | notify

def start (request : LoginRequest) : Move State LoginInfo :=
  .ask (.openSession request.token request.username) .opening

def notification (request : LoginRequest) : Notification :=
  ⟨request.token, .login, request.ids, request.sessionType, none⟩

def resume (request : LoginRequest) (now : Instant) (_draws : Draws) :
    State → Reply → Move State LoginInfo
  | .opening, .sessionOpened (some session) => .finish (.ofSession session now)
  | .opening, .sessionOpened none => match request.kind with
    | .managed => .fail (.blockAccess "no user service for token")
    | .unmanaged => .ask (.notifyService (notification request)) .notify
  | .opening, _ => .unexpected "login open"
  | .notify, .notified (.ok _) => .finish .empty
  | .notify, .notified (.error reason) => .fail (.notify reason)
  | .notify, _ => .unexpected "login notify"

def rank : State → Nat
  | .opening => 1
  | .notify => 0

theorem resume_below (request : LoginRequest) (now : Instant)
    (draws : Draws) (s : State) (reply : Reply) :
    (resume request now draws s reply).Below rank (rank s) := by
  unfold resume
  split <;> simp [rank]
  split <;> simp [rank]

def protocol (request : LoginRequest) : Protocol State LoginInfo where
  start := start request
  resume := resume request
  rank := rank
  resume_below := resume_below request

end Login

end SessionBroker
