import SessionBroker.Protocol.Machine

/-!
# Logout of a user

A logout closes sessions of the user service that the token names, and releases the service if it was in
use and may be removed. An unmanaged actor whose token names none is passed on to its service.
-/

namespace SessionBroker

structure LogoutRequest where
  kind : ActorKind
  token : String
  username : String
  /-- The session to close; all of them if empty. -/
  sessionId : String
  sessionType : String
  ids : List IdEntry
deriving Repr

namespace LogoutRequest

def reader : RecordReader LogoutRequest :=
  LogoutRequest.mk <$> .defaulted "type" .managed <*> .required "token" <*> .defaulted "username" ""
    <*> .defaulted "session_id" "" <*> .defaulted "session_type" "" <*> .defaulted "id" []

instance : FromJson LogoutRequest := ⟨reader.read "LogoutRequest"⟩
instance : ToJson LogoutRequest := ⟨fun r => Json.object
  [("type", toJson r.kind), ("token", toJson r.token), ("username", toJson r.username),
    ("session_id", toJson r.sessionId), ("session_type", toJson r.sessionType), ("id", toJson r.ids)]⟩

end LogoutRequest

inductive LogoutOutcome
  | closed (released : Bool)
  /-- The logout was passed on to an unmanaged service. -/
  | notified
deriving DecidableEq, Repr

def LogoutOutcome.result : LogoutOutcome → String
  | .closed _ => "ok"
  | .notified => "notified"

namespace Logout

inductive State
  | close
  | release
  | notify

def start (request : LogoutRequest) : Move State LogoutOutcome :=
  .ask (.closeSession request.token request.username request.sessionId) .close

def notification (request : LogoutRequest) : Notification :=
  ⟨request.token, .logout, request.ids, request.sessionType, none⟩

def resume (request : LogoutRequest) (_now : Instant) (_draws : Draws) :
    State → Reply → Move State LogoutOutcome
  | .close, .sessionClosed (some closed) =>
    if closed.wasInUse && closed.removableOnLogout then .ask (.release closed.userService) .release
    else .finish (.closed false)
  | .close, .sessionClosed none => match request.kind with
    | .managed => .fail (.blockAccess "no user service for token")
    | .unmanaged => .ask (.notifyService (notification request)) .notify
  | .close, _ => .unexpected "logout close"
  | .release, .stored => .finish (.closed true)
  | .release, _ => .unexpected "logout release"
  | .notify, .notified (.ok _) => .finish .notified
  | .notify, .notified (.error reason) => .fail (.notify reason)
  | .notify, _ => .unexpected "logout notify"

def rank : State → Nat
  | .close => 1
  | .release | .notify => 0

theorem resume_below (request : LogoutRequest) (now : Instant)
    (draws : Draws) (s : State) (reply : Reply) :
    (resume request now draws s reply).Below rank (rank s) := by
  unfold resume
  split <;> simp [rank]
  all_goals split <;> simp [rank]

def protocol (request : LogoutRequest) : Protocol State LogoutOutcome where
  start := start request
  resume := resume request
  rank := rank
  resume_below := resume_below request

end Logout

end SessionBroker
