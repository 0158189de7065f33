import SessionBroker.Json.Member
import SessionBroker.Protocol.Query

/-!
# Queries and replies as JSON

A protocol that is driven from outside sends its queries and gets the replies in this form. A query
names its kind beside its parts, a reply holds its value under `value`. Whoever writes chooses the form
of instants; whoever reads takes milliseconds, and parts that are missing as empty. Commands are taken
as a whole or count as empty.
-/

namespace SessionBroker

namespace CertificateBundle

def toJson (b : CertificateBundle) : Json := Json.object
  [("key", .str b.key.value), ("certificate", .str b.certificate), ("password", .str b.password.value)]

def ofJson (j : Json) : CertificateBundle :=
  ⟨⟨j.textAt "key"⟩, j.textAt "certificate", ⟨j.textAt "password"⟩⟩

end CertificateBundle

namespace ActorIdentity

def ofJson (j : Json) : ActorIdentity where
  token := j.textAt "token"
  mac := j.textAt "mac"
  ip := j.textAt "ip"
  ipFrom := j.textAt "ip_from"
  hostname := j.textAt "hostname"
  logLevel := j.intAt "log_level"
  os := j.textAt "os"
  subtype := j.textAt "subtype"
  commands := (j.typedAt? "commands" ActorCommands).getD .empty
  username := j.textAt "username"
  stamp := j.instantAt "stamp"

end ActorIdentity

namespace Query

variable (stamp : Instant → Json)

/-- The parts of a query. -/
def parts : Query → List (String × Json)
  | .findActorByMac mac => [("mac", .str mac)]
  | .storeActor identity => [("identity", identity.toJsonWith stamp)]
  | .validateActorToken token => [("token", .str token)]
  | .findService token through => [("token", .str token), ("through_alias", .bool through)]
  | .findAlias found => [("alias", .str found)]
  | .findAliasFor service uniqueId => [("service", toJson service), ("unique_id", .str uniqueId)]
  | .createAlias a =>
    [("alias", .str a.alias), ("service", toJson a.service), ("unique_id", toJson a.uniqueId)]
  | .findUserService filter =>
    [("ids", toJson filter.ids), ("service", toJson filter.service), ("states", toJson filter.states)]
  | .prepareActor id version => [("user_service", toJson id), ("version", .str version)]
  | .fetchUserService token => [("token", .str token)]
  | .openSession token username => [("token", .str token), ("username", .str username)]
  | .closeSession token username sessionId =>
    [("token", .str token), ("username", .str username), ("session_id", .str sessionId)]
  | .release id => [("user_service", toJson id)]
  | .issueCertificate ip => [("ip", .str ip)]
  | .commitReady report =>
    [("user_service", toJson report.userService), ("ip", .str report.ip),
      ("comms_url", .str report.commsUrl), ("certificate", report.certificate.toJson),
      ("mark_os_usable", .bool report.markOsUsable), ("clear_in_use", .bool report.clearInUse)]
  | .notifyService n =>
    [("token", .str n.token), ("action", .str n.action.name), ("ids", toJson n.ids),
      ("session_type", .str n.sessionType), ("data", Json.ofOption n.data)]
  | .resolveValidId service ids => [("service", toJson service), ("ids", toJson ids)]
  | .notifyInitialization service id => [("service", toJson service), ("id", .str id)]
  | .storeIdInfo service id info => [("service", toJson service), ("id", .str id), ("info", toJson info)]

def toJsonWith (q : Query) : Json := Json.object (("kind", .str q.name) :: q.parts stamp)

def filterOf (j : Json) : UserServiceFilter :=
  ⟨j.textsAt "ids", j.uuidAt? "service",
    (j.itemsAt "states").filterMap fun s => (fromJson s : Decoded ServiceState).toOption⟩

def reportOf (j : Json) : ReadyReport where
  userService := j.uuidAt "user_service"
  ip := j.textAt "ip"
  commsUrl := j.textAt "comms_url"
  certificate := .ofJson (j.valueAt "certificate")
  markOsUsable := j.flagAt "mark_os_usable"
  clearInUse := j.flagAt "clear_in_use"

def notificationOf? (j : Json) : Option Notification := do
  let action ← (NotifyAction.parse (j.textAt "action")).toOption
  let ids := (j.itemsAt "ids").map (Json.readOr fun e => IdEntry.mk (e.textAt "mac") (e.textAt "ip"))
  return ⟨j.textAt "token", action, ids, j.textAt "session_type", j.get? "data"⟩

def infoOf : Json → IdInfo :=
  Json.readOr fun j => ⟨j.textAt "cert", j.textAt "secret", j.natAt "port"⟩

def ofJson? (j : Json) : Option Query :=
  let token := j.textAt "token"
  let service := j.uuidAt "service"
  let userService := j.uuidAt "user_service"
  match j.textAt "kind" with
  | "find_actor_by_mac" => some (.findActorByMac (j.textAt "mac"))
  | "store_actor" => some (.storeActor (.ofJson (j.valueAt "identity")))
  | "validate_actor_token" => some (.validateActorToken token)
  | "find_service" => some (.findService token (j.flagAt "through_alias"))
  | "find_alias" => some (.findAlias (j.textAt "alias"))
  | "find_alias_for" => some (.findAliasFor service (j.textAt "unique_id"))
  | "create_alias" => some (.createAlias ⟨j.textAt "alias", service, j.textAt? "unique_id"⟩)
  | "find_user_service" => some (.findUserService (filterOf j))
  | "prepare_actor" => some (.prepareActor userService (j.textAt "version"))
  | "fetch_user_service" => some (.fetchUserService token)
  | "open_session" => some (.openSession token (j.textAt "username"))
  | "close_session" => some (.closeSession token (j.textAt "username") (j.textAt "session_id"))
  | "release" => some (.release userService)
  | "issue_certificate" => some (.issueCertificate (j.textAt "ip"))
  | "commit_ready" => some (.commitReady (reportOf j))
  | "notify_service" => (notificationOf? j).map .notifyService
  | "resolve_valid_id" => some (.resolveValidId service (j.textsAt "ids"))
  | "notify_initialization" => some (.notifyInitialization service (j.textAt "id"))
  | "store_id_info" => some (.storeIdInfo service (j.textAt "id") (infoOf (j.valueAt "info")))
  | _ => none

end Query

namespace UserServiceView

def toJson (u : UserServiceView) : Json := Json.object
  [("uuid", SessionBroker.toJson u.uuid), ("unique_id", .str u.uniqueId),
    ("state", SessionBroker.toJson u.state), ("os_state", SessionBroker.toJson u.osState),
    ("in_use", .bool u.inUse)]

def ofJson (j : Json) : UserServiceView where
  uuid := j.uuidAt "uuid"
  uniqueId := j.textAt "unique_id"
  state := (j.typedAt? "state" ServiceState).getD .preparing
  osState := (j.typedAt? "os_state" OsState).getD .preparing
  inUse := j.flagAt "in_use"

end UserServiceView

namespace OpenedSession

def policyJson (p : LoginPolicy) : Json := Json.object
  [("max_idle", toJson p.maxIdle), ("ignore_deadline", .bool p.ignoreDeadline)]

def toJsonWith (stamp : Instant → Json) (s : OpenedSession) : Json := Json.object
  [("session_id", .str s.sessionId), ("source", toJson s.source),
    ("pool_deadline", Json.ofOption (s.poolDeadline.map stamp)),
    ("os_manager", Json.ofOption (s.osManager.map policyJson))]

def policyOf (j : Json) : LoginPolicy := ⟨(j.intAt? "max_idle").map Int.toNat, j.flagAt "ignore_deadline"⟩

def ofJson (j : Json) : OpenedSession where
  sessionId := j.textAt "session_id"
  source := Json.readOr (fun source => ⟨source.textAt "ip", source.textAt "hostname"⟩) (j.valueAt "source")
  poolDeadline := j.instantAt? "pool_deadline"
  osManager := (j.member? "os_manager").map policyOf

end OpenedSession

namespace ClosedSession

def toJson (s : ClosedSession) : Json := Json.object
  [("user_service", SessionBroker.toJson s.userService), ("was_in_use", .bool s.wasInUse),
    ("removable_on_logout", .bool s.removableOnLogout)]

def ofJson (j : Json) : ClosedSession :=
  ⟨j.uuidAt "user_service", j.flagAt "was_in_use", j.flagAt "removable_on_logout"⟩

end ClosedSession

namespace Reply

def name : Reply → String
  | .stored => "stored"
  | .actor _ => "actor"
  | .tokenValid _ => "token_valid"
  | .service _ => "service"
  | .alias _ => "alias"
  | .userService _ => "user_service"
  | .prepared _ => "prepared"
  | .sessionOpened _ => "session_opened"
  | .sessionClosed _ => "session_closed"
  | .certificate _ => "certificate"
  | .notified _ => "notified"
  | .validId _ => "valid_id"

/-- The reason of a failure. -/
def reason (text : String) : Json := Json.object [("err", .str text)]

def content (stamp : Instant → Json) : Reply → Json
  | .stored => .null
  | .actor identity => Json.ofOption (identity.map (ActorIdentity.toJsonWith stamp))
  | .tokenValid valid => .bool valid
  | .service record => toJson record
  | .alias found => toJson found
  | .userService view => Json.ofOption (view.map UserServiceView.toJson)
  | .prepared bound => Json.object [("unique_id", .str bound.uniqueId), ("os", bound.os)]
  | .sessionOpened session => Json.ofOption (session.map (OpenedSession.toJsonWith stamp))
  | .sessionClosed session => Json.ofOption (session.map ClosedSession.toJson)
  | .certificate (.ok bundle) => bundle.toJson
  | .certificate (.error e) => reason e
  | .notified (.ok _) => .obj []
  | .notified (.error e) => reason e
  | .validId id => toJson id

def toJsonWith (stamp : Instant → Json) (r : Reply) : Json :=
  Json.object [("kind", .str r.name), ("value", r.content stamp)]

/-- A value, unless a reason is given why there is none. -/
def outcomeOf {α : Type} (read : Json → α) (j : Json) : Except String α :=
  match j.textAt? "err" with
  | some e => .error e
  | none => .ok (read j)

def ofJson? (j : Json) : Option Reply :=
  let value := j.valueAt "value"
  let found := j.member? "value"
  match j.textAt "kind" with
  | "stored" => some .stored
  | "actor" => some (.actor (found.map ActorIdentity.ofJson))
  | "token_valid" => some (.tokenValid (j.flagAt "value"))
  | "service" => some (.service (found.map (Json.readOr fun s =>
    ⟨s.uuidAt "id", s.textAt "name", s.textAt? "token"⟩)))
  | "alias" => some (.alias (found.map (Json.readOr fun a =>
    ⟨a.textAt "alias", a.uuidAt "service", a.textAt? "unique_id"⟩)))
  | "user_service" => some (.userService (found.map UserServiceView.ofJson))
  | "prepared" => some (.prepared ⟨value.textAt "unique_id", value.valueAt "os"⟩)
  | "session_opened" => some (.sessionOpened (found.map OpenedSession.ofJson))
  | "session_closed" => some (.sessionClosed (found.map ClosedSession.ofJson))
  | "certificate" => some (.certificate (outcomeOf CertificateBundle.ofJson value))
  | "notified" => some (.notified (outcomeOf (fun _ => ()) value))
  | "valid_id" => some (.validId value.text?)
  | _ => none

end Reply

end SessionBroker
