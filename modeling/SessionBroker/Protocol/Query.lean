import SessionBroker.Actor.Action
import SessionBroker.Actor.Identity
import SessionBroker.Crypto.Certificate
import SessionBroker.Service
import SessionBroker.UserService.Basic

/-!
# Queries and replies

A protocol never touches stored state itself. It asks for what it needs by a `Query` and goes on with
the `Reply`.
-/

namespace SessionBroker

/-- What a service keeps about one of its unmanaged machines. -/
structure IdInfo where
  certificate : String
  secret : String
  port : Nat
deriving DecidableEq, Repr

namespace IdInfo

def reader : RecordReader IdInfo :=
  IdInfo.mk <$> .required "cert" <*> .required "secret" <*> .requiredWith "port" Json.decodeU16

instance : FromJson IdInfo := ⟨reader.read "IdInfo"⟩
instance : ToJson IdInfo := ⟨fun i => Json.object
  [("cert", toJson i.certificate), ("secret", toJson i.secret), ("port", toJson i.port)]⟩

end IdInfo

/-- Which user services an actor may be bound to. -/
structure UserServiceFilter where
  ids : List String
  /-- Only the pools of this service, if there is one. -/
  service : Option Uuid
  states : List ServiceState
deriving DecidableEq, Repr

/-- What an actor reports once its machine can be reached. -/
structure ReadyReport where
  userService : Uuid
  ip : String
  commsUrl : String
  certificate : CertificateBundle
  markOsUsable : Bool
  clearInUse : Bool
deriving DecidableEq, Repr

/-- An event on a machine that the broker does not manage. -/
structure Notification where
  token : String
  action : NotifyAction
  ids : List IdEntry
  sessionType : String
  data : Option Json
deriving Repr

/-- What a protocol needs from outside. -/
inductive Query
  | findActorByMac (mac : String)
  | storeActor (identity : ActorIdentity)
  | validateActorToken (token : String)
  /-- Looks for a service by its master token or, if wanted, by an alias of it. -/
  | findService (token : String) (throughAlias : Bool)
  | findAlias («alias» : String)
  | findAliasFor (service : Uuid) (uniqueId : String)
  | createAlias («alias» : ServiceTokenAlias)
  | findUserService (filter : UserServiceFilter)
  | prepareActor (userService : Uuid) (version : String)
  | fetchUserService (token : String)
  | openSession (token username : String)
  | closeSession (token username sessionId : String)
  | release (userService : Uuid)
  | issueCertificate (ip : String)
  | commitReady (report : ReadyReport)
  | notifyService (notification : Notification)
  | resolveValidId (service : Uuid) (ids : List String)
  | notifyInitialization (service : Uuid) (id : String)
  | storeIdInfo (service : Uuid) (id : String) (info : IdInfo)
deriving Repr

def Query.name : Query → String
  | .findActorByMac .. => "find_actor_by_mac"
  | .storeActor .. => "store_actor"
  | .validateActorToken .. => "validate_actor_token"
  | .findService .. => "find_service"
  | .findAlias .. => "find_alias"
  | .findAliasFor .. => "find_alias_for"
  | .createAlias .. => "create_alias"
  | .findUserService .. => "find_user_service"
  | .prepareActor .. => "prepare_actor"
  | .fetchUserService .. => "fetch_user_service"
  | .openSession .. => "open_session"
  | .closeSession .. => "close_session"
  | .release .. => "release"
  | .issueCertificate .. => "issue_certificate"
  | .commitReady .. => "commit_ready"
  | .notifyService .. => "notify_service"
  | .resolveValidId .. => "resolve_valid_id"
  | .notifyInitialization .. => "notify_initialization"
  | .storeIdInfo .. => "store_id_info"

/-- What protocols get to see of a user service. -/
structure UserServiceView where
  uuid : Uuid
  uniqueId : String
  state : ServiceState
  osState : OsState
  inUse : Bool
deriving DecidableEq, Repr

def UserService.view (u : UserService) : UserServiceView :=
  ⟨u.uuid, u.uniqueId, u.state, u.osState, u.inUse⟩

/-- A user service that an actor has been bound to, with the orders of the OS manager. -/
structure PreparedActor where
  uniqueId : String
  os : Json
deriving Repr

/-- What the OS manager has to say about a login. -/
structure LoginPolicy where
  /-- Seconds without input that are tolerated. -/
  maxIdle : Option Nat
  ignoreDeadline : Bool
deriving DecidableEq, Repr

structure OpenedSession where
  sessionId : String
  source : ConnectionSource
  poolDeadline : Option Instant
  osManager : Option LoginPolicy
deriving DecidableEq, Repr

structure ClosedSession where
  userService : Uuid
  wasInUse : Bool
  /-- Also true where the pool has no OS manager. -/
  removableOnLogout : Bool
deriving DecidableEq, Repr

/-- The answer to a query. -/
inductive Reply
  | stored
  | actor (identity : Option ActorIdentity)
  | tokenValid (valid : Bool)
  | service (record : Option ServiceRecord)
  | «alias» (found : Option ServiceTokenAlias)
  | userService (view : Option UserServiceView)
  | prepared (actor : PreparedActor)
  | sessionOpened (session : Option OpenedSession)
  | sessionClosed (session : Option ClosedSession)
  | certificate (bundle : Except String CertificateBundle)
  | notified (outcome : Except String Unit)
  | validId (id : Option String)

end SessionBroker
