import SessionBroker.UserService.State

/-!
# User services

A user service is one desktop of a pool. The record holds its states, who uses it, the sessions opened
on it in order, and the properties that its actor reported. Fields change only by the operations here
and in `SessionBroker.UserService.Lifecycle`.
-/

namespace SessionBroker

/-- A stretch of use. It is open as long as it has no end. -/
structure Session where
  id : String
  start : Instant
  finish : Option Instant
deriving DecidableEq, Repr

namespace Session

def reader : RecordReader Session :=
  Session.mk <$> .required "id" <*> .required "start" <*> .optional "end"

instance : FromJson Session := ⟨reader.read "Session"⟩

def toJsonWith (stamp : Instant → Json) (s : Session) : Json := Json.object
  [("id", toJson s.id), ("start", stamp s.start), ("end", Json.ofOption (s.finish.map stamp))]

instance : ToJson Session := ⟨toJsonWith toJson⟩

end Session

/-- The machine that a user connects from. -/
structure ConnectionSource where
  ip : String
  hostname : String
deriving DecidableEq, Repr

namespace ConnectionSource

def reader : RecordReader ConnectionSource :=
  ConnectionSource.mk <$> .required "ip" <*> .required "hostname"

instance : FromJson ConnectionSource := ⟨reader.read "ConnectionSource"⟩
instance : ToJson ConnectionSource := ⟨fun c => Json.object
  [("ip", toJson c.ip), ("hostname", toJson c.hostname)]⟩

end ConnectionSource

structure UserService where
  uuid : Uuid
  pool : Uuid
  uniqueId : String
  friendlyName : String
  state : ServiceState
  osState : OsState
  stateDate : Instant
  creationDate : Instant
  cacheLevel : CacheLevel
  inUse : Bool
  inUseDate : Instant
  user : Option Uuid
  actorVersion : String
  sourceIp : String
  sourceHostname : String
  properties : Dict String
  sessions : List Session
  /-- Remove the service as soon as its preparation has ended. -/
  destroyAfter : Bool
deriving DecidableEq, Repr

/-- Whether use of a service begins or ends for the accounts. -/
inductive Accounting
  | start | stop
deriving DecidableEq, Repr

/-- What the owner of a service has to do after its use changed. -/
structure InUseSignal where
  accounting : Accounting
  checkRemoval : Bool
deriving DecidableEq, Repr

/-- Side work that comes with the deletion of a service. -/
inductive CleanupAction
  | clearLogs (owner : Uuid)
  | clearEnvironment (owner : Uuid)
  | closeSessions (owner : Uuid)
deriving DecidableEq, Repr

namespace Property

def ip : String := "ip"
def commsUrl : String := "comms_url"
def certificate : String := "cert"
def privateKey : String := "priv"
def keyPassword : String := "priv_passwd"

end Property

namespace UserService

/-- A service whose preparation has just begun. -/
def fresh (uuid pool : Uuid) (uniqueId friendlyName : String) (level : CacheLevel) (now : Instant) :
    UserService where
  uuid := uuid
  pool := pool
  uniqueId := uniqueId
  friendlyName := friendlyName
  state := .preparing
  osState := .preparing
  stateDate := now
  creationDate := now
  cacheLevel := level
  inUse := false
  inUseDate := .epoch
  user := none
  actorVersion := ""
  sourceIp := ""
  sourceHostname := ""
  properties := []
  sessions := []
  destroyAfter := false

def isUsable (u : UserService) : Bool := u.state = .usable

def isPreparing (u : UserService) : Bool := u.state = .preparing

/-- The date moves only when the state does. -/
def setOsState (u : UserService) (osState : OsState) (now : Instant) : UserService :=
  if osState = u.osState then u else { u with osState := osState, stateDate := now }

def setInUse (u : UserService) (inUse : Bool) (now : Instant) : UserService :=
  { u with inUse := inUse, inUseDate := now }

/-- The signal that goes with a change of use. A released service is due for a check. -/
def inUseSignal (inUse : Bool) : InUseSignal := ⟨if inUse then .start else .stop, !inUse⟩

def assignToUser (u : UserService) (user : Uuid) (now : Instant) : UserService :=
  { u with cacheLevel := .assigned, stateDate := now, user := some user }

def startSession (u : UserService) (id : String) (now : Instant) : UserService :=
  { u with sessions := u.sessions ++ [⟨id, now, none⟩] }

/-- The session is open and is the one named. An empty id names every session. -/
def namesOpen (id : String) (s : Session) : Bool :=
  s.finish.isNone && (id == "" || s.id == id)

def closeSession (id : String) (now : Instant) (s : Session) : Session :=
  if namesOpen id s then { s with finish := some now } else s

def endSession (u : UserService) (id : String) (now : Instant) : UserService :=
  { u with sessions := u.sessions.map (closeSession id now) }

/-- How many sessions `endSession` closes. -/
def closableSessions (u : UserService) (id : String) : Nat := u.sessions.countP (namesOpen id)

def openSessions (u : UserService) : List Session := u.sessions.filter (·.finish.isNone)

def property (u : UserService) (name : String) : Option String := u.properties.find? name

def setProperty (u : UserService) (name value : String) : UserService :=
  { u with properties := Dict.insert name value u.properties }

def logIp (u : UserService) (ip : String) : UserService := u.setProperty Property.ip ip

def setCommsUrl (u : UserService) (url : String) : UserService := u.setProperty Property.commsUrl url

def sourceIpLimit : Nat := 15
def sourceHostnameLimit : Nat := 64

/-- Only the first characters of long sources are kept. -/
def setConnectionSource (u : UserService) (ip hostname : String) : UserService :=
  { u with
    sourceIp := String.ofList (ip.toList.take sourceIpLimit)
    sourceHostname := String.ofList (hostname.toList.take sourceHostnameLimit) }

def connectionSource (u : UserService) : ConnectionSource where
  ip := if u.sourceIp = "" then "0.0.0.0" else u.sourceIp
  hostname := if u.sourceHostname = "" then "unknown" else u.sourceHostname

def onDelete (u : UserService) : List CleanupAction :=
  [.closeSessions u.uuid, .clearEnvironment u.uuid, .clearLogs u.uuid]

def decodeProperties : Json → Decoded (Dict String)
  | .obj members => members.mapM fun (key, j) => (key, ·) <$> fromJson j
  | other => .error (.invalidType other.describe "a map")

def reader : RecordReader UserService :=
  UserService.mk <$> .required "uuid" <*> .required "pool" <*> .required "unique_id"
    <*> .required "friendly_name" <*> .required "state" <*> .required "os_state"
    <*> .required "state_date" <*> .required "creation_date" <*> .required "cache_level"
    <*> .required "in_use" <*> .required "in_use_date" <*> .optional "user"
    <*> .required "actor_version" <*> .required "src_ip" <*> .required "src_hostname"
    <*> .requiredWith "properties" decodeProperties <*> .required "sessions" <*> .required "destroy_after"

instance : FromJson UserService := ⟨reader.read "UserService"⟩

/-- The object form, with instants and the cache level written by the caller. -/
def toJsonWith (stamp : Instant → Json) (level : CacheLevel → Json) (u : UserService) : Json :=
  Json.object
    [("uuid", toJson u.uuid), ("pool", toJson u.pool), ("unique_id", toJson u.uniqueId),
      ("friendly_name", toJson u.friendlyName), ("state", toJson u.state),
      ("os_state", toJson u.osState), ("state_date", stamp u.stateDate),
      ("creation_date", stamp u.creationDate), ("cache_level", level u.cacheLevel),
      ("in_use", toJson u.inUse), ("in_use_date", stamp u.inUseDate), ("user", toJson u.user),
      ("actor_version", toJson u.actorVersion), ("src_ip", toJson u.sourceIp),
      ("src_hostname", toJson u.sourceHostname),
      ("properties", .obj (u.properties.map fun (k, v) => (k, .str v))),
      ("sessions", .arr (u.sessions.map (Session.toJsonWith stamp))),
      ("destroy_after", toJson u.destroyAfter)]

instance : ToJson UserService := ⟨toJsonWith toJson toJson⟩

end UserService

end SessionBroker
