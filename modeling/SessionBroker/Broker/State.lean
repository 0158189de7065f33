import SessionBroker.LogEntry
import SessionBroker.OsManager
import SessionBroker.Restraint
import SessionBroker.Table
import SessionBroker.UnmanagedService
import SessionBroker.UserService.Lifecycle

/-!
# The broker's state

Everything that the broker keeps, in tables. `journal` lists what the collaborators (providers, OS
managers and services) were told, in order; nothing reads it back, so it only records.
-/

namespace SessionBroker

structure PoolEntry where
  pool : ServicePool
  osManager : Option OsManager
  restraint : RestraintPolicy

structure ServiceEntry where
  record : ServiceRecord
  /-- Missing where the service takes no notifications. -/
  unmanaged : Option UnmanagedService

structure UserServiceEntry where
  service : UserService
  provider : Provider

/-- What a collaborator was told. -/
inductive Notice
  | provider (userService : Uuid) (order : Order)
  | osActorData (uniqueId version : String)
  | osToReady (uniqueId : String)
  | osLoggedIn (uniqueId username : String) (inUse : Bool)
  | osLoggedOut (uniqueId username : String) (inUse : Bool)
  | service (id : Uuid) (event : ServiceEvent)
deriving Repr

namespace Notice

/-- One line per notice to a provider or an OS manager. Those to services have a form of their own. -/
def text? : Notice → Option String
  | .provider _ (.setIp ip) => some ("deployment set_ip " ++ ip)
  | .provider _ .cancel => some "deployment cancel"
  | .provider _ .destroy => some "deployment destroy"
  | .provider _ (.move level) => some ("deployment move " ++ toString level.number)
  | .osActorData id version => some ("os actor_data " ++ id ++ " version " ++ version)
  | .osToReady id => some ("os to_ready " ++ id)
  | .osLoggedIn id username inUse =>
    some ("os logged_in " ++ id ++ " " ++ username ++ " in_use " ++ ServiceEvent.word inUse)
  | .osLoggedOut id username inUse =>
    some ("os logged_out " ++ id ++ " " ++ username ++ " in_use " ++ ServiceEvent.word inUse)
  | .service .. => none

/-- The event, if the notice went to the service. -/
def eventFor? (target : Uuid) : Notice → Option ServiceEvent
  | .service id event => if id = target then some event else none
  | _ => none

end Notice

structure Broker where
  /-- By the MAC that the actor was registered with. -/
  actors : Table String ActorIdentity
  services : Table Uuid ServiceEntry
  aliases : Table String ServiceTokenAlias
  pools : Table Uuid PoolEntry
  userServices : Table Uuid UserServiceEntry
  /-- By bearer token. -/
  staff : Table String StaffUser
  logs : List LogEntry
  environment : Table Uuid (Dict String)
  journal : List Notice

/-- Why an administrative operation failed. -/
inductive BrokerError
  | notFound (userService : Uuid)
  | unknownPool (pool : Uuid)
  | userService (error : UserServiceError)
deriving DecidableEq, Repr

namespace BrokerError

def kind : BrokerError → String
  | .notFound _ => "NotFound"
  | .unknownPool _ => "UnknownPool"
  | .userService error => error.kind

def message : BrokerError → String
  | .notFound id => "No user service with id " ++ id.text ++ "."
  | .unknownPool id => "No pool with id " ++ id.text ++ "."
  | .userService error => error.message

/-- The form in which such a failure reaches a protocol. -/
def toStore (e : BrokerError) : StoreError := ⟨e.message⟩

end BrokerError

namespace Broker

def empty : Broker where
  actors := []
  services := []
  aliases := []
  pools := []
  userServices := []
  staff := []
  logs := []
  environment := []
  journal := []

def tell (b : Broker) (notice : Notice) : Broker := { b with journal := b.journal ++ [notice] }

def userService? (b : Broker) (id : Uuid) : Option UserService :=
  (b.userServices.get? id).map (·.service)

/-- Replaces the record of a user service that is there. -/
def putUserService (b : Broker) (id : Uuid) (service : UserService) : Broker :=
  match b.userServices.get? id with
  | some entry => { b with userServices := b.userServices.put id { entry with service := service } }
  | none => b

def osManager? (b : Broker) (pool : Uuid) : Option OsManager := (b.pools.get? pool).bind (·.osManager)

def unmanaged? (b : Broker) (service : Uuid) : Option UnmanagedService :=
  (b.services.get? service).bind (·.unmanaged)

/-- The user service that a token names in its text form. -/
def tokenUserService? (b : Broker) (token : String) : Option UserService :=
  (Uuid.parse? token).bind b.userService?

/-- The same, if an actor may still use it. -/
def validUserService? (b : Broker) (token : String) : Option UserService :=
  (b.tokenUserService? token).filter (·.state.isValid)

/-- When the user services of a pool that are in the error state came there. -/
def errorDates (b : Broker) (pool : Uuid) : List Instant :=
  (b.userServices.values.filter fun e => e.service.pool = pool && e.service.state = .error).map
    (·.service.stateDate)

end Broker

end SessionBroker
