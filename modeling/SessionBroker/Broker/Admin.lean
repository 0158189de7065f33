import SessionBroker.Broker.State

/-!
# Administration of the broker

What is done to the broker from inside: services, pools and user services are added, user services are
taken through their lives, and deleted with all that belongs to them.
-/

namespace SessionBroker.Broker

/-- An operation of the administration, which leaves the state changed also where it fails. -/
abbrev AdminM (α : Type) := ExceptT BrokerError (StateM Broker) α

def addStaff (b : Broker) (token : String) (user : StaffUser) : Broker :=
  { b with staff := b.staff.put token user }

def addService (b : Broker) (record : ServiceRecord) (unmanaged : Option UnmanagedService) : Broker :=
  { b with services := b.services.put record.id ⟨record, unmanaged⟩ }

def addPool (b : Broker) (pool : ServicePool) (osManager : Option OsManager)
    (restraint : RestraintPolicy) : Broker :=
  { b with pools := b.pools.put pool.id ⟨pool, osManager, restraint⟩ }

/-- Unknown pools are not restrained. -/
def isRestrained (b : Broker) (pool : Uuid) (now : Instant) : Bool :=
  match b.pools.get? pool with
  | some entry => entry.restraint.isRestrained (b.errorDates pool) now
  | none => false

def remainingRestraint (b : Broker) (pool : Uuid) (now : Instant) : Duration :=
  match b.pools.get? pool with
  | some entry => entry.restraint.remaining (b.errorDates pool) now
  | none => .zero

/-- Admits a user service, unless its pool is restrained. -/
def addUserService (service : UserService) (provider : Provider) (now : Instant) :
    AdminM (Option Uuid) := do
  let b ← get
  if (b.pools.get? service.pool).isNone then throw (.unknownPool service.pool)
  if b.isRestrained service.pool now then return none
  set { b with userServices := b.userServices.put service.uuid ⟨service, provider⟩ }
  return some service.uuid

/-- Puts another provider behind a user service. One that is not there has none to change. -/
def setProvider (b : Broker) (id : Uuid) (provider : Provider) : Broker :=
  match b.userServices.get? id with
  | none => b
  | some entry =>
    { b with userServices := b.userServices.put id { entry with provider := provider } }

/-- Changes the record of a user service. -/
def withUserService {α : Type} (id : Uuid) (f : UserService → α × UserService) : AdminM α := do
  let b ← get
  match b.userService? id with
  | none => throw (.notFound id)
  | some service =>
    let (a, service) := f service
    set (b.putUserService id service)
    return a

/-- Carries out an operation of a user service's life, and notes the orders that it gave. -/
def attempt (id : Uuid) (f : UserService → Provider → Attempt) : AdminM Unit := do
  let b ← get
  match b.userServices.get? id with
  | none => throw (.notFound id)
  | some entry =>
    let outcome := f entry.service entry.provider
    set { b.putUserService id outcome.service with
      journal := b.journal ++ outcome.orders.map (Notice.provider id) }
    match outcome.error with
    | some e => throw (.userService e)
    | none => return

def finishPreparation (id : Uuid) (now : Instant) : AdminM Unit :=
  attempt id fun u provider => u.finishPreparation provider now

def moveToLevel (id : Uuid) (level : CacheLevel) (now : Instant) : AdminM Unit :=
  attempt id fun u provider => u.moveToLevel level provider now

def cancel (id : Uuid) (now : Instant) : AdminM Unit :=
  attempt id fun u provider => u.cancel provider now

def removeOrCancel (id : Uuid) (now : Instant) : AdminM Unit :=
  attempt id fun u provider => u.removeOrCancel provider now

def assign (id user : Uuid) (now : Instant) : AdminM Unit :=
  withUserService id fun u => ((), u.assignToUser user now)

def environmentOf (b : Broker) (owner : Uuid) : Dict String := (b.environment.get? owner).getD []

def setEnvironment (b : Broker) (owner : Uuid) (key value : String) : Broker :=
  { b with environment := b.environment.put owner (Dict.insert key value (b.environmentOf owner)) }

def logsOf (b : Broker) (owner : Uuid) : List LogEntry := b.logs.filter (·.owner = owner)

/-- Carries out one piece of the work that comes with a deletion. -/
def cleanUp (now : Instant) : UserService × Broker → CleanupAction → UserService × Broker
  | (u, b), .closeSessions _ => (u.endSession "" now, b)
  | (u, b), .clearLogs owner => (u, { b with logs := b.logs.filter (·.owner ≠ owner) })
  | (u, b), .clearEnvironment owner => (u, { b with environment := b.environment.erase owner })

/-- Deletes a user service, and with it its logs and its environment. -/
def deleteUserService (id : Uuid) (now : Instant) : AdminM UserService := do
  let b ← get
  match b.userService? id with
  | none => throw (.notFound id)
  | some service =>
    let rest := { b with userServices := b.userServices.erase id }
    let (service, rest) := service.onDelete.foldl (cleanUp now) (service, rest)
    set rest
    return service

end SessionBroker.Broker
