import SessionBroker.Broker.Admin
import SessionBroker.Broker.Backend

/-!
# The broker as a backend

The operations of the protocols on the broker's own state. Tokens of managed actors are the ids of their
user services in text form.
-/

namespace SessionBroker.Broker

def findActorByMac (b : Broker) (mac : String) : Option ActorIdentity := b.actors.get? mac

def storeActor (b : Broker) (identity : ActorIdentity) : Broker :=
  { b with actors := b.actors.put identity.mac identity }

def validateActorToken (b : Broker) (token : String) : Bool :=
  b.actors.values.any (·.token = token)

def serviceByMaster (b : Broker) (token : String) : Option ServiceRecord :=
  (b.services.values.find? fun e => e.record.token = some token).map (·.record)

def serviceByAlias (b : Broker) (token : String) : Option ServiceRecord :=
  (b.aliases.get? token).bind fun found => (b.services.get? found.service).map (·.record)

/-- Master tokens go before aliases. -/
def findService (b : Broker) (token : String) (throughAlias : Bool) : Option ServiceRecord :=
  match b.serviceByMaster token with
  | some record => some record
  | none => if throughAlias then b.serviceByAlias token else none

def findAlias (b : Broker) (token : String) : Option ServiceTokenAlias := b.aliases.get? token

def findAliasFor (b : Broker) (service : Uuid) (uniqueId : String) : Option ServiceTokenAlias :=
  b.aliases.values.find? fun a => a.service = service && a.uniqueId = some uniqueId

def createAlias (b : Broker) (record : ServiceTokenAlias) : Broker :=
  { b with aliases := b.aliases.put record.alias record }

/-- The pool belongs to the service that is asked for, if one is. -/
def inScope (b : Broker) (service : Option Uuid) (pool : Uuid) : Bool :=
  match service with
  | none => true
  | some id => match b.pools.get? pool with
    | some entry => entry.pool.service = id
    | none => false

def admits (b : Broker) (filter : UserServiceFilter) (u : UserService) : Bool :=
  filter.ids.contains u.uniqueId && filter.states.contains u.state && b.inScope filter.service u.pool

/-- The service was created earlier; of two created together the one with the smaller id is the first. -/
def precedes (u v : UserService) : Bool :=
  u.creationDate < v.creationDate || (u.creationDate = v.creationDate && compare u.uuid v.uuid == .lt)

/-- The earliest of some services. -/
def earliest : List UserService → Option UserService
  | [] => none
  | u :: rest => match earliest rest with
    | none => some u
    | some v => if precedes v u then some v else some u

def findUserService (b : Broker) (filter : UserServiceFilter) : Option UserService :=
  earliest ((b.userServices.values.map (·.service)).filter (b.admits filter))

/-- Changes the record of a user service. That there is none is a failure of storage. -/
def revise {α : Type} (id : Uuid) (f : UserService → Broker → Except StoreError α × UserService × Broker) :
    StoreM Broker α := fun b =>
  match b.userService? id with
  | none => (.error (BrokerError.notFound id).toStore, b)
  | some service =>
    let (a, service, b) := f service b
    (a, b.putUserService id service)

def prepareActor (id : Uuid) (version : String) : StoreM Broker PreparedActor :=
  revise id fun u b =>
    let manager := b.osManager? u.pool
    let u := { u with actorVersion := version }
    match manager with
    | none => (.ok ⟨u.uniqueId, .null⟩, u, b)
    | some m =>
      let b := b.tell (.osActorData u.uniqueId u.actorVersion)
      let (os, u) := m.actorData u
      (.ok ⟨u.uniqueId, os⟩, u, b)

/-- The first session of a service is reported to the OS manager. -/
def enterUse (u : UserService) (manager : Option OsManager) (username : String) (now : Instant)
    (b : Broker) : UserService × Broker :=
  if u.inUse then (u, b)
  else match manager with
    | none => (u.setInUse true now, b)
    | some m =>
      ((m.loggedIn u username).setInUse true now, b.tell (.osLoggedIn u.uniqueId username u.inUse))

/-- A service that was in use is reported to the OS manager. -/
def leaveUse (u : UserService) (manager : Option OsManager) (username : String) (now : Instant)
    (b : Broker) : UserService × Broker :=
  if !u.inUse then (u, b)
  else match manager with
    | none => (u.setInUse false now, b)
    | some m =>
      ((m.loggedOut u username).setInUse false now, b.tell (.osLoggedOut u.uniqueId username u.inUse))

def openSession (token username sessionId : String) (now : Instant) :
    StoreM Broker (Option OpenedSession) := fun b =>
  match b.validUserService? token with
  | none => (.ok none, b)
  | some current =>
    let pool := b.pools.get? current.pool
    let manager := pool.bind (·.osManager)
    revise current.uuid (fun u b =>
      let (u, b) := enterUse u manager username now b
      let u := u.startSession sessionId now
      (.ok (some {
        sessionId := sessionId
        source := u.connectionSource
        poolDeadline := pool.bind (·.pool.deadline)
        osManager := manager.map fun m => ⟨m.maxIdle, m.ignoreDeadline⟩ }), u, b)) b

def closeSession (token username sessionId : String) (now : Instant) :
    StoreM Broker (Option ClosedSession) := fun b =>
  match b.validUserService? token with
  | none => (.ok none, b)
  | some current =>
    let manager := b.osManager? current.pool
    revise current.uuid (fun u b =>
      let u := u.endSession sessionId now
      let wasInUse := u.inUse
      let (u, b) := leaveUse u manager username now b
      let removable := match manager with
        | some m => m.isRemovableOnLogout u
        | none => true
      (.ok (some ⟨u.uuid, wasInUse, removable⟩), u, b)) b

def release (id : Uuid) (now : Instant) : StoreM Broker Unit :=
  revise id fun u b => match u.release now with
    | .ok v => (.ok (), v, b)
    | .error e => (.error (BrokerError.userService e).toStore, u, b)

/-- The guest has come up. -/
def markOsUsable (u : UserService) (manager : Option OsManager) (now : Instant) (b : Broker) :
    UserService × Broker :=
  let u := u.setOsState .usable now
  match manager with
  | none => (u, b)
  | some m => (m.toReady u, b.tell (.osToReady u.uniqueId))

def commitReady (report : ReadyReport) (now : Instant) : StoreM Broker Unit :=
  revise report.userService fun u b =>
    let manager := b.osManager? u.pool
    let u := u.logIp report.ip
    let b := b.tell (.provider report.userService (.setIp report.ip))
    let u := u.setCommsUrl report.commsUrl
    let (u, b) := if report.markOsUsable then markOsUsable u manager now b else (u, b)
    let u := u.setProperty Property.certificate report.certificate.certificate
    let u := u.setProperty Property.privateKey report.certificate.key.value
    let u := u.setProperty Property.keyPassword report.certificate.password.value
    let u := if report.clearInUse then u.setInUse false now else u
    (.ok (), u, b)

def notifyService (notification : Notification) : StoreM Broker (Except String Unit) := fun b =>
  match b.findService notification.token true with
  | none => (.ok (.error "invalid token"), b)
  | some record => match b.unmanaged? record.id with
    | none => (.ok (.error ("service " ++ record.name ++ " does not take notifications")), b)
    | some service =>
      match service.notify notification.action (candidateIds notification.ids)
          (isRemoteSession notification.sessionType) notification.data with
      | .ok event => (.ok (.ok ()), b.tell (.service record.id event))
      | .error e => (.ok (.error e.message), b)

/-- Tells a service something, if it takes notifications. -/
def tellService (b : Broker) (service : Uuid) (event : ServiceEvent) : Broker :=
  if (b.unmanaged? service).isSome then b.tell (.service service event) else b

def recordVersion (b : Broker) (token version ip : String) : Bool × Broker :=
  match Uuid.parse? token with
  | none => (false, b)
  | some id => match b.userService? id with
    | none => (false, b)
    | some u => (true, b.putUserService id ({ u with actorVersion := version }.logIp ip))

def appendLog (b : Broker) (token : String) (level : LogLevel) (message : String) (now : Instant) :
    Bool × Broker :=
  match (Uuid.parse? token).filter fun id => (b.userServices.get? id).isSome with
  | none => (false, b)
  | some owner => (true, { b with logs := b.logs ++ [⟨owner, level, .actor, message, now⟩] })

/-- An operation that only looks. -/
def reading {α : Type} (f : Broker → α) : StoreM Broker α := fun b => (.ok (f b), b)

/-- An operation that cannot fail. -/
def writing {α : Type} (f : Broker → α × Broker) : StoreM Broker α := fun b =>
  let (a, b) := f b
  (.ok a, b)

def backend : Backend Broker where
  findActorByMac mac := reading (·.findActorByMac mac)
  storeActor identity := writing fun b => ((), b.storeActor identity)
  validateActorToken token := reading (·.validateActorToken token)
  findService token throughAlias := reading (·.findService token throughAlias)
  findAlias token := reading (·.findAlias token)
  findAliasFor service uniqueId := reading (·.findAliasFor service uniqueId)
  createAlias record := writing fun b => ((), b.createAlias record)
  findUserService filter := reading fun b => (b.findUserService filter).map UserService.view
  prepareActor id version _ := prepareActor id version
  fetchUserService token := reading fun b => (b.validUserService? token).map UserService.view
  openSession := openSession
  closeSession := closeSession
  release := release
  commitReady := commitReady
  notifyService := notifyService
  resolveValidId service ids := reading fun b => (b.unmanaged? service).bind (·.validId ids)
  notifyInitialization service id := writing fun b => ((), b.tellService service (.started id))
  storeIdInfo service id info := writing fun b => ((), b.tellService service (.stored id info))
  recordVersion token version ip := writing (·.recordVersion token version ip)
  actorVersion token := reading fun b => (b.tokenUserService? token).map (·.actorVersion)
  appendLog token level message now := writing (·.appendLog token level message now)
  authenticate bearer b := b.staff.get? bearer

end SessionBroker.Broker
