import SessionBroker.LogEntry
import SessionBroker.Protocol.Machine

/-!
# Backends

A backend is what the protocols run against: storage, and the collaborators of pools and services. All
its operations may fail. A look-up that finds nothing is no failure. `answer` gives the reply to a query
by the operation of the same name.
-/

namespace SessionBroker

structure Backend (σ : Type) where
  findActorByMac : (mac : String) → StoreM σ (Option ActorIdentity)
  storeActor : ActorIdentity → StoreM σ Unit
  validateActorToken : (token : String) → StoreM σ Bool
  findService : (token : String) → (throughAlias : Bool) → StoreM σ (Option ServiceRecord)
  findAlias : (token : String) → StoreM σ (Option ServiceTokenAlias)
  findAliasFor : (service : Uuid) → (uniqueId : String) → StoreM σ (Option ServiceTokenAlias)
  createAlias : ServiceTokenAlias → StoreM σ Unit
  findUserService : UserServiceFilter → StoreM σ (Option UserServiceView)
  /-- Records the version of the actor and collects the orders of the OS manager. -/
  prepareActor : (userService : Uuid) → (version : String) → Instant → StoreM σ PreparedActor
  fetchUserService : (token : String) → StoreM σ (Option UserServiceView)
  /-- Opens a session under an id that was drawn for it. -/
  openSession : (token username sessionId : String) → Instant → StoreM σ (Option OpenedSession)
  closeSession : (token username sessionId : String) → Instant → StoreM σ (Option ClosedSession)
  release : (userService : Uuid) → Instant → StoreM σ Unit
  commitReady : ReadyReport → Instant → StoreM σ Unit
  /-- The inner result says why the service did not take the notification. -/
  notifyService : Notification → StoreM σ (Except String Unit)
  resolveValidId : (service : Uuid) → (ids : List String) → StoreM σ (Option String)
  notifyInitialization : (service : Uuid) → (id : String) → StoreM σ Unit
  storeIdInfo : (service : Uuid) → (id : String) → IdInfo → StoreM σ Unit
  /-- False where the token names no user service. -/
  recordVersion : (token version ip : String) → StoreM σ Bool
  /-- The version that the actor of a user service reported last. -/
  actorVersion : (token : String) → StoreM σ (Option String)
  /-- False where the token names no user service. -/
  appendLog : (token : String) → LogLevel → (message : String) → Instant → StoreM σ Bool
  authenticate : (bearer : String) → σ → Option StaffUser

/-- The operations of a backend that may fail. -/
inductive Operation
  | findActorByMac | storeActor | validateActorToken | findService | findAlias | findAliasFor
  | createAlias | findUserService | prepareActor | fetchUserService | openSession | closeSession
  | release | commitReady | notifyService | resolveValidId | notifyInitialization | storeIdInfo
  | recordVersion | actorVersion | appendLog
deriving DecidableEq, Repr

namespace Operation

def all : List Operation :=
  [.findActorByMac, .storeActor, .validateActorToken, .findService, .findAlias, .findAliasFor,
    .createAlias, .findUserService, .prepareActor, .fetchUserService, .openSession, .closeSession,
    .release, .commitReady, .notifyService, .resolveValidId, .notifyInitialization, .storeIdInfo,
    .recordVersion, .actorVersion, .appendLog]

def name : Operation → String
  | .findActorByMac => "find_actor_by_mac"
  | .storeActor => "store_actor"
  | .validateActorToken => "validate_actor_token"
  | .findService => "find_service"
  | .findAlias => "find_alias"
  | .findAliasFor => "find_alias_for"
  | .createAlias => "create_alias"
  | .findUserService => "find_user_service"
  | .prepareActor => "prepare_actor"
  | .fetchUserService => "fetch_user_service"
  | .openSession => "open_session"
  | .closeSession => "close_session"
  | .release => "release"
  | .commitReady => "commit_ready"
  | .notifyService => "notify_service"
  | .resolveValidId => "resolve_valid_id"
  | .notifyInitialization => "notify_initialization"
  | .storeIdInfo => "store_id_info"
  | .recordVersion => "record_version"
  | .actorVersion => "actor_version"
  | .appendLog => "append_log"

end Operation

namespace Backend

variable {σ : Type}

open StoreM (guarded)

/-- A backend some of whose operations are out of order. They fail before they do anything. -/
def withFaults (b : Backend σ) (fault : Operation → Option String) : Backend σ where
  findActorByMac mac := guarded (fault .findActorByMac) (b.findActorByMac mac)
  storeActor identity := guarded (fault .storeActor) (b.storeActor identity)
  validateActorToken token := guarded (fault .validateActorToken) (b.validateActorToken token)
  findService token through := guarded (fault .findService) (b.findService token through)
  findAlias token := guarded (fault .findAlias) (b.findAlias token)
  findAliasFor service id := guarded (fault .findAliasFor) (b.findAliasFor service id)
  createAlias record := guarded (fault .createAlias) (b.createAlias record)
  findUserService filter := guarded (fault .findUserService) (b.findUserService filter)
  prepareActor id version now := guarded (fault .prepareActor) (b.prepareActor id version now)
  fetchUserService token := guarded (fault .fetchUserService) (b.fetchUserService token)
  openSession token user id now := guarded (fault .openSession) (b.openSession token user id now)
  closeSession token user id now := guarded (fault .closeSession) (b.closeSession token user id now)
  release id now := guarded (fault .release) (b.release id now)
  commitReady report now := guarded (fault .commitReady) (b.commitReady report now)
  notifyService notification := guarded (fault .notifyService) (b.notifyService notification)
  resolveValidId service ids := guarded (fault .resolveValidId) (b.resolveValidId service ids)
  notifyInitialization service id :=
    guarded (fault .notifyInitialization) (b.notifyInitialization service id)
  storeIdInfo service id info := guarded (fault .storeIdInfo) (b.storeIdInfo service id info)
  recordVersion token version ip := guarded (fault .recordVersion) (b.recordVersion token version ip)
  actorVersion token := guarded (fault .actorVersion) (b.actorVersion token)
  appendLog token level message now := guarded (fault .appendLog) (b.appendLog token level message now)
  authenticate := b.authenticate

/-- The reply to a query. -/
def answer (b : Backend σ) (issuer : Issuer) (now : Instant) (draws : Draws) : Query → StoreM σ Reply
  | .findActorByMac mac => return .actor (← b.findActorByMac mac)
  | .storeActor identity => do b.storeActor identity; return .stored
  | .validateActorToken token => return .tokenValid (← b.validateActorToken token)
  | .findService token through => return .service (← b.findService token through)
  | .findAlias token => return .alias (← b.findAlias token)
  | .findAliasFor service id => return .alias (← b.findAliasFor service id)
  | .createAlias record => do b.createAlias record; return .stored
  | .findUserService filter => return .userService (← b.findUserService filter)
  | .prepareActor id version => return .prepared (← b.prepareActor id version now)
  | .fetchUserService token => return .userService (← b.fetchUserService token)
  | .openSession token user => return .sessionOpened (← b.openSession token user draws.session now)
  | .closeSession token user id => return .sessionClosed (← b.closeSession token user id now)
  | .release id => do b.release id now; return .stored
  | .issueCertificate ip => return .certificate (issuer ip draws.password)
  | .commitReady report => do b.commitReady report now; return .stored
  | .notifyService notification => return .notified (← b.notifyService notification)
  | .resolveValidId service ids => return .validId (← b.resolveValidId service ids)
  | .notifyInitialization service id => do b.notifyInitialization service id; return .stored
  | .storeIdInfo service id info => do b.storeIdInfo service id info; return .stored

/-- Runs a protocol against the backend. -/
def run {τ α : Type} (b : Backend σ) (issuer : Issuer) (p : Protocol τ α) (now : Instant) (draws : Draws) :
    Protocol.RunM σ α :=
  p.run (b.answer issuer now draws) now draws

end Backend

end SessionBroker
