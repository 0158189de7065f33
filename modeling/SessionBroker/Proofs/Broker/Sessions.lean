import SessionBroker.Proofs.Broker.Atomic
import SessionBroker.Proofs.UserService.Outcome

/-!
# Sessions on one user service

What a broker does with the sessions of a user service that it keeps, whatever else is in it. A service that
an actor may use takes every session and gives up every one. The first close reports the user to the OS
manager, and those that find nobody there report nobody. A service that was released takes no sessions any
more.
-/

namespace SessionBroker

/-- Users may come and go without the manager touching the id or the state of the service. -/
structure OsManager.KeepsState (m : OsManager) : Prop where
  loggedIn : ∀ u username, (m.loggedIn u username).uuid = u.uuid ∧ (m.loggedIn u username).state = u.state
  loggedOut : ∀ u username, (m.loggedOut u username).uuid = u.uuid ∧ (m.loggedOut u username).state = u.state

/-- A user may go without the manager touching the id or the state of the service. -/
def OsManager.KeepsStateAtLogout (m : OsManager) : Prop :=
  ∀ u username, (m.loggedOut u username).uuid = u.uuid ∧ (m.loggedOut u username).state = u.state

theorem OsManager.Discreet.keepsState {m : OsManager} (h : m.Discreet) : m.KeepsState where
  loggedIn u username := by
    obtain ⟨name, hname⟩ := h.loggedIn u username
    rw [hname]
    exact ⟨rfl, rfl⟩
  loggedOut u username := by
    obtain ⟨name, hname⟩ := h.loggedOut u username
    rw [hname]
    exact ⟨rfl, rfl⟩

namespace Broker

/-- The service is kept under the id, and the id is its own. -/
structure Holds (b : Broker) (id : Uuid) (u : UserService) : Prop where
  found : b.userService? id = some u
  uuid : u.uuid = id

theorem putUserService_pools (b : Broker) (id : Uuid) (v : UserService) :
    (b.putUserService id v).pools = b.pools := by
  unfold putUserService
  split <;> rfl

theorem putUserService_journal (b : Broker) (id : Uuid) (v : UserService) :
    (b.putUserService id v).journal = b.journal := by
  unfold putUserService
  split <;> rfl

theorem Told.pools {b b' : Broker} (h : b.Told b') : b'.pools = b.pools := by
  obtain ⟨notices, rfl⟩ := h
  rfl

variable {b b' : Broker} {id : Uuid} {u v : UserService}

theorem Holds.told (h : b.Holds id u) (ht : b.Told b') : b'.Holds id u := by
  obtain ⟨notices, rfl⟩ := ht
  exact ⟨h.found, h.uuid⟩

theorem Holds.put (h : b.Holds id u) (hv : v.uuid = id) : (b.putUserService id v).Holds id v := by
  refine ⟨?_, hv⟩
  rw [userService?_putUserService, if_pos rfl, h.found]
  rfl

theorem Holds.validUserService? (h : b.Holds id u) {token : String} (htoken : Uuid.parse? token = some id)
    (hvalid : u.state.isValid) : b.validUserService? token = some u := by
  unfold Broker.validUserService? tokenUserService?
  rw [htoken, Option.bind_some, h.found, Option.filter_some, if_pos hvalid]

theorem Holds.validUserService?_none (h : b.Holds id u) {token : String}
    (htoken : Uuid.parse? token = some id) (hclosed : u.state.isValid = false) :
    b.validUserService? token = none := by
  unfold Broker.validUserService? tokenUserService?
  rw [htoken, Option.bind_some, h.found, Option.filter_some, hclosed]
  rfl

/-! ## A user comes -/

theorem enterUse_kept {manager : Option OsManager} (hm : ∀ m, manager = some m → m.KeepsState)
    (u : UserService) (username : String) (now : Instant) (b : Broker) :
    let v := (enterUse u manager username now b).1
    v.uuid = u.uuid ∧ v.state = u.state ∧ v.inUse = true := by
  unfold enterUse
  cases hu : u.inUse with
  | true => exact ⟨rfl, rfl, hu⟩
  | false =>
    cases manager with
    | none => exact ⟨rfl, rfl, rfl⟩
    | some m =>
      obtain ⟨huuid, hstate⟩ := (hm m rfl).loggedIn u username
      exact ⟨huuid, hstate, rfl⟩

/-- A service that an actor may use takes a session, and is in use then. -/
theorem Holds.openSession (h : b.Holds id u) (hm : ∀ m, b.osManager? u.pool = some m → m.KeepsState)
    {token : String} (htoken : Uuid.parse? token = some id) (hvalid : u.state.isValid)
    (username sessionId : String) (now : Instant) :
    ∃ opened v b', openSession token username sessionId now b = (.ok (some opened), b') ∧
      b'.Holds id v ∧ v.state = u.state ∧ v.inUse = true ∧ b'.pools = b.pools := by
  obtain ⟨huuid, hstate, hinUse⟩ := enterUse_kept hm u username now b
  have htold : b.Told (enterUse u (b.osManager? u.pool) username now b).2 := enterUse_told u username now b
  unfold osManager? at huuid hstate hinUse htold
  unfold Broker.openSession
  rw [h.validUserService? htoken hvalid]
  dsimp only
  rw [h.uuid, revise_eq h.found]
  refine ⟨_, _, _, rfl, (h.told htold).put (huuid.trans h.uuid), hstate, hinUse, ?_⟩
  rw [putUserService_pools]
  exact htold.pools

/-! ## A user leaves -/

/-- A service whose user has left, closing a session or all of them. -/
def departed (u : UserService) (manager : Option OsManager) (username sessionId : String) (now : Instant) :
    UserService :=
  match manager with
  | none => (u.endSession sessionId now).setInUse false now
  | some m => (m.loggedOut (u.endSession sessionId now) username).setInUse false now

/-- What the OS manager is told then. -/
def departure (u : UserService) (manager : Option OsManager) (username : String) : List Notice :=
  match manager with
  | none => []
  | some _ => [.osLoggedOut u.uniqueId username true]

section

variable {manager : Option OsManager} (hm : ∀ m, manager = some m → m.KeepsStateAtLogout)
  (u : UserService)
  (username sessionId : String) (now : Instant)

theorem departed_inUse : (departed u manager username sessionId now).inUse = false := by
  cases manager <;> rfl

include hm

theorem departed_uuid : (departed u manager username sessionId now).uuid = u.uuid := by
  cases manager with
  | none => rfl
  | some m => exact (hm m rfl _ username).1

theorem departed_state : (departed u manager username sessionId now).state = u.state := by
  cases manager with
  | none => rfl
  | some m => exact (hm m rfl _ username).2

end

theorem leaveUse_used (hu : u.inUse = true) (manager : Option OsManager) (username sessionId : String)
    (now : Instant) (b : Broker) :
    leaveUse (u.endSession sessionId now) manager username now b =
      (departed u manager username sessionId now,
        { b with journal := b.journal ++ departure u manager username }) := by
  have hended : (u.endSession sessionId now).inUse = true := hu
  unfold leaveUse
  rw [hended]
  cases manager with
  | none => simp [departed, departure]
  | some m => simp [departed, departure, tell, UserService.endSession]

/-- The close of a session of a service in use is the end of its use. -/
theorem Holds.closeSession_used (h : b.Holds id u) {manager : Option OsManager}
    (hmanager : b.osManager? u.pool = manager) (hm : ∀ m, manager = some m → m.KeepsStateAtLogout)
    {token : String} (htoken : Uuid.parse? token = some id) (hvalid : u.state.isValid)
    (hu : u.inUse = true) (username sessionId : String) (now : Instant) :
    let v := departed u manager username sessionId now
    closeSession token username sessionId now b = (.ok (some ⟨id, true, removable manager v⟩),
      { b with journal := b.journal ++ departure u manager username }.putUserService id v) := by
  intro v
  have huuid : v.uuid = id := (departed_uuid hm u username sessionId now).trans h.uuid
  have hended : (u.endSession sessionId now).inUse = true := hu
  unfold closeSession
  rw [h.validUserService? htoken hvalid]
  dsimp only
  rw [h.uuid, revise_eq h.found, hmanager, leaveUse_used hu, hended]
  dsimp only
  rw [huuid]
  rfl

/-- Where nobody is there, a close is about the sessions alone. -/
theorem Holds.closeSession_idle (h : b.Holds id u) {token : String} (htoken : Uuid.parse? token = some id)
    (hvalid : u.state.isValid) (hu : u.inUse = false) (username sessionId : String) (now : Instant) :
    let v := u.endSession sessionId now
    closeSession token username sessionId now b =
      (.ok (some ⟨id, false, removable (b.osManager? u.pool) v⟩), b.putUserService id v) := by
  intro v
  have hended : v.inUse = false := hu
  have huuid : v.uuid = id := h.uuid
  have hleft : leaveUse v (b.osManager? u.pool) username now b = (v, b) := by
    unfold leaveUse
    rw [hended]
    rfl
  unfold closeSession
  rw [h.validUserService? htoken hvalid]
  dsimp only
  rw [h.uuid, revise_eq h.found, hleft, hended]
  dsimp only
  rw [huuid]
  rfl

/-- A service that an actor may use gives up a session, and is out of use then. -/
theorem Holds.closeSession (h : b.Holds id u) (hm : ∀ m, b.osManager? u.pool = some m → m.KeepsState)
    {token : String} (htoken : Uuid.parse? token = some id) (hvalid : u.state.isValid)
    (username sessionId : String) (now : Instant) :
    ∃ closed v b', closeSession token username sessionId now b = (.ok (some closed), b') ∧
      closed.userService = id ∧ b'.Holds id v ∧ v.state = u.state ∧ v.inUse = false ∧ b'.pools = b.pools := by
  have hleave : ∀ m, b.osManager? u.pool = some m → m.KeepsStateAtLogout := fun m hpool => (hm m hpool).loggedOut
  cases hu : u.inUse with
  | true =>
    refine ⟨_, _, _, h.closeSession_used rfl hleave htoken hvalid hu username sessionId now, rfl, ?_,
      departed_state hleave u username sessionId now, departed_inUse u username sessionId now, ?_⟩
    · exact (h.told ⟨_, rfl⟩).put ((departed_uuid hleave u username sessionId now).trans h.uuid)
    · rw [putUserService_pools]
  | false =>
    exact ⟨_, _, _, h.closeSession_idle htoken hvalid hu username sessionId now, rfl, h.put h.uuid, rfl, hu,
      putUserService_pools b id _⟩

/-! ## The service goes -/

theorem Holds.release (h : b.Holds id u) (hstate : u.state.isTerminal = false) (now : Instant) :
    release id now b = (.ok (), b.putUserService id (u.inState .removable now)) := by
  unfold Broker.release
  rw [revise_eq h.found, u.release_eq, hstate]
  rfl

end Broker

end SessionBroker
