import SessionBroker.Proofs.Broker.Sessions
import SessionBroker.Proofs.Text.Uuid

/-!
# A user leaves

A logout is two operations, the close of sessions and the release of the service. What they come to on a user
service that the broker holds is told here by one record, whether somebody was there or not: its sessions are
closed, it is out of use, and it may go if it was in use until now.
-/

namespace SessionBroker

open Protocol (ofStore ofStore_of_ok)

namespace UserService

/-- Sessions that are closed already stay as they are. -/
theorem endSession_endSession (u : UserService) (id : String) (now later : Instant) :
    (u.endSession id now).endSession id later = u.endSession id now := by
  have again (s : Session) : closeSession id later (closeSession id now s) = closeSession id now s := by
    cases h : namesOpen id s with
    | true =>
      have hclosed : namesOpen id { s with finish := some now } = false := rfl
      simp only [closeSession, h, hclosed, if_true, Bool.false_eq_true, if_false]
    | false => simp only [closeSession, h, Bool.false_eq_true, if_false]
  simp [endSession, again]

end UserService

namespace Broker

variable {b : Broker} {id : Uuid} {u v w : UserService}

/-- Of two records put under an id the second stays. -/
theorem putUserService_putUserService (b : Broker) (id : Uuid) (v w : UserService) :
    (b.putUserService id v).putUserService id w = b.putUserService id w := by
  unfold putUserService
  cases hb : b.userServices.get? id with
  | none =>
    dsimp only
    rw [hb]
  | some entry => simp [Table.get?_put, Table.put_put]

theorem putUserService_self (h : b.userService? id = some u) : b.putUserService id u = b := by
  obtain ⟨entry, hentry, rfl⟩ := Option.map_eq_some_iff.mp h
  unfold putUserService
  rw [hentry]
  dsimp only
  rw [Table.put_of_get? hentry]

theorem putUserService_journaled (b : Broker) (journal : List Notice) (id : Uuid) (v : UserService) :
    { b with journal := journal }.putUserService id v = { b.putUserService id v with journal := journal } := by
  unfold putUserService
  dsimp only
  split <;> rfl

/-! ## What leaving comes to -/

/-- A service whose sessions are closed. If it was in use, its user has left. -/
def vacated (u : UserService) (manager : Option OsManager) (username sessionId : String) (now : Instant) :
    UserService :=
  if u.inUse then departed u manager username sessionId now else u.endSession sessionId now

/-- The OS manager is told of a user who was there. -/
def farewell (u : UserService) (manager : Option OsManager) (username : String) : List Notice :=
  if u.inUse then departure u manager username else []

/-- A service that was in use goes, unless an OS manager wants it to stay. -/
def goes (u : UserService) (manager : Option OsManager) (username sessionId : String) (now : Instant) : Bool :=
  u.inUse && removable manager (vacated u manager username sessionId now)

/-- A service after a logout. -/
def dismissed (u : UserService) (manager : Option OsManager) (username sessionId : String) (now : Instant) :
    UserService :=
  let v := vacated u manager username sessionId now
  if goes u manager username sessionId now then v.inState .removable now else v

section

variable {manager : Option OsManager} (hm : ∀ m, manager = some m → m.KeepsStateAtLogout) (u : UserService)
  (username sessionId : String) (now : Instant)

theorem dismissed_of_goes (h : goes u manager username sessionId now = true) :
    dismissed u manager username sessionId now =
      (vacated u manager username sessionId now).inState .removable now := by
  unfold dismissed
  rw [h]
  rfl

theorem dismissed_of_stays (h : goes u manager username sessionId now = false) :
    dismissed u manager username sessionId now = vacated u manager username sessionId now := by
  unfold dismissed
  rw [h]
  rfl

theorem vacated_inUse : (vacated u manager username sessionId now).inUse = false := by
  unfold vacated
  cases hu : u.inUse with
  | true => exact departed_inUse u username sessionId now
  | false => exact hu

include hm

theorem vacated_uuid : (vacated u manager username sessionId now).uuid = u.uuid := by
  unfold vacated
  split
  · exact departed_uuid hm u username sessionId now
  · rfl

theorem vacated_state : (vacated u manager username sessionId now).state = u.state := by
  unfold vacated
  split
  · exact departed_state hm u username sessionId now
  · rfl

theorem dismissed_uuid : (dismissed u manager username sessionId now).uuid = u.uuid := by
  have hvacated := vacated_uuid hm u username sessionId now
  unfold dismissed
  dsimp only
  split <;> exact hvacated

/-- A service that goes was one that an actor may use, and is removable from then on. -/
theorem dismissed_eq (hvalid : u.state.isValid) :
    dismissed u manager username sessionId now =
      let v := vacated u manager username sessionId now
      if u.inUse && removable manager v then { v with state := .removable, stateDate := now } else v := by
  have hstate : (vacated u manager username sessionId now).state.isValid := by
    rw [vacated_state hm]
    exact hvalid
  unfold dismissed goes
  dsimp only
  rw [UserService.inState_removable_of_valid now hstate]

end

/-- The close of sessions, whether the service is in use or not. -/
theorem Holds.closeSession_eq (h : b.Holds id u) {manager : Option OsManager}
    (hmanager : b.osManager? u.pool = manager) (hm : ∀ m, manager = some m → m.KeepsStateAtLogout)
    {token : String} (htoken : Uuid.parse? token = some id) (hvalid : u.state.isValid)
    (username sessionId : String) (now : Instant) :
    let v := vacated u manager username sessionId now
    Broker.closeSession token username sessionId now b = (.ok (some ⟨id, u.inUse, removable manager v⟩),
      { b with journal := b.journal ++ farewell u manager username }.putUserService id v) := by
  unfold vacated farewell
  cases hu : u.inUse with
  | true => exact h.closeSession_used hmanager hm htoken hvalid hu username sessionId now
  | false =>
    subst hmanager
    rw [if_neg Bool.false_ne_true, if_neg Bool.false_ne_true, List.append_nil]
    exact h.closeSession_idle htoken hvalid hu username sessionId now

/-- The release that follows on a close leaves the service as it is after the logout. -/
theorem Holds.release_vacated (h : b.Holds id u) {manager : Option OsManager}
    (hm : ∀ m, manager = some m → m.KeepsStateAtLogout) (hvalid : u.state.isValid)
    (username sessionId : String) (now : Instant) (hgoes : goes u manager username sessionId now = true)
    (notices : List Notice) :
    Broker.release id now
        ({ b with journal := b.journal ++ notices }.putUserService id (vacated u manager username sessionId now)) =
      (.ok (), { b with journal := b.journal ++ notices }.putUserService id
        (dismissed u manager username sessionId now)) := by
  have huuid := (vacated_uuid hm u username sessionId now).trans h.uuid
  have hvacated := (h.told ⟨notices, rfl⟩).put huuid
  have hterminal : (vacated u manager username sessionId now).state.isTerminal = false := by
    rw [vacated_state hm]
    exact ServiceState.not_terminal_of_valid hvalid
  rw [hvacated.release hterminal, putUserService_putUserService, dismissed_of_goes u username sessionId now hgoes]

end Broker

/-- A logout of a user service that an actor may use is carried out. -/
theorem Logout.run_held {b : Broker} {id : Uuid} {u : UserService} (h : b.Holds id u)
    {manager : Option OsManager} (hmanager : b.osManager? u.pool = manager)
    (hm : ∀ m, manager = some m → m.KeepsStateAtLogout) (hvalid : u.state.isValid) {request : LogoutRequest}
    (htoken : Uuid.parse? request.token = some id) (issuer : Issuer) (now : Instant) (draws : Draws) :
    Broker.backend.run issuer (protocol request) now draws b =
      (.ok (.closed (Broker.goes u manager request.username request.sessionId now)),
        { b with journal := b.journal ++ Broker.farewell u manager request.username }.putUserService id
          (Broker.dismissed u manager request.username request.sessionId now)) := by
  have hclose := h.closeSession_eq hmanager hm htoken hvalid request.username request.sessionId now
  rw [run_eq_script]
  unfold script
  rw [Effect.run_bind_of_ok (m := ofStore (Broker.backend.closeSession _ _ _ now)) (ofStore_of_ok hclose)]
  dsimp only
  change (if Broker.goes u manager request.username request.sessionId now then _ else _ :
    Protocol.RunM Broker LogoutOutcome) _ = _
  cases hgoes : Broker.goes u manager request.username request.sessionId now with
  | true => exact Effect.run_bind_of_ok (ofStore_of_ok (h.release_vacated hm hvalid _ _ now hgoes _)) _
  | false =>
    rw [Broker.dismissed_of_stays u _ _ now hgoes]
    rfl

/-- A logout that finds nobody there and nothing to close changes nothing. -/
theorem Logout.run_idle {b : Broker} {id : Uuid} {u : UserService} (h : b.Holds id u) (hvalid : u.state.isValid)
    {request : LogoutRequest} {now : Instant} (hidle : u.inUse = false)
    (hclosed : u.endSession request.sessionId now = u) (htoken : Uuid.parse? request.token = some id)
    (issuer : Issuer) (draws : Draws) :
    Broker.backend.run issuer (protocol request) now draws b = (.ok (.closed false), b) := by
  have hclose := h.closeSession_idle htoken hvalid hidle request.username request.sessionId now
  dsimp only at hclose
  rw [hclosed, Broker.putUserService_self h.found] at hclose
  rw [run_eq_script]
  unfold script
  exact Effect.run_bind_of_ok (m := ofStore (Broker.backend.closeSession _ _ _ now)) (ofStore_of_ok hclose) _

/-- The user service that is bound to a machine is logged out when the machine starts. -/
theorem Unmanaged.settle_held {b : Broker} {id : Uuid} {u found : UserService} (h : b.Holds id u)
    {manager : Option OsManager} (hmanager : b.osManager? u.pool = manager)
    (hm : ∀ m, manager = some m → m.KeepsStateAtLogout) (hvalid : u.state.isValid) {request : UnmanagedRequest}
    (hfound : b.findUserService ⟨foldCases (candidateIds request.ids), none, [.usable, .preparing]⟩ = some found)
    (hid : found.uuid = id) (service : Uuid) (known : String) (now : Instant) :
    settle Broker.backend now request service known b = (.ok (),
      { b with journal := b.journal ++ Broker.farewell u manager username }.putUserService id
        (Broker.dismissed u manager username "" now)) := by
  have hfind : ofStore (Broker.backend.findUserService
      ⟨foldCases (candidateIds request.ids), none, [.usable, .preparing]⟩) b = (.ok (some found.view), b) :=
    Broker.ofStore_reading (congrArg (Option.map UserService.view) hfound)
  have htoken : Uuid.parse? found.view.uuid.text = some id := hid ▸ Uuid.parse?_text found.uuid
  have hclose := h.closeSession_eq hmanager hm htoken hvalid username "" now
  unfold settle
  rw [Effect.run_bind_of_ok hfind]
  dsimp only
  rw [Effect.run_bind_of_ok (m := ofStore (Broker.backend.closeSession _ _ _ now)) (ofStore_of_ok hclose)]
  dsimp only
  change (if Broker.goes u manager username "" now then _ else _ : Protocol.RunM Broker Unit) _ = _
  cases hgoes : Broker.goes u manager username "" now with
  | true => exact ofStore_of_ok (h.release_vacated hm hvalid _ _ now hgoes _)
  | false =>
    rw [Broker.dismissed_of_stays u _ _ now hgoes]
    rfl

end SessionBroker
