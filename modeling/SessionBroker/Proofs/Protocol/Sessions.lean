import SessionBroker.Proofs.Broker.Sessions
import SessionBroker.Proofs.Protocol.Interleave
import SessionBroker.Proofs.Text.Uuid

/-!
# Turns of logins and logouts

A login opens a session by one query. A logout closes one and may have to release the service by a second
query. What a turn of either does depends on whether an actor may still use the service: if so, the session
is opened or closed, and otherwise the run is refused or passed on, which leaves the service alone.
-/

namespace SessionBroker

/-- The query marks a user service for removal. -/
def Query.isRelease : Query → Bool
  | .release _ => true
  | _ => false

namespace Login

/-- A login to the user service of an id. -/
structure Arrival (id : Uuid) where
  request : LoginRequest
  names : Uuid.parse? request.token = some id
  now : Instant
  draws : Draws

namespace Arrival

variable {id : Uuid} (x : Arrival id)

def party : Protocol.Party State LoginInfo := ⟨protocol x.request, x.now, x.draws⟩

/-- The login has not been answered yet. -/
def first : Move State LoginInfo := .ask (.openSession x.request.token x.request.username) .opening

/-- The login is passed on to the service that owns the machine. -/
def passedOn : Move State LoginInfo := .ask (.notifyService (notification x.request)) .notify

variable {b : Broker} {u : UserService} (issuer : Issuer)

theorem turn_open (h : b.Holds id u) (hm : ∀ m, b.osManager? u.pool = some m → m.KeepsState)
    (hvalid : u.state.isValid) :
    ∃ info v b', x.party.turn Broker.backend issuer x.first b = (.finish info, b') ∧
      b'.Holds id v ∧ v.state = u.state ∧ v.inUse = true ∧ b'.pools = b.pools := by
  obtain ⟨opened, v, b', hopen, hafter⟩ :=
    h.openSession hm x.names hvalid x.request.username x.draws.session x.now
  have hanswer : Broker.backend.answer issuer x.now x.draws
      (.openSession x.request.token x.request.username) b = (.ok (.sessionOpened (some opened)), b') :=
    Effect.run_bind_of_ok hopen _
  exact ⟨_, v, b', x.party.protocol.step_answered _ _ _ hanswer _, hafter⟩

theorem turn_refused (h : b.Holds id u) (hclosed : u.state.isValid = false) :
    ∃ move, x.party.turn Broker.backend issuer x.first b = (move, b) ∧ (move.Ended ∨ move = x.passedOn) := by
  have hanswer : Broker.backend.answer issuer x.now x.draws
      (.openSession x.request.token x.request.username) b = (.ok (.sessionOpened none), b) :=
    Effect.run_bind_of_ok (Broker.openSession_none (h.validUserService?_none x.names hclosed) _ _ _) _
  refine ⟨_, x.party.protocol.step_answered _ _ _ hanswer _, ?_⟩
  change (resume x.request x.now x.draws .opening (.sessionOpened none)).Ended ∨ _
  unfold resume
  cases hkind : x.request.kind with
  | managed => exact .inl trivial
  | unmanaged => exact .inr (by simp [party, protocol, resume, hkind, passedOn])

theorem turn_passedOn (b : Broker) : ∃ move b', x.party.turn Broker.backend issuer x.passedOn b = (move, b') ∧
    move.Ended ∧ b.Told b' := by
  obtain ⟨outcome, b', hnotify⟩ :=
    Broker.notifyService_total (P := fun _ => True) (notification x.request) b trivial
  have htold : b.Told b' := by
    simpa [hnotify] using Broker.notifyService_told (notification x.request) b
  have hanswer : Broker.backend.answer issuer x.now x.draws (.notifyService (notification x.request)) b =
      (.ok (.notified outcome), b') := Effect.run_bind_of_ok hnotify _
  refine ⟨_, b', x.party.protocol.step_answered _ _ _ hanswer _, ?_, htold⟩
  cases outcome <;> trivial

end Arrival

end Login

namespace Logout

/-- A logout from the user service of an id. -/
structure Departure (id : Uuid) where
  request : LogoutRequest
  names : Uuid.parse? request.token = some id
  now : Instant
  draws : Draws

/-- The user service is released next. -/
def releasing (id : Uuid) : Move State LogoutOutcome := .ask (.release id) .release

namespace Departure

variable {id : Uuid} (x : Departure id)

def party : Protocol.Party State LogoutOutcome := ⟨protocol x.request, x.now, x.draws⟩

/-- The logout has not been answered yet. -/
def first : Move State LogoutOutcome :=
  .ask (.closeSession x.request.token x.request.username x.request.sessionId) .close

/-- The logout is passed on to the service that owns the machine. -/
def passedOn : Move State LogoutOutcome := .ask (.notifyService (notification x.request)) .notify

/-- What the logout leaves of a service that was in use. -/
def leaves (u : UserService) (manager : Option OsManager) : UserService :=
  Broker.departed u manager x.request.username x.request.sessionId x.now

variable {b b' : Broker} {u : UserService} (issuer : Issuer)

theorem turn_closed {closed : ClosedSession}
    (h : Broker.closeSession x.request.token x.request.username x.request.sessionId x.now b =
      (.ok (some closed), b')) :
    x.party.turn Broker.backend issuer x.first b =
      (if closed.wasInUse && closed.removableOnLogout then releasing closed.userService
        else .finish (.closed false), b') := by
  have hanswer : Broker.backend.answer issuer x.now x.draws
      (.closeSession x.request.token x.request.username x.request.sessionId) b =
        (.ok (.sessionClosed (some closed)), b') := Effect.run_bind_of_ok h _
  exact x.party.protocol.step_answered _ _ _ hanswer _

theorem turn_close (h : b.Holds id u) (hm : ∀ m, b.osManager? u.pool = some m → m.KeepsState)
    (hvalid : u.state.isValid) :
    ∃ move v b', x.party.turn Broker.backend issuer x.first b = (move, b') ∧
      (move.Ended ∨ move = releasing id) ∧ b'.Holds id v ∧ v.state = u.state ∧ v.inUse = false ∧
      b'.pools = b.pools := by
  obtain ⟨closed, v, b', hclose, hid, hafter⟩ :=
    h.closeSession hm x.names hvalid x.request.username x.request.sessionId x.now
  refine ⟨_, v, b', x.turn_closed issuer hclose, ?_, hafter⟩
  split
  · exact .inr (congrArg releasing hid)
  · exact .inl trivial

theorem turn_refused (h : b.Holds id u) (hclosed : u.state.isValid = false) :
    ∃ move, x.party.turn Broker.backend issuer x.first b = (move, b) ∧
      (move.Ended ∨ x.request.kind = .unmanaged ∧ move = x.passedOn) := by
  have hanswer : Broker.backend.answer issuer x.now x.draws
      (.closeSession x.request.token x.request.username x.request.sessionId) b =
        (.ok (.sessionClosed none), b) :=
    Effect.run_bind_of_ok (Broker.closeSession_none (h.validUserService?_none x.names hclosed) _ _ _) _
  refine ⟨_, x.party.protocol.step_answered _ _ _ hanswer _, ?_⟩
  cases hkind : x.request.kind with
  | managed => exact .inl (by simp [party, protocol, resume, hkind, Move.Ended])
  | unmanaged => exact .inr ⟨rfl, by simp [party, protocol, resume, hkind, passedOn]⟩

theorem turn_passedOn (b : Broker) : ∃ move b', x.party.turn Broker.backend issuer x.passedOn b = (move, b') ∧
    move.Ended ∧ b.Told b' := by
  obtain ⟨outcome, b', hnotify⟩ :=
    Broker.notifyService_total (P := fun _ => True) (notification x.request) b trivial
  have htold : b.Told b' := by
    simpa [hnotify] using Broker.notifyService_told (notification x.request) b
  have hanswer : Broker.backend.answer issuer x.now x.draws (.notifyService (notification x.request)) b =
      (.ok (.notified outcome), b') := Effect.run_bind_of_ok hnotify _
  refine ⟨_, b', x.party.protocol.step_answered _ _ _ hanswer _, ?_, htold⟩
  cases outcome <;> trivial

theorem turn_releasing (h : b.Holds id u) (hstate : u.state.isTerminal = false) :
    x.party.turn Broker.backend issuer (releasing id) b =
      (.finish (.closed true), b.putUserService id (u.inState .removable x.now)) := by
  have hanswer : Broker.backend.answer issuer x.now x.draws (.release id) b =
      (.ok .stored, b.putUserService id (u.inState .removable x.now)) :=
    Effect.run_bind_of_ok (h.release hstate x.now) _
  exact x.party.protocol.step_answered _ _ _ hanswer _

end Departure

end Logout

/-! ## A trial -/

theorem Uuid.parse?_text_nil : Uuid.parse? Uuid.nil.text = some Uuid.nil := Uuid.parse?_text .nil

/-- A logout from the user service of `Broker.trialDesk`. -/
def Logout.trialDeparture (username : String) : Departure .nil where
  request := ⟨.managed, Uuid.nil.text, username, "", "", []⟩
  names := Uuid.parse?_text_nil
  now := .epoch
  draws := ⟨"", "", ""⟩

/-- A login to it. -/
def Login.trialArrival (username : String) : Arrival .nil where
  request := ⟨.managed, Uuid.nil.text, username, "", []⟩
  names := Uuid.parse?_text_nil
  now := .epoch
  draws := ⟨"", "session", ""⟩

/-- A broker with one user service, which somebody uses. -/
def Broker.trialDesk (manager : Option OsManager) : Broker where
  actors := []
  services := []
  aliases := []
  pools := [(.nil, ⟨⟨.nil, .nil, "pool", none⟩, manager, ⟨.zero, 0⟩⟩)]
  userServices := [(.nil,
    ⟨{ UserService.fresh .nil .nil "desktop" "desktop" .l1 .epoch with inUse := true },
      ⟨true, fun _ => .finished⟩⟩)]
  staff := []
  logs := []
  environment := []
  journal := []

end SessionBroker
