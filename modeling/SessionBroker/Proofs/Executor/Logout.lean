import SessionBroker.Crypto.Certificate
import SessionBroker.Crypto.TaggedXor
import SessionBroker.Proofs.Broker.Departure
import SessionBroker.Proofs.Executor.Direct
import SessionBroker.Proofs.Executor.Records
import SessionBroker.Proofs.Protocol.Sessions
import SessionBroker.Proofs.UserService.History

/-!
# A logout from end to end

What a logout makes of the state of an executor when it presents the id of a user service that an actor may
use: one record is replaced, the count of the source is cleared, and nothing else changes. The record says
whether the service may go. If it stays, the same logout once more finds nothing to do.
-/

namespace SessionBroker

namespace Broker

variable {u : UserService} {manager : Option OsManager}

/-- A service that its OS manager leaves alone when users go, with its sessions closed and out of use. -/
theorem vacated_eq (hm : ∀ m, manager = some m → ∀ v username, m.loggedOut v username = v)
    (username sessionId : String) (now : Instant) :
    vacated u manager username sessionId now =
      { u.endSession sessionId now with
        inUse := false
        inUseDate := if u.inUse then now else u.inUseDate } := by
  unfold vacated
  cases hu : u.inUse with
  | true =>
    rw [if_pos rfl, if_pos rfl]
    cases manager with
    | none => rfl
    | some m =>
      unfold departed
      dsimp only
      rw [hm m rfl]
      rfl
  | false =>
    cases u
    cases hu
    rfl

/-- Nothing is left to be closed there. -/
theorem endSession_vacated (hm : ∀ m, manager = some m → ∀ v username, m.loggedOut v username = v)
    (username sessionId : String) (now later : Instant) :
    (vacated u manager username sessionId now).endSession sessionId later =
      vacated u manager username sessionId now := by
  rw [vacated_eq hm]
  have hagain := u.endSession_endSession sessionId now later
  exact congrArg (fun v => { v with inUse := false, inUseDate := if u.inUse then now else u.inUseDate }) hagain

end Broker

namespace Guard

theorem clear_clear (counters : Counters) (source : String) :
    clear (clear counters source) source = clear counters source := by
  unfold clear Counters.remove Table.erase
  rw [List.filter_filter]
  simp

/-- A source that was let pass is let pass once its count is cleared, whenever it comes. -/
theorem isBlocked_clear {config : GuardConfig} {counters : Counters} {source : String} {now : Instant}
    (h : isBlocked config counters source now = false) (later : Instant) :
    isBlocked config (clear counters source) source later = false := by
  unfold isBlocked at h ⊢
  rw [failures_clear, if_pos rfl]
  cases henabled : config.enabled with
  | false => rfl
  | true =>
    simp only [henabled, Bool.true_and, decide_eq_false_iff_not, Nat.not_le] at h ⊢
    omega

end Guard

namespace Executor

variable {config : BrokerConfig} {cipher : Cipher} {issuer : Issuer} {s : State Broker TicketTable}
  {ctx : RequestContext} {draws : Draws} {params : Json} {request : LogoutRequest}

/-- A logout by the id of a user service that an actor may use, where OS managers leave the service alone when
its users go, is answered. The sessions that it names are closed now if they were open, and the service is out of
use. It can be removed from now on exactly if it was in use and no OS manager wants it to stay. Besides this
record and the count of the source nothing is changed, and an OS manager is told of a user who was there. If the
service stays, the same logout comes to nothing when it is repeated. -/
theorem logout_exact {id : Uuid} {u : UserService} (hs : Attainable (inMemory config cipher issuer) s)
    (hrequest : (fromJson params : Decoded LogoutRequest) = .ok request)
    (htoken : Uuid.parse? request.token = some id) (hfound : s.backend.userService? id = some u)
    (hvalid : u.state = .usable ∨ u.state = .preparing)
    (hpassed : (inMemory config cipher issuer).isBlocked ctx s = false)
    (hspares : ∀ m, s.backend.osManager? u.pool = some m → ∀ v username, m.loggedOut v username = v) :
    let x := inMemory config cipher issuer
    let manager := s.backend.osManager? u.pool
    let left : UserService :=
      { u with
        sessions := u.sessions.map fun session =>
          if session.finish = none ∧ (request.sessionId = "" ∨ session.id = request.sessionId) then
            { session with finish := some ctx.now }
          else session
        inUse := false
        inUseDate := if u.inUse then ctx.now else u.inUseDate }
    let gone := u.inUse && Broker.removable manager left
    let after := if gone then { left with state := .removable, stateDate := ctx.now } else left
    let s' : State Broker TicketTable :=
      { s with
        backend := { s.backend.putUserService id after with
          journal := s.backend.journal ++ Broker.farewell u manager request.username }
        counters := Guard.clear s.counters ctx.source }
    x.handle ctx draws .logout params s = (.ok (.ok (.str "ok")), s') ∧
      s'.backend.userService? id = some after ∧
      (gone = false → ∀ ctx' draws', ctx'.source = ctx.source →
        x.handle ctx' draws' .logout params s' = (.ok (.ok (.str "ok")), s')) := by
  intro x manager left gone after s'
  have hholds : s.backend.Holds id u := hs.kept.holds hfound
  have hopen : u.state.isValid := ServiceState.isValid_iff.mpr hvalid
  have hkeeps : ∀ m, manager = some m → m.KeepsStateAtLogout := by
    intro m hm v username
    rw [hspares m hm]
    exact ⟨rfl, rfl⟩
  have hleft : Broker.vacated u manager request.username request.sessionId ctx.now = left := by
    have hclose : UserService.closeSession request.sessionId ctx.now = fun session =>
        if session.finish = none ∧ (request.sessionId = "" ∨ session.id = request.sessionId) then
          { session with finish := some ctx.now }
        else session :=
      funext (UserService.closeSession_eq_ite request.sessionId ctx.now)
    rw [Broker.vacated_eq hspares, UserService.endSession, hclose]
  have hafter : Broker.dismissed u manager request.username request.sessionId ctx.now = after := by
    rw [Broker.dismissed_eq hkeeps _ _ _ _ hopen, hleft]
  have hrun := Logout.run_held hholds rfl hkeeps hopen htoken issuer ctx.now draws
  rw [hafter, Broker.putUserService_journaled] at hrun
  have hfirst : x.handle ctx draws .logout params s = (.ok (.ok (.str "ok")), s') :=
    handle_answered ctx rfl rfl hpassed hrequest hrun fun _ => rfl
  have hkept : s'.backend.Holds id after := by
    have huuid : after.uuid = id := by
      rw [← hafter, Broker.dismissed_uuid hkeeps]
      exact hholds.uuid
    have hput := (hholds.told ⟨Broker.farewell u manager request.username, rfl⟩).put huuid
    rwa [Broker.putUserService_journaled] at hput
  refine ⟨hfirst, hkept.found, fun hstays ctx' draws' hsource => ?_⟩
  have hsame : after = left := if_neg (by simp [hstays])
  have hagain : Broker.backend.run issuer (Logout.protocol request) ctx'.now draws' s'.backend =
      (.ok (.closed false), s'.backend) := by
    have hclosed : left.endSession request.sessionId ctx'.now = left := by
      rw [← hleft]
      exact Broker.endSession_vacated hspares _ _ _ _
    rw [hsame] at hkept
    exact Logout.run_idle hkept hopen rfl hclosed htoken issuer draws'
  have hpassed' : x.isBlocked ctx' s' = false := by
    unfold Executor.isBlocked
    rw [hsource]
    exact Guard.isBlocked_clear hpassed ctx'.now
  refine (handle_answered ctx' rfl rfl hpassed' hrequest hagain fun _ => rfl).trans ?_
  rw [hsource, Guard.clear_clear]
  rfl

/-- A user logs out of the second of two sessions, on a desktop that its OS manager keeps. -/
theorem logout_exact_kept :
    let x := inMemory .standard TaggedXor.cipher trialIssuer
    let manager := { OsPolicy.standard with removableOnLogout := false }.manager
    let fresh := UserService.fresh .nil .nil "desktop" "desktop" .l1 .epoch
    let events : List Event :=
      [.administer (.addPool ⟨.nil, .nil, "pool", none⟩ (some manager) ⟨.zero, 0⟩),
        .administer (.addUserService fresh ⟨true, fun _ => .finished⟩ .epoch),
        .administer (.edit .nil fun u =>
          ((u.startSession "first" (.ofMs 10)).startSession "second" (.ofMs 20)).setInUse true (.ofMs 10))]
    let s := x.after events .initial
    let ctx : RequestContext := ⟨.ofMs 30, "10.1.1.1", none⟩
    let params : Json := .obj
      [("id", .arr []), ("session_id", .str "second"), ("session_type", .str "local"),
        ("token", .str Uuid.nil.text), ("type", .str "managed"), ("username", .str "ann")]
    ∃ s', x.handle ctx ⟨"", "", ""⟩ .logout params s = (.ok (.ok (.str "ok")), s') ∧
      x.handle ctx ⟨"", "", ""⟩ .logout params s' = (.ok (.ok (.str "ok")), s') ∧
      s'.backend.userService? .nil = some
        { fresh with
          inUseDate := .ofMs 30
          sessions := [⟨"first", .ofMs 10, none⟩, ⟨"second", .ofMs 20, some (.ofMs 30)⟩] } := by
  intro x manager fresh events s ctx params
  have hs : Attainable x s := .equipped .start _ _ _ _ _ _ _ fun _ => rfl
  have hrequest : (fromJson params : Decoded LogoutRequest) =
      .ok ⟨.managed, Uuid.nil.text, "ann", "second", "local", []⟩ := rfl
  have hidle : ∀ m, s.backend.osManager? .nil = some m → ∀ v username, m.loggedOut v username = v := by
    intro m hm v username
    cases hm
    rfl
  obtain ⟨hanswer, hfound, hagain⟩ := logout_exact hs hrequest
    Uuid.parse?_text_nil rfl (.inr rfl) rfl hidle
  exact ⟨_, hanswer, hagain rfl ctx ⟨"", "", ""⟩ rfl, hfound⟩

end Executor

end SessionBroker
