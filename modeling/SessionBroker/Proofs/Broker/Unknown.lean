import SessionBroker.Proofs.Broker.Atomic

/-!
# Tokens that nobody has

A managed actor whose token names no user service that is open to actors is blocked from sessions and reports.
A token that the broker does not know at all gets nothing from any protocol, but the protocols do not say so in
one way. Most of them block the access. Those that serve unmanaged machines as well take the token for that of a
service, and end as the service would have refused it.
-/

namespace SessionBroker

namespace Broker

/-- The token is no registered actor's, no user service's and no service's, and it is no alias. -/
structure Unknown (b : Broker) (token : String) : Prop where
  actor : b.validateActorToken token = false
  userService : b.tokenUserService? token = none
  master : b.serviceByMaster token = none
  notAlias : b.findAlias token = none

namespace Unknown

variable {b : Broker} {token : String} (h : b.Unknown token)

include h

theorem findService (throughAlias : Bool) : b.findService token throughAlias = none := by
  have halias : b.serviceByAlias token = none := by
    change (b.findAlias token).bind _ = none
    rw [h.notAlias]
    rfl
  unfold Broker.findService
  rw [h.master]
  cases throughAlias with
  | false => rfl
  | true => exact halias

theorem validUserService? : b.validUserService? token = none := by
  unfold Broker.validUserService?
  rw [h.userService]
  rfl

end Unknown

end Broker

open Broker Protocol

variable (issuer : Issuer) (now : Instant) (draws : Draws) {b : Broker}

/-! ## User services closed to actors -/

/-- A managed actor whose token names no user service that is open to actors does not log on. -/
theorem Login.run_closed {request : LoginRequest} (hkind : request.kind = .managed)
    (h : b.validUserService? request.token = none) :
    backend.run issuer (protocol request) now draws b =
      (.error (.blockAccess "no user service for token"), b) := by
  have hopen : ofStore (backend.openSession request.token request.username draws.session now) b =
      (.ok none, b) := ofStore_of_ok (openSession_none h _ _ now)
  rw [run_eq_script]
  unfold script
  rw [Effect.run_bind_of_ok hopen, hkind]
  rfl

theorem Logout.run_closed {request : LogoutRequest} (hkind : request.kind = .managed)
    (h : b.validUserService? request.token = none) :
    backend.run issuer (protocol request) now draws b =
      (.error (.blockAccess "no user service for token"), b) := by
  have hclose : ofStore (backend.closeSession request.token request.username request.sessionId now) b =
      (.ok none, b) := ofStore_of_ok (closeSession_none h _ _ now)
  rw [run_eq_script]
  unfold script
  rw [Effect.run_bind_of_ok hclose, hkind]
  rfl

theorem Ready.run_closed {request : ReadyRequest} (h : b.validUserService? request.token = none)
    (clearInUse : Bool) (ciphers : Option String) :
    backend.run issuer (protocol request clearInUse ciphers) now draws b =
      (.error (.blockAccess "no user service for token"), b) := by
  have hfetch : ofStore (backend.fetchUserService request.token) b =
      (.ok ((b.validUserService? request.token).map UserService.view), b) := rfl
  rw [run_eq_script]
  unfold script
  rw [Effect.run_bind_of_ok hfetch, h]
  rfl

/-! ## Unknown tokens -/

/-- How a session is refused whose token is unknown. That of an unmanaged machine is refused by notifying
the service. -/
def sessionRefusal : ActorKind → ProtocolError
  | .managed => .blockAccess "no user service for token"
  | .unmanaged => .notify "invalid token"

/-- How a binding is refused. -/
def bindingRefusal : ActorKind → ProtocolError
  | .managed => .blockAccess "invalid actor token"
  | .unmanaged => .blockAccess "unknown service token"

theorem Binding.run_unknown {request : BindingRequest} (h : b.Unknown request.token) :
    backend.run issuer (protocol request) now draws b = (.error (bindingRefusal request.kind), b) := by
  rw [run_eq_script]
  unfold script
  -- The two kinds look the token up in different tables.
  cases request.kind with
  | managed =>
    have hvalid : ofStore (backend.validateActorToken request.token) b =
        (.ok (b.validateActorToken request.token), b) := rfl
    dsimp only
    rw [Effect.run_bind_of_ok hvalid, h.actor]
    rfl
  | unmanaged =>
    have halias : ofStore (backend.findAlias request.token) b = (.ok (b.findAlias request.token), b) := rfl
    have hservice : ofStore (backend.findService request.token false) b =
        (.ok (b.findService request.token false), b) := rfl
    dsimp only
    rw [Effect.run_bind_of_ok halias, h.notAlias]
    dsimp only
    rw [Effect.run_bind_of_ok hservice, h.findService false]
    rfl

/-- A service that nobody has cannot be told about a user. -/
theorem notified_unknown {α : Type} (notification : Notification) (h : b.Unknown notification.token)
    (told : α) : (do
      match ← ofStore (notifyService notification) with
      | .ok _ => return told
      | .error reason => throw (.notify reason) : RunM Broker α) b =
        (.error (.notify "invalid token"), b) := by
  have hnotify : notifyService notification b = (.ok (.error "invalid token"), b) := by
    unfold notifyService
    rw [h.findService true]
  rw [Effect.run_bind_of_ok (ofStore_of_ok hnotify)]
  rfl

theorem Login.run_unknown {request : LoginRequest} (h : b.Unknown request.token) :
    backend.run issuer (protocol request) now draws b = (.error (sessionRefusal request.kind), b) := by
  have hopen : ofStore (backend.openSession request.token request.username draws.session now) b =
      (.ok none, b) := ofStore_of_ok (openSession_none h.validUserService? _ _ now)
  cases hkind : request.kind with
  | managed => exact run_closed issuer now draws hkind h.validUserService?
  | unmanaged =>
    rw [run_eq_script]
    unfold script
    rw [Effect.run_bind_of_ok hopen, hkind]
    exact notified_unknown (notification request) h _

theorem Logout.run_unknown {request : LogoutRequest} (h : b.Unknown request.token) :
    backend.run issuer (protocol request) now draws b = (.error (sessionRefusal request.kind), b) := by
  have hclose : ofStore (backend.closeSession request.token request.username request.sessionId now) b =
      (.ok none, b) := ofStore_of_ok (closeSession_none h.validUserService? _ _ now)
  cases hkind : request.kind with
  | managed => exact run_closed issuer now draws hkind h.validUserService?
  | unmanaged =>
    rw [run_eq_script]
    unfold script
    rw [Effect.run_bind_of_ok hclose, hkind]
    exact notified_unknown (notification request) h _

theorem Unmanaged.run_unknown {request : UnmanagedRequest} (h : b.Unknown request.token)
    (ciphers : Option String) :
    backend.run issuer (protocol request ciphers) now draws b = (.ok .invalidToken, b) := by
  have hfind : ofStore (backend.findService request.token true) b =
      (.ok (b.findService request.token true), b) := rfl
  rw [run_eq_script]
  unfold script
  rw [Effect.run_bind_of_ok hfind, h.findService true]
  rfl

end SessionBroker
