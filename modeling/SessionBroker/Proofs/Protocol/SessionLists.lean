import SessionBroker.Proofs.Broker.Departure
import SessionBroker.Proofs.Broker.Shown
import SessionBroker.Proofs.UserService.History

/-!
# What protocols make of session lists

A login opens a session on the user service that its token names, and a logout closes sessions there. The start
of an unmanaged machine closes all sessions of the user service that is bound to it. The other three protocols
leave every list of sessions as it is, and so do these three where there is no such user service.
-/

namespace SessionBroker

open Effect (Keeps)
open Protocol (ofStore ofStore_keeps ofStore_of_ok)
open Broker (backend changeAt Shows)

/-! ## Protocols that only ask for other things -/

theorem Register.protocol_quiet (request : RegisterRequest) (caller : Option StaffUser) (source : String) :
    (protocol request caller source).Asks Query.Quiet where
  start := by
    change (start request caller).Asks _
    unfold start
    cases caller with
    | none => trivial
    | some user =>
      dsimp only
      split <;> trivial
  resume now draws s reply := by
    change (resume request source now draws s reply).Asks _
    unfold resume
    split <;> trivial

theorem Binding.protocol_quiet (request : BindingRequest) : (protocol request).Asks Query.Quiet where
  start := by
    change (start request).Asks _
    unfold start
    cases request.kind <;> trivial
  resume now draws s reply := by
    have own (service : Uuid) : (askOwnAlias request service).Asks Query.Quiet := by
      unfold askOwnAlias
      cases request.ids <;> trivial
    change (resume request now draws s reply).Asks _
    unfold resume
    split
    all_goals first | trivial | exact own _

theorem Ready.protocol_quiet (request : ReadyRequest) (clearInUse : Bool) (ciphers : Option String) :
    (protocol request clearInUse ciphers).Asks Query.Quiet where
  start := trivial
  resume now draws s reply := by
    change (resume request clearInUse ciphers now draws s reply).Asks _
    unfold resume
    split <;> trivial

/-! ## Lists of sessions -/

namespace Broker

/-- The user services have the sessions that the view says, and no OS manager touches them. -/
abbrev Lists (view : Uuid → Option (List Session)) (b : Broker) : Prop :=
  b.Shows (OsManager.Spares UserService.sessions) UserService.sessions view

variable {view : Uuid → Option (List Session)} {b : Broker}

theorem openSession_lists (h : b.Lists view) (token username sessionId : String) (now : Instant) :
    (openSession token username sessionId now b).2.Lists
      (changeAt (b.seat? token) (SessionMark.opened sessionId now).apply view) :=
  openSession_shows UserService.sessions_plain.steady (fun _ hm => hm) (fun _ => rfl) h token username

theorem closeSession_lists (h : b.Lists view) (token username sessionId : String) (now : Instant) :
    (closeSession token username sessionId now b).2.Lists
      (changeAt (b.seat? token) (SessionMark.closed sessionId now).apply view) :=
  closeSession_shows UserService.sessions_plain.steady (fun _ hm => hm) (fun _ => rfl) h token username

theorem release_lists (id : Uuid) (now : Instant) : Keeps (Lists view) (release id now) :=
  release_shows UserService.sessions_plain.steady id now

end Broker

/-- Telling a service about a user. -/
theorem notified_lists {α : Type} {view : Uuid → Option (List Session)} (notification : Notification) (told : α) :
    Keeps (Broker.Lists view) (do
      match ← ofStore (Broker.notifyService notification) with
      | .ok _ => return told
      | .error reason => throw (.notify reason) : Protocol.RunM Broker α) := by
  refine .bind (ofStore_keeps (Broker.notifyService_shows notification)) fun outcome => ?_
  cases outcome with
  | ok _ => exact .pure _
  | error reason => exact .throw _

variable {view : Uuid → Option (List Session)} {b : Broker} (issuer : Issuer) (now : Instant) (draws : Draws)

theorem Protocol.run_lists {ς α : Type} {p : Protocol ς α} (hp : p.Asks Query.Quiet) :
    Keeps (Broker.Lists view) (backend.run issuer p now draws) :=
  p.run_keeps_of_asks _ now draws hp fun _ hquery =>
    Broker.answer_shows UserService.sessions_plain.steady (fun _ hm => hm) hquery issuer now draws

theorem Login.run_lists (h : b.Lists view) (request : LoginRequest) :
    (backend.run issuer (protocol request) now draws b).2.Lists
      (changeAt (b.seat? request.token) (SessionMark.opened draws.session now).apply view) := by
  rw [run_eq_script]
  unfold script
  refine Keeps.after (P := Broker.Lists _) (Broker.openSession_lists h _ request.username _ now) fun opened => ?_
  cases opened with
  | some session => exact .pure _
  | none =>
    dsimp only
    cases request.kind with
    | managed => exact .throw _
    | unmanaged => exact notified_lists (notification request) _

theorem Logout.run_lists (h : b.Lists view) (request : LogoutRequest) :
    (backend.run issuer (protocol request) now draws b).2.Lists
      (changeAt (b.seat? request.token) (SessionMark.closed request.sessionId now).apply view) := by
  rw [run_eq_script]
  unfold script
  refine Keeps.after (P := Broker.Lists _) (Broker.closeSession_lists h _ request.username _ now) fun closed => ?_
  cases closed with
  | some closed =>
    dsimp only
    split
    · exact .bind (ofStore_keeps (Broker.release_lists _ now)) fun _ => .pure _
    · exact .pure _
  | none =>
    dsimp only
    cases request.kind with
    | managed => exact .throw _
    | unmanaged => exact notified_lists (notification request) _

namespace Unmanaged

/-- The user service that is bound to the machine, if an actor may use it. -/
def bound? (b : Broker) (request : UnmanagedRequest) : Option Uuid :=
  (b.findUserService ⟨foldCases (candidateIds request.ids), none, [.usable, .preparing]⟩).bind
    fun u => b.seat? u.uuid.text

/-- The user service that the start of a machine logs out: its service knows the machine, a certificate can be
issued for it, and a user service is bound to it. -/
def loggedOut? (b : Broker) (issuer : Issuer) (password : String) (request : UnmanagedRequest) : Option Uuid := do
  let record ← b.findService request.token true
  let validId ← (b.unmanaged? record.id).bind (·.validId (candidateIds request.ids))
  let ip ← inferIp request.ids (some validId)
  let _ ← (issuer ip password).toOption
  bound? b request

theorem settle_lists (h : b.Lists view) (request : UnmanagedRequest) (service : Uuid) (id : String) :
    (settle backend now request service id b).2.Lists
      (changeAt (bound? b request) (SessionMark.closed "" now).apply view) := by
  have hfind : ofStore (backend.findUserService
      ⟨foldCases (candidateIds request.ids), none, [.usable, .preparing]⟩) b =
      (.ok ((b.findUserService ⟨foldCases (candidateIds request.ids), none, [.usable, .preparing]⟩).map
        UserService.view), b) := rfl
  unfold settle bound?
  rw [Effect.run_bind_of_ok hfind]
  cases b.findUserService ⟨foldCases (candidateIds request.ids), none, [.usable, .preparing]⟩ with
  | none => exact ofStore_keeps (Broker.tellService_shows _ _) b h
  | some u =>
    have hclosed := Broker.closeSession_lists h u.uuid.text username "" now
    refine Keeps.after (P := Broker.Lists _) hclosed fun closed => ?_
    cases closed with
    | none => exact .pure _
    | some closed =>
      dsimp only
      split
      · exact ofStore_keeps (Broker.release_lists _ now)
      · exact .pure _

theorem run_lists (h : b.Lists view) (request : UnmanagedRequest) (ciphers : Option String) :
    (backend.run issuer (protocol request ciphers) now draws b).2.Lists
      (changeAt (loggedOut? b issuer draws.password request) (SessionMark.closed "" now).apply view) := by
  have hfind : ofStore (backend.findService request.token true) b =
      (.ok (b.findService request.token true), b) := rfl
  rw [run_eq_script]
  unfold script loggedOut?
  rw [Effect.run_bind_of_ok hfind]
  cases b.findService request.token true with
  | none => exact h
  | some record =>
    have hresolve : ofStore (backend.resolveValidId record.id (candidateIds request.ids)) b =
        (.ok ((b.unmanaged? record.id).bind (·.validId (candidateIds request.ids))), b) := rfl
    dsimp only [Option.bind_eq_bind, Option.bind_some]
    rw [Effect.run_bind_of_ok hresolve]
    generalize (b.unmanaged? record.id).bind (·.validId (candidateIds request.ids)) = validId
    cases validId with
    | none =>
      -- The machine gets a certificate at most.
      cases inferIp request.ids none with
      | none => exact h
      | some ip =>
        dsimp only
        cases issuer ip draws.password <;> exact h
    | some id =>
      dsimp only [Option.bind_some]
      cases inferIp request.ids (some id) with
      | none => exact h
      | some ip =>
        dsimp only [Option.bind_some]
        cases issuer ip draws.password with
        | error reason => exact h
        | ok bundle =>
          refine Keeps.after (P := Broker.Lists _) (settle_lists now h request record.id id) fun _ => ?_
          exact .bind (ofStore_keeps (Broker.tellService_shows _ _)) fun _ => .pure _

end Unmanaged

/-! ## Where there is a user service -/

namespace Broker

variable {id : Uuid} {token : String}

theorem Keyed.holds (h : b.Keyed) (hseat : b.seat? token = some id) :
    ∃ u, Uuid.parse? token = some id ∧ b.Holds id u ∧ u.state.isValid := by
  obtain ⟨u, hu, huuid⟩ := Option.map_eq_some_iff.mp hseat
  obtain ⟨hnamed, hvalid⟩ := Option.filter_eq_some_iff.mp hu
  obtain ⟨id', htoken, hfound⟩ := Option.bind_eq_some_iff.mp hnamed
  have hid : id' = id := (h id' u hfound).symm.trans huuid
  subst hid
  exact ⟨u, htoken, ⟨hfound, huuid⟩, hvalid⟩

theorem openSession_seated (hseat : b.seat? token = some id) (hthere : (b.userService? id).isSome)
    (username sessionId : String) (now : Instant) : ∃ opened b',
      openSession token username sessionId now b = (.ok (some opened), b') ∧ opened.sessionId = sessionId := by
  obtain ⟨current, hcurrent, huuid⟩ := Option.map_eq_some_iff.mp hseat
  obtain ⟨u, hu⟩ := Option.isSome_iff_exists.mp hthere
  unfold openSession
  rw [hcurrent]
  dsimp only
  rw [huuid, revise_eq hu]
  exact ⟨_, _, rfl, rfl⟩

/-- Where sessions are closed, the user service can be released right after. -/
theorem Keyed.closeSession_seated (h : b.Keyed) (hm : b.Hooks OsManager.KeepsState)
    (hseat : b.seat? token = some id) (username named : String) (now : Instant) : ∃ closed b' b'',
      closeSession token username named now b = (.ok (some closed), b') ∧
        release closed.userService now b' = (.ok (), b'') := by
  obtain ⟨u, htoken, hholds, hvalid⟩ := h.holds hseat
  obtain ⟨closed, v, b', hclose, hid, hafter, hstate, -⟩ :=
    hholds.closeSession (fun m hpool => hm.of_pool hpool) htoken hvalid username named now
  obtain ⟨b'', hrelease⟩ := release_ok hafter.found (hstate ▸ hvalid) now
  exact ⟨closed, b', b'', hclose, hid ▸ hrelease⟩

end Broker

namespace Unmanaged

variable {issuer draws} {request : UnmanagedRequest} (ciphers : Option String) {record : ServiceRecord}
  {ip : String} {bundle : CertificateBundle} (hrecord : b.findService request.token true = some record)

include hrecord

/-- A machine that its service does not know gets a certificate, and that is all. -/
theorem run_unrecognized
    (hvalid : (b.unmanaged? record.id).bind (·.validId (candidateIds request.ids)) = none)
    (hip : inferIp request.ids none = some ip) (hissued : issuer ip draws.password = .ok bundle) :
    backend.run issuer (protocol request ciphers) now draws b = (.ok (.certificate ⟨bundle, ciphers⟩), b) := by
  have hfind : ofStore (backend.findService request.token true) b = (.ok (some record), b) :=
    Broker.ofStore_reading hrecord
  have hresolve : ofStore (backend.resolveValidId record.id (candidateIds request.ids)) b = (.ok none, b) :=
    Broker.ofStore_reading hvalid
  rw [run_eq_script]
  unfold script
  rw [Effect.run_bind_of_ok hfind]
  dsimp only
  rw [Effect.run_bind_of_ok hresolve, hip]
  dsimp only
  rw [hissued]
  rfl

/-- A machine that its service knows is settled, and the service told of the certificate. -/
theorem run_recognized {valid : String} {b' : Broker}
    (hvalid : (b.unmanaged? record.id).bind (·.validId (candidateIds request.ids)) = some valid)
    (hip : inferIp request.ids (some valid) = some ip) (hissued : issuer ip draws.password = .ok bundle)
    (hsettle : settle backend now request record.id valid b = (.ok (), b')) :
    backend.run issuer (protocol request ciphers) now draws b = (.ok (.certificate ⟨bundle, ciphers⟩),
      b'.tellService record.id (.stored valid ⟨bundle.certificate, request.secret, request.port⟩)) := by
  have hfind : ofStore (backend.findService request.token true) b = (.ok (some record), b) :=
    Broker.ofStore_reading hrecord
  have hresolve : ofStore (backend.resolveValidId record.id (candidateIds request.ids)) b = (.ok (some valid), b) :=
    Broker.ofStore_reading hvalid
  rw [run_eq_script]
  unfold script
  rw [Effect.run_bind_of_ok hfind]
  dsimp only
  rw [Effect.run_bind_of_ok hresolve, hip]
  dsimp only
  rw [hissued]
  dsimp only
  rw [Effect.run_bind_of_ok hsettle]
  rfl

end Unmanaged

section Seated

variable {id : Uuid}

theorem Login.run_seated {request : LoginRequest} (hseat : b.seat? request.token = some id)
    (hthere : (b.userService? id).isSome) : ∃ opened b',
      backend.run issuer (protocol request) now draws b = (.ok (.ofSession opened now), b') ∧
        opened.sessionId = draws.session := by
  obtain ⟨opened, b', hopen, hid⟩ := Broker.openSession_seated hseat hthere request.username draws.session now
  refine ⟨opened, b', ?_, hid⟩
  rw [run_eq_script]
  unfold script
  rw [Effect.run_bind_of_ok (m := ofStore (backend.openSession _ _ _ now)) (ofStore_of_ok hopen)]
  rfl

variable (h : b.Keyed) (hm : b.Hooks OsManager.KeepsState)

include h hm

theorem Logout.run_seated {request : LogoutRequest} (hseat : b.seat? request.token = some id) :
    ∃ removed b', backend.run issuer (protocol request) now draws b = (.ok (.closed removed), b') := by
  obtain ⟨u, htoken, hholds, hvalid⟩ := h.holds hseat
  have hkeeps : ∀ m, b.osManager? u.pool = some m → m.KeepsStateAtLogout :=
    fun m hpool => (hm.of_pool hpool).loggedOut
  exact ⟨_, _, Logout.run_held hholds rfl hkeeps hvalid htoken issuer now draws⟩

theorem Unmanaged.settle_seated {request : UnmanagedRequest} (hbound : bound? b request = some id) (service : Uuid)
    (valid : String) : ∃ b', settle backend now request service valid b = (.ok (), b') := by
  obtain ⟨u, hu, hseat⟩ := Option.bind_eq_some_iff.mp hbound
  obtain ⟨v, htoken, hholds, hvalid⟩ := h.holds hseat
  have hid : u.uuid = id := Option.some.inj ((Uuid.parse?_text u.uuid).symm.trans htoken)
  have hkeeps : ∀ m, b.osManager? v.pool = some m → m.KeepsStateAtLogout :=
    fun m hpool => (hm.of_pool hpool).loggedOut
  exact ⟨_, Unmanaged.settle_held hholds rfl hkeeps hvalid hu hid service valid now⟩

theorem Unmanaged.run_seated {request : UnmanagedRequest}
    (hseat : loggedOut? b issuer draws.password request = some id) (ciphers : Option String) :
    ∃ reply b', backend.run issuer (protocol request ciphers) now draws b = (.ok (.certificate reply), b') := by
  unfold loggedOut? at hseat
  simp only [Option.bind_eq_bind, Option.bind_eq_some_iff] at hseat
  obtain ⟨record, hrecord, valid, hvalid, ip, hip, bundle, hbundle, hbound⟩ := hseat
  have hissued : issuer ip draws.password = .ok bundle := by
    cases hissue : issuer ip draws.password with
    | error reason =>
      rw [hissue] at hbundle
      cases hbundle
    | ok issued =>
      rw [hissue] at hbundle
      cases hbundle
      rfl
  obtain ⟨b', hsettle⟩ := settle_seated now h hm hbound record.id valid
  exact ⟨_, _, run_recognized now ciphers hrecord (Option.bind_eq_some_iff.mpr hvalid) hip hissued hsettle⟩

end Seated

end SessionBroker
