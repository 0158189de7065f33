import SessionBroker.Proofs.Executor.Atomic
import SessionBroker.Proofs.Json.Record

/-!
# Logins and logouts sent as notifications

What an unmanaged machine has to say about its users can be posted as a call, or sent as a notification whose
parameters are all texts. Both reach the same protocol, and as long as no ids are given they come to the same.
A notification of data also takes its ids as the text of a list. That of a login or a logout does not: it is
refused as soon as it names an id, whoever it is about.
-/

namespace SessionBroker

open Protocol (RunM ofStore ofStore_of_ok)

/-! ## Who is told about a user -/

namespace UnmanagedService

variable (service : UnmanagedService) {action : NotifyAction} {ids : List String}

theorem notify_recognized (haction : action ≠ .data) {id : String} (h : service.validId ids = some id)
    (remote : Bool) (data : Option Json) : ∃ event, service.notify action ids remote data = .ok event := by
  unfold notify
  rw [h]
  cases action with
  | login => exact ⟨_, rfl⟩
  | logout => exact ⟨_, rfl⟩
  | data => exact absurd rfl haction

theorem notify_unrecognized (haction : action ≠ .data) (h : service.validId ids = none) (remote : Bool)
    (data : Option Json) : service.notify action ids remote data = .error (.notify "no valid id") := by
  unfold notify
  rw [h]
  cases action with
  | login => rfl
  | logout => rfl
  | data => exact absurd rfl haction

end UnmanagedService

namespace Broker

/-- The token is that of a service that recognizes one of the ids, or an alias of one. -/
def Recognizes (b : Broker) (token : String) (ids : List IdEntry) : Prop :=
  ∃ record service id, b.findService token true = some record ∧ b.unmanaged? record.id = some service ∧
    service.validId (candidateIds ids) = some id

/-- The token is that of a user service that an actor may use, or of a service that recognizes the machine. -/
def Serves (b : Broker) (token : String) (ids : List IdEntry) : Prop :=
  (b.validUserService? token).isSome ∨ b.Recognizes token ids

variable {b : Broker} {notification : Notification}

theorem notifyService_recognized (haction : notification.action ≠ .data)
    (h : b.Recognizes notification.token notification.ids) :
    ∃ b', notifyService notification b = (.ok (.ok ()), b') := by
  obtain ⟨record, service, id, hfind, hservice, hid⟩ := h
  obtain ⟨event, hevent⟩ := service.notify_recognized haction hid (isRemoteSession notification.sessionType)
    notification.data
  unfold notifyService
  simp only [hfind, hservice, hevent]
  exact ⟨_, rfl⟩

theorem notifyService_unrecognized (haction : notification.action ≠ .data)
    (h : ¬ b.Recognizes notification.token notification.ids) :
    ∃ reason, notifyService notification b = (.ok (.error reason), b) := by
  unfold notifyService
  cases hfind : b.findService notification.token true with
  | none => exact ⟨_, rfl⟩
  | some record =>
    cases hservice : b.unmanaged? record.id with
    | none =>
      simp only [hservice]
      exact ⟨_, rfl⟩
    | some service =>
      cases hid : service.validId (candidateIds notification.ids) with
      | some id => exact absurd ⟨record, service, id, hfind, hservice, hid⟩ h
      | none =>
        have hrefused := service.notify_unrecognized haction hid (isRemoteSession notification.sessionType)
          notification.data
        simp only [hservice, hrefused]
        exact ⟨_, rfl⟩

/-- What a run without a user service comes to depends on whether the service recognizes the machine. -/
theorem notified_of (haction : notification.action ≠ .data) {α : Type} (told : α) :
    let run : RunM Broker α := do
      match ← ofStore (notifyService notification) with
      | .ok _ => return told
      | .error reason => throw (.notify reason)
    (b.Recognizes notification.token notification.ids → ∃ b', run b = (.ok told, b')) ∧
      (¬ b.Recognizes notification.token notification.ids → ∃ e, run b = (.error e, b)) := by
  intro run
  constructor
  · intro h
    obtain ⟨b', htaken⟩ := notifyService_recognized haction h
    exact ⟨b', Effect.run_bind_of_ok (ofStore_of_ok htaken) _⟩
  · intro h
    obtain ⟨reason, hrefused⟩ := notifyService_unrecognized haction h
    exact ⟨_, Effect.run_bind_of_ok (ofStore_of_ok hrefused) _⟩

end Broker

open Broker (backend)

section Runs

variable {b : Broker} (h : b.Sound) (issuer : Issuer) (now : Instant) (draws : Draws)

include h

theorem Login.run_of (request : LoginRequest) (hkind : request.kind = .unmanaged) :
    let outcome := backend.run issuer (protocol request) now draws b
    (b.Serves request.token request.ids → ∃ info b', outcome = (.ok info, b')) ∧
      (¬ b.Serves request.token request.ids → ∃ e, outcome = (.error e, b)) := by
  intro outcome
  have houtcome : outcome = script backend now draws request b := by
    rw [← run_eq_script backend issuer now draws request]
  rw [houtcome]
  unfold script
  cases hu : b.validUserService? request.token with
  | some u =>
    obtain ⟨opened, b', hopen⟩ := Broker.openSession_some h hu request.username draws.session now
    rw [Effect.run_bind_of_ok (m := ofStore (backend.openSession _ _ _ now)) (ofStore_of_ok hopen)]
    exact ⟨fun _ => ⟨_, _, rfl⟩, fun hnot => absurd (.inl (by rw [hu]; rfl)) hnot⟩
  | none =>
    have hopen := Broker.openSession_none hu request.username draws.session now
    have hserves : b.Serves request.token request.ids ↔ b.Recognizes request.token request.ids := by
      simp [Broker.Serves, hu]
    have hlogin : (notification request).action ≠ .data := by simp [notification]
    obtain ⟨hyes, hno⟩ := Broker.notified_of (b := b) hlogin LoginInfo.empty
    rw [Effect.run_bind_of_ok (m := ofStore (backend.openSession _ _ _ now)) (ofStore_of_ok hopen), hkind, hserves]
    exact ⟨fun h => ⟨_, hyes h⟩, hno⟩

theorem Logout.run_of (request : LogoutRequest) (hkind : request.kind = .unmanaged) :
    let outcome := backend.run issuer (protocol request) now draws b
    (b.Serves request.token request.ids → ∃ done b', outcome = (.ok done, b')) ∧
      (¬ b.Serves request.token request.ids → ∃ e, outcome = (.error e, b)) := by
  intro outcome
  have houtcome : outcome = script backend now request b := by
    rw [← run_eq_script backend issuer now draws request]
  rw [houtcome]
  unfold script
  cases hu : b.validUserService? request.token with
  | some u =>
    obtain ⟨name, told, -, hclose⟩ := Broker.closeSession_some h hu request.username request.sessionId now
    obtain ⟨b', hrelease⟩ := Broker.release_closed h hclose
    rw [Effect.run_bind_of_ok (m := ofStore (backend.closeSession _ _ _ now)) (ofStore_of_ok hclose)]
    refine ⟨fun _ => ?_, fun hnot => absurd (.inl (by rw [hu]; rfl)) hnot⟩
    dsimp only
    split
    · exact ⟨_, b', Effect.run_bind_of_ok (ofStore_of_ok hrelease) _⟩
    · exact ⟨_, _, rfl⟩
  | none =>
    have hclose := Broker.closeSession_none hu request.username request.sessionId now
    have hserves : b.Serves request.token request.ids ↔ b.Recognizes request.token request.ids := by
      simp [Broker.Serves, hu]
    have hlogout : (notification request).action ≠ .data := by simp [notification]
    obtain ⟨hyes, hno⟩ := Broker.notified_of (b := b) hlogout LogoutOutcome.notified
    rw [Effect.run_bind_of_ok (m := ofStore (backend.closeSession _ _ _ now)) (ofStore_of_ok hclose), hkind, hserves]
    exact ⟨fun h => ⟨_, hyes h⟩, hno⟩

end Runs

/-! ## One report in two forms -/

/-- A record whose other members have no fault is read if the first one is. -/
theorem RecordReader.readMembers_field {α ρ : Type} {r : RecordReader ρ} {name : String} {j : Json}
    {members : List (String × Json)} {value : Decoded α} {make : α → ρ}
    (hcheck : (r.checks.lookup name).bind (· j) = fault value) (hrest : r.firstFault members = none)
    (hread : r.fromMembers ((name, j) :: members) = make <$> value) :
    r.readMembers ((name, j) :: members) = make <$> value := by
  unfold readMembers firstFault
  rw [hcheck, hrest, hread]
  cases value <;> rfl

theorem IdEntry.fromJson_toJson (entry : IdEntry) : (fromJson (toJson entry) : Decoded IdEntry) = .ok entry := rfl

theorem IdEntry.fromJson_toJson_list (entries : List IdEntry) :
    (fromJson (toJson entries) : Decoded (List IdEntry)) = .ok entries :=
  ReadsBack.list fun entry _ => IdEntry.fromJson_toJson entry

/-- An unmanaged machine says that a user comes or leaves. -/
structure SessionReport where
  leaving : Bool
  token : String
  username : String
  sessionType : String
  sessionId : String
  /-- The ids of the machine may be left out. -/
  ids : Option (List IdEntry)

namespace SessionReport

variable (r : SessionReport)

def action : Action := if r.leaving then .logout else .login

def notice : NotifyAction := if r.leaving then .logout else .login

def texts : List (String × Json) :=
  [("session_id", .str r.sessionId), ("session_type", .str r.sessionType), ("token", .str r.token),
    ("type", .str "unmanaged"), ("username", .str r.username)]

/-- The parameters of the call. -/
def posted : Json :=
  .obj (match r.ids with
    | none => r.texts
    | some entries => ("id", toJson entries) :: r.texts)

/-- The parameters of the notification, where a list of ids is written as a text. -/
def sent (encode : List IdEntry → String) : Json :=
  .obj (("action", .str r.notice.name) :: match r.ids with
    | none => r.texts
    | some entries => ("id", .str (encode entries)) :: r.texts)

/-- The ids that are read. -/
def entries : List IdEntry := r.ids.getD []

def login (entries : List IdEntry) : LoginRequest := ⟨.unmanaged, r.token, r.username, r.sessionType, entries⟩

def logout (entries : List IdEntry) : LogoutRequest :=
  ⟨.unmanaged, r.token, r.username, r.sessionId, r.sessionType, entries⟩

/-! A member that is no field does not matter, and the ids are read by themselves. -/

theorem login_action (j : Json) (members : List (String × Json)) :
    (fromJson (.obj (("action", j) :: members)) : Decoded LoginRequest) = fromJson (.obj members) := rfl

theorem logout_action (j : Json) (members : List (String × Json)) :
    (fromJson (.obj (("action", j) :: members)) : Decoded LogoutRequest) = fromJson (.obj members) := rfl

theorem login_ids (j : Json) : (fromJson (.obj (("id", j) :: r.texts)) : Decoded LoginRequest) =
    r.login <$> (fromJson j : Decoded (List IdEntry)) :=
  RecordReader.readMembers_field (r := LoginRequest.reader) rfl rfl rfl

theorem logout_ids (j : Json) : (fromJson (.obj (("id", j) :: r.texts)) : Decoded LogoutRequest) =
    r.logout <$> (fromJson j : Decoded (List IdEntry)) :=
  RecordReader.readMembers_field (r := LogoutRequest.reader) rfl rfl rfl

theorem login_posted : (fromJson r.posted : Decoded LoginRequest) = .ok (r.login r.entries) := by
  unfold posted entries
  cases r.ids with
  | none => rfl
  | some entries =>
    dsimp only
    rw [login_ids, IdEntry.fromJson_toJson_list]
    rfl

theorem logout_posted : (fromJson r.posted : Decoded LogoutRequest) = .ok (r.logout r.entries) := by
  unfold posted entries
  cases r.ids with
  | none => rfl
  | some entries =>
    dsimp only
    rw [logout_ids, IdEntry.fromJson_toJson_list]
    rfl

variable (encode : List IdEntry → String)

theorem login_sent : (fromJson (r.sent encode) : Decoded LoginRequest) =
    match r.ids with
    | none => .ok (r.login r.entries)
    | some entries => .error (.invalidType (Json.str (encode entries)).describe "a sequence") := by
  unfold sent entries
  cases r.ids with
  | none => rfl
  | some entries =>
    dsimp only
    rw [login_action, login_ids]
    rfl

theorem logout_sent : (fromJson (r.sent encode) : Decoded LogoutRequest) =
    match r.ids with
    | none => .ok (r.logout r.entries)
    | some entries => .error (.invalidType (Json.str (encode entries)).describe "a sequence") := by
  unfold sent entries
  cases r.ids with
  | none => rfl
  | some entries =>
    dsimp only
    rw [logout_action, logout_ids]
    rfl

end SessionReport

namespace Executor

open SessionReport

variable (r : SessionReport) (encode : List IdEntry → String) (ctx : RequestContext) (draws : Draws)

section Forms

variable {σ τ : Type} (x : Executor σ τ) (s : State σ τ)

/-- What the report comes to, with the answer to it. -/
def carryOut : CallM σ τ Json :=
  if r.leaving then do
    let outcome ← x.run (Logout.protocol (r.logout r.entries)) ctx draws
    return .str outcome.result
  else do
    let info ← x.run (Login.protocol (r.login r.entries)) ctx draws
    return toJson info

theorem dispatch_posted : x.dispatch ctx draws r.action r.posted s = (do
    let result ← x.carryOut r ctx draws
    return .ok result : CallM σ τ ActorReply) s := by
  unfold dispatch carryOut action
  cases r.leaving with
  | true =>
    refine (Effect.run_bind_of_ok (parameters_of_ok r.logout_posted s) _).trans ?_
    simp only [if_true, bind_assoc, pure_bind]
  | false =>
    refine (Effect.run_bind_of_ok (parameters_of_ok r.login_posted s) _).trans ?_
    simp only [Bool.false_eq_true, if_false, bind_assoc, pure_bind]

/-- A notification that leaves the ids out comes to the same. -/
theorem dispatchNotice_sent (hids : r.ids = none) (token : String) :
    x.dispatchNotice ctx draws r.notice token (r.sent encode) s = (do
      let _ ← x.carryOut r ctx draws : CallM σ τ Unit) s := by
  have hlogin := r.login_sent encode
  have hlogout := r.logout_sent encode
  rw [hids] at hlogin hlogout
  unfold dispatchNotice carryOut notice
  cases r.leaving with
  | true =>
    refine (Effect.run_bind_of_ok (parameters_of_ok hlogout s) _).trans ?_
    simp only [if_true, bind_assoc, pure_bind]
  | false =>
    refine (Effect.run_bind_of_ok (parameters_of_ok hlogin s) _).trans ?_
    simp only [Bool.false_eq_true, if_false, bind_assoc, pure_bind]

/-- One that names ids is refused before anything is done. -/
theorem dispatchNotice_named {entries : List IdEntry} (hids : r.ids = some entries) (token : String) :
    ∃ e, x.dispatchNotice ctx draws r.notice token (r.sent encode) s = (.error e, s) := by
  have hlogin := r.login_sent encode
  have hlogout := r.logout_sent encode
  rw [hids] at hlogin hlogout
  unfold dispatchNotice notice
  cases r.leaving with
  | true => exact ⟨_, Effect.run_bind_of_error (parameters_of_error hlogout s) _⟩
  | false => exact ⟨_, Effect.run_bind_of_error (parameters_of_error hlogin s) _⟩

theorem header_sent : header (r.sent encode) = .ok (r.notice, r.token) := by
  unfold sent header notice
  cases r.leaving <;> cases r.ids <;> rfl

section Unblocked

variable (hblocked : x.isBlocked ctx s = false)

include hblocked

theorem handle_posted :
    let posted := x.handle ctx draws r.action r.posted s
    let done := x.carryOut r ctx draws s
    failed posted.1 = !done.1.isOk ∧ posted.2.backend = done.2.backend := by
  intro posted done
  have hguarded : r.action.bypassesGuard = false := by
    unfold action
    cases r.leaving <;> rfl
  simp only [posted, handle_eq, hguarded, hblocked, Bool.false_eq_true, if_false, dispatch_posted, Effect.run_bind]
  cases hdone : x.carryOut r ctx draws s with
  | mk outcome t =>
    simp only [done, hdone]
    cases outcome with
    | ok result => exact ⟨rfl, rfl⟩
    | error e => exact ⟨rfl, rfl⟩

theorem notify_sent (hids : r.ids = none) :
    let got := x.notify ctx draws (r.sent encode) s
    let done := x.carryOut r ctx draws s
    failed got.1 = !done.1.isOk ∧ got.2.backend = done.2.backend := by
  intro got done
  simp only [got, notify_eq, header_sent, hblocked, Bool.false_eq_true, if_false,
    dispatchNotice_sent r encode ctx draws x s hids, Effect.run_bind]
  cases hdone : x.carryOut r ctx draws s with
  | mk outcome t =>
    simp only [done, hdone]
    cases outcome with
    | ok result => exact ⟨rfl, rfl⟩
    | error e => exact ⟨rfl, rfl⟩

theorem notify_named {entries : List IdEntry} (hids : r.ids = some entries) :
    let got := x.notify ctx draws (r.sent encode) s
    failed got.1 = true ∧ got.2.backend = s.backend := by
  intro got
  obtain ⟨e, hrefused⟩ := dispatchNotice_named r encode ctx draws x s hids r.token
  simp only [got, notify_eq, header_sent, hblocked, Bool.false_eq_true, if_false, hrefused]
  exact ⟨rfl, trivial⟩

end Unblocked

end Forms

/-- Two calls come to the same: they succeed or fail together, and the broker and all that collaborators were
told is the same after them. -/
def Agree (x y : Except ActorError ActorReply × State Broker TicketTable) : Prop :=
  failed x.1 = failed y.1 ∧ x.2.backend = y.2.backend

variable (config : BrokerConfig) (cipher : Cipher) (issuer : Issuer) {s : State Broker TicketTable}

theorem carryOut_of (h : s.backend.Sound) :
    let done := (inMemory config cipher issuer).carryOut r ctx draws s
    (s.backend.Serves r.token r.entries → done.1.isOk = true) ∧
      (¬ s.backend.Serves r.token r.entries → done.1.isOk = false ∧ done.2 = s) := by
  intro done
  cases hleaving : r.leaving with
  | true =>
    obtain ⟨hyes, hno⟩ := Logout.run_of h issuer ctx.now draws (r.logout r.entries) rfl
    simp only [done, carryOut, hleaving, if_true]
    constructor
    · intro hserves
      obtain ⟨outcome, b, hrun⟩ := hyes hserves
      rw [Effect.run_bind_of_ok (run_of_backend (x := inMemory config cipher issuer) hrun)]
      rfl
    · intro hstrange
      obtain ⟨e, hrun⟩ := hno hstrange
      rw [Effect.run_bind_of_error (run_of_backend (x := inMemory config cipher issuer) hrun)]
      exact ⟨rfl, rfl⟩
  | false =>
    obtain ⟨hyes, hno⟩ := Login.run_of h issuer ctx.now draws (r.login r.entries) rfl
    simp only [done, carryOut, hleaving, Bool.false_eq_true, if_false]
    constructor
    · intro hserves
      obtain ⟨info, b, hrun⟩ := hyes hserves
      rw [Effect.run_bind_of_ok (run_of_backend (x := inMemory config cipher issuer) hrun)]
      rfl
    · intro hstrange
      obtain ⟨e, hrun⟩ := hno hstrange
      rw [Effect.run_bind_of_error (run_of_backend (x := inMemory config cipher issuer) hrun)]
      exact ⟨rfl, rfl⟩

/-- The notification of a login or a logout comes to the same as the call exactly if it names no ids, or the
call is refused as well, because the token is neither that of a user service that an actor may use nor that of
a service that recognizes the machine. -/
theorem notice_agrees_iff (h : Reachable (inMemory config cipher issuer) s)
    (hblocked : (inMemory config cipher issuer).isBlocked ctx s = false) :
    let x := inMemory config cipher issuer
    Agree (x.handle ctx draws r.action r.posted s) (x.notify ctx draws (r.sent encode) s) ↔
      r.ids = none ∨ ¬ s.backend.Serves r.token r.entries := by
  intro x
  obtain ⟨hfailed, hbackend⟩ := handle_posted r ctx draws x s hblocked
  obtain ⟨hyes, hno⟩ := carryOut_of r ctx draws config cipher issuer h.sound
  unfold Agree
  rw [hfailed, hbackend]
  cases hids : r.ids with
  | none =>
    obtain ⟨hsent, hsame⟩ := notify_sent r encode ctx draws x s hblocked hids
    exact iff_of_true ⟨hsent.symm, hsame.symm⟩ (.inl rfl)
  | some entries =>
    obtain ⟨hsent, hsame⟩ := notify_named r encode ctx draws x s hblocked hids
    rw [hsent, hsame]
    by_cases hserves : s.backend.Serves r.token r.entries
    · have hok : (x.carryOut r ctx draws s).1.isOk = true := hyes hserves
      simp [hok, hserves]
    · obtain ⟨hok, hstate⟩ := hno hserves
      have hok' : (x.carryOut r ctx draws s).1.isOk = false := hok
      have hstate' : (x.carryOut r ctx draws s).2 = s := hstate
      simp [hok', hstate', hserves]

/-- A service that recognizes one machine. -/
def trialLab : State Broker TicketTable :=
  Event.happen (inMemory .standard TaggedXor.cipher trialIssuer) .initial
    (.administer (.addService ⟨.nil, "lab", some "master"⟩ (some (.recognizing ["aa:bb"]))))

/-- A login on that machine, by the token of the service. -/
def trialReport (ids : Option (List IdEntry)) : SessionReport := ⟨false, "master", "ann", "rdp", "", ids⟩

/-- Without ids both are refused. With an id that the service recognizes only the call is taken. -/
theorem notice_agrees_iff_recognized :
    let x := inMemory .standard TaggedXor.cipher trialIssuer
    let ctx : RequestContext := ⟨.epoch, "10.1.1.1", none⟩
    let draws : Draws := ⟨"", "session", ""⟩
    let agrees := fun r : SessionReport => Agree (x.handle ctx draws r.action r.posted trialLab)
      (x.notify ctx draws (r.sent fun entries => (toJson entries).compact) trialLab)
    Reachable x trialLab ∧ x.isBlocked ctx trialLab = false ∧ agrees (trialReport none) ∧
      ¬ agrees (trialReport (some [⟨"aa:bb", "10.0.0.2"⟩])) := by
  intro x ctx draws agrees
  have hreach : Reachable x trialLab := .next .start _ trivial
  have hserves : trialLab.backend.Serves "master" [⟨"aa:bb", "10.0.0.2"⟩] :=
    .inr ⟨_, _, "aa:bb", rfl, rfl, by decide +kernel⟩
  have hiff (r : SessionReport) := notice_agrees_iff r (fun entries => (toJson entries).compact) ctx draws .standard
    TaggedXor.cipher trialIssuer hreach rfl
  refine ⟨hreach, rfl, (hiff _).mpr (.inl rfl), fun h => ?_⟩
  rcases (hiff _).mp h with hnone | hstrange
  · cases hnone
  · exact hstrange hserves

/-- The call tells the service of the login, and the notification with the same ids as a text is refused. -/
theorem named_notice_refused :
    let x := inMemory .standard TaggedXor.cipher trialIssuer
    let ctx : RequestContext := ⟨.epoch, "10.1.1.1", none⟩
    let draws : Draws := ⟨"", "session", ""⟩
    let ids : List IdEntry := [⟨"aa:bb", "10.0.0.2"⟩]
    let encode := fun entries : List IdEntry => (toJson entries).compact
    let r := trialReport (some ids)
    let call := x.handle ctx draws r.action r.posted trialLab
    let notification := x.notify ctx draws (r.sent encode) trialLab
    Notification.parseEntries? (encode ids) = some ids ∧
      failed call.1 = false ∧ call.2.backend.journal.length = 1 ∧
      failed notification.1 = true ∧ notification.2.backend.journal.length = 0 := by
  decide +kernel

end Executor

end SessionBroker
