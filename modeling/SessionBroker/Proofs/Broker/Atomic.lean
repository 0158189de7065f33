import SessionBroker.Proofs.Broker.Sound
import SessionBroker.Proofs.Protocol.Script

/-!
# Protocols on a sound broker are atomic

The protocols ask for one operation after the other, and nothing undoes an operation. Yet a protocol that
fails against a sound broker has changed nothing: what can fail comes before the first change, and what comes
after it finds the user service that it is about in a state that admits it.
-/

namespace SessionBroker

open Effect (Atomic Keeps Looks Total)

namespace Broker

variable {b b' : Broker} {u v : UserService}

/-! ## What is found -/

theorem mem_of_earliest {services : List UserService} (h : earliest services = some u) :
    u ∈ services := by
  induction services generalizing u with
  | nil => cases h
  | cons w rest ih =>
    unfold earliest at h
    cases hrest : earliest rest with
    | none =>
      rw [hrest] at h
      cases h
      exact List.mem_cons_self
    | some x =>
      rw [hrest] at h
      dsimp only at h
      split at h
      · cases h
        exact List.mem_cons_of_mem _ (ih hrest)
      · cases h
        exact List.mem_cons_self

theorem Kept.mem_services (h : b.Kept) :
    u ∈ b.userServices.values.map (·.service) ↔ b.userService? u.uuid = some u := by
  constructor
  · intro hmem
    obtain ⟨entry, hentry, rfl⟩ := List.mem_map.mp hmem
    obtain ⟨⟨id, entry⟩, hrow, rfl⟩ := List.mem_map.mp hentry
    have hid : entry.service.uuid = id := h.keyed _ hrow
    rw [hid]
    exact userService?_of_get? (Table.get?_of_mem h.distinct hrow)
  · intro hu
    obtain ⟨entry, hentry, hservice⟩ := Option.map_eq_some_iff.mp hu
    exact List.mem_map.mpr ⟨entry, List.mem_map.mpr ⟨_, Table.mem_of_get? hentry, rfl⟩, hservice⟩

/-- A user service that a search finds is kept under its id, and is one that the search admits. -/
theorem Kept.found (h : b.Kept) {filter : UserServiceFilter} (hu : b.findUserService filter = some u) :
    b.userService? u.uuid = some u ∧ b.admits filter u := by
  obtain ⟨hmem, hadmitted⟩ := List.mem_filter.mp (mem_of_earliest hu)
  exact ⟨h.mem_services.mp hmem, hadmitted⟩

theorem Kept.validUserService? (h : b.Kept) {token : String} (hu : b.validUserService? token = some u) :
    b.userService? u.uuid = some u ∧ u.state.isValid := by
  obtain ⟨hu, hvalid⟩ := Option.filter_eq_some_iff.mp hu
  obtain ⟨id, -, hid⟩ := Option.bind_eq_some_iff.mp hu
  obtain ⟨entry, hentry, rfl⟩ := Option.map_eq_some_iff.mp hid
  have huuid : entry.service.uuid = id := h.keyed _ (Table.mem_of_get? hentry)
  rw [huuid]
  exact ⟨hid, hvalid⟩

/-! ## The operations one by one -/

theorem reading_looks {α : Type} (f : Broker → α) : Looks (reading f) := fun _ => rfl

theorem writing_total {α : Type} {P : Broker → Prop} (f : Broker → α × Broker) : Total P (writing f) :=
  fun b _ => ⟨(f b).1, (f b).2, rfl⟩

theorem revise_eq {α : Type} {id : Uuid} (hu : b.userService? id = some u)
    (f : UserService → Broker → Except StoreError α × UserService × Broker) :
    revise id f b = ((f u b).1, (f u b).2.2.putUserService id (f u b).2.1) := by
  unfold revise
  rw [hu]

theorem prepareActor_ok {id : Uuid} (hu : b.userService? id = some u) (version : String) :
    ∃ actor b', prepareActor id version b = (.ok actor, b') := by
  unfold prepareActor
  rw [revise_eq hu]
  dsimp only
  cases b.osManager? u.pool <;> exact ⟨_, _, rfl⟩

theorem openSession_some (h : b.Sound) {token : String} (hu : b.validUserService? token = some u)
    (username sessionId : String) (now : Instant) :
    ∃ opened b', openSession token username sessionId now b = (.ok (some opened), b') := by
  unfold openSession
  rw [hu]
  dsimp only
  rw [revise_eq (h.kept.validUserService? hu).1]
  exact ⟨_, _, rfl⟩

theorem openSession_none {token : String} (hu : b.validUserService? token = none)
    (username sessionId : String) (now : Instant) :
    openSession token username sessionId now b = (.ok none, b) := by
  unfold openSession
  rw [hu]

theorem closeSession_some (h : b.Sound) {token : String} (hu : b.validUserService? token = some u)
    (username sessionId : String) (now : Instant) : ∃ name told, b.Told told ∧
      closeSession token username sessionId now b =
        (.ok (some ⟨u.uuid, u.inUse, removable (b.osManager? u.pool) (loggedOff u sessionId name now)⟩),
          told.putUserService u.uuid (loggedOff u sessionId name now)) := by
  have hm : ∀ m, b.osManager? u.pool = some m → m.Discreet := fun m hm => h.discreet_of_osManager? hm
  have hfound : b.userService? u.uuid = some u := (h.kept.validUserService? hu).1
  cases hleft : leaveUse (u.endSession sessionId now) (b.osManager? u.pool) username now b with
  | mk v told =>
    obtain ⟨name, hname⟩ := leaveUse_service hm (u.endSession sessionId now) username now b
    have htold : b.Told (leaveUse (u.endSession sessionId now) (b.osManager? u.pool) username now b).2 :=
      leaveUse_told _ username now b
    rw [hleft] at hname htold
    have hv : v = loggedOff u sessionId name now := hname
    refine ⟨name, told, htold, ?_⟩
    unfold closeSession
    rw [hu]
    dsimp only
    rw [revise_eq hfound, hleft, hv]
    rfl

theorem closeSession_none {token : String} (hu : b.validUserService? token = none)
    (username sessionId : String) (now : Instant) :
    closeSession token username sessionId now b = (.ok none, b) := by
  unfold closeSession
  rw [hu]

theorem release_ok {id : Uuid} (hu : b.userService? id = some u) (hvalid : u.state.isValid)
    (now : Instant) : ∃ b', release id now b = (.ok (), b') := by
  have hr : u.release now = .ok { u with state := .removable, stateDate := now } := by
    unfold UserService.release UserService.setState
    cases hs : u.state <;> simp_all [ServiceState.isValid, ServiceState.isTerminal]
  unfold release
  rw [revise_eq hu, hr]
  exact ⟨_, rfl⟩

/-- What a logout leaves can be released. -/
theorem release_closed (h : b.Sound) {token username sessionId : String} {now : Instant}
    {closed : ClosedSession} (hclose : closeSession token username sessionId now b = (.ok (some closed), b')) :
    ∃ b'', release closed.userService now b' = (.ok (), b'') := by
  cases hu : b.validUserService? token with
  | none =>
    rw [closeSession_none hu] at hclose
    cases hclose
  | some u =>
    obtain ⟨hfound, hvalid⟩ := h.kept.validUserService? hu
    obtain ⟨name, told, ⟨notices, rfl⟩, heq⟩ := closeSession_some h hu username sessionId now
    rw [heq] at hclose
    cases hclose
    refine release_ok (u := loggedOff u sessionId name now) ?_ hvalid now
    rw [userService?_putUserService, if_pos rfl]
    have htold : Broker.userService? { b with journal := b.journal ++ notices } u.uuid = some u := hfound
    rw [htold]
    rfl

/-- A service that refuses a notification was told nothing. -/
theorem notifyService_refused {notification : Notification} {reason : String}
    (hn : notifyService notification b = (.ok (.error reason), b')) : b' = b := by
  unfold notifyService at hn
  split at hn
  · cases hn
    rfl
  · split at hn
    · cases hn
      rfl
    · split at hn
      · cases hn
      · cases hn
        rfl

theorem notifyService_total {P : Broker → Prop} (notification : Notification) :
    Total P (notifyService notification) := by
  intro b _
  unfold notifyService
  split
  · exact ⟨_, _, rfl⟩
  · split
    · exact ⟨_, _, rfl⟩
    · split <;> exact ⟨_, _, rfl⟩

theorem openSession_unchanged (h : b.Sound) {token username sessionId : String} {now : Instant}
    (ho : openSession token username sessionId now b = (.ok none, b')) : b' = b := by
  cases hu : b.validUserService? token with
  | none =>
    rw [openSession_none hu] at ho
    cases ho
    rfl
  | some u =>
    obtain ⟨opened, b₁, heq⟩ := openSession_some h hu username sessionId now
    rw [heq] at ho
    cases ho

theorem closeSession_unchanged (h : b.Sound) {token username sessionId : String} {now : Instant}
    (hc : closeSession token username sessionId now b = (.ok none, b')) : b' = b := by
  cases hu : b.validUserService? token with
  | none =>
    rw [closeSession_none hu] at hc
    cases hc
    rfl
  | some u =>
    obtain ⟨name, told, -, heq⟩ := closeSession_some h hu username sessionId now
    rw [heq] at hc
    cases hc

theorem openSession_total (token username sessionId : String) (now : Instant) :
    Total Sound (openSession token username sessionId now) := by
  intro b h
  cases hu : b.validUserService? token with
  | none => exact ⟨_, _, openSession_none hu username sessionId now⟩
  | some u =>
    obtain ⟨opened, b', heq⟩ := openSession_some h hu username sessionId now
    exact ⟨_, _, heq⟩

theorem closeSession_total (token username sessionId : String) (now : Instant) :
    Total Sound (closeSession token username sessionId now) := by
  intro b h
  cases hu : b.validUserService? token with
  | none => exact ⟨_, _, closeSession_none hu username sessionId now⟩
  | some u =>
    obtain ⟨name, told, -, heq⟩ := closeSession_some h hu username sessionId now
    exact ⟨_, _, heq⟩

theorem commitReady_atomic (report : ReadyReport) (now : Instant) :
    Atomic Sound (commitReady report now) := by
  intro b e b' _ hc
  unfold commitReady at hc
  cases hu : b.userService? report.userService with
  | none =>
    unfold revise at hc
    rw [hu] at hc
    cases hc
    rfl
  | some u =>
    rw [revise_eq hu] at hc
    cases hc

end Broker

/-! ## The protocols -/

namespace Protocol

variable {σ α : Type} {P : σ → Prop} {m : StoreM σ α}

theorem ofStore_ok {s s' : σ} {a : α} (h : ofStore m s = (.ok a, s')) : m s = (.ok a, s') := by
  unfold ofStore at h
  cases hm : m s with
  | mk r t =>
    rw [hm] at h
    cases r <;> cases h
    rfl

theorem ofStore_of_ok {s s' : σ} {a : α} (h : m s = (.ok a, s')) : ofStore m s = (.ok a, s') := by
  unfold ofStore
  rw [h]
  rfl

theorem ofStore_looks (h : Looks m) : Looks (ofStore m) := h

theorem ofStore_keeps (h : Keeps P m) : Keeps P (ofStore m) := h

theorem ofStore_total (h : Total P m) : Total P (ofStore m) := by
  intro s hs
  obtain ⟨a, t, ha⟩ := h s hs
  exact ⟨a, t, ofStore_of_ok ha⟩

theorem ofStore_atomic (h : Atomic P m) : Atomic P (ofStore m) := by
  intro s e s' hs he
  unfold ofStore at he
  cases hm : m s with
  | mk r t =>
    rw [hm] at he
    cases r <;> cases he
    exact h s _ _ hs hm

end Protocol

theorem Broker.ofStore_reading {α : Type} {f : Broker → α} {b : Broker} {a : α} (h : f b = a) :
    Protocol.ofStore (Broker.reading f) b = (.ok a, b) := by
  rw [← h]
  rfl

open Protocol (ofStore ofStore_ok ofStore_of_ok ofStore_looks ofStore_keeps ofStore_total ofStore_atomic)
open Broker

variable (issuer : Issuer) (now : Instant) (draws : Draws)

theorem Register.run_atomic (request : RegisterRequest) (caller : Option StaffUser) (source : String) :
    Atomic Sound (backend.run issuer (protocol request caller source) now draws) := by
  rw [run_eq_script]
  unfold script
  cases caller.filter (·.isStaff) with
  | none => exact .throw _
  | some user =>
    refine Looks.bind_atomic (ofStore_looks (reading_looks _)) fun existing => ?_
    have stored := ofStore_total (writing_total (P := Sound) fun b =>
      ((), b.storeActor (identity request user.name source draws.token now existing)))
    exact .bind_total stored.atomic fun _ => .pure _

/-- Telling a service about a user. -/
theorem notified_atomic {α : Type} (notification : Notification) (told : α) :
    Atomic Sound (do
      match ← ofStore (notifyService notification) with
      | .ok _ => return told
      | .error reason => throw (.notify reason) : Protocol.RunM Broker α) := by
  refine .bind (ofStore_total (notifyService_total notification)).atomic ?_
  intro b outcome b' h hn e b'' hrun
  cases outcome with
  | ok _ => cases hrun
  | error reason =>
    cases hrun
    exact notifyService_refused (ofStore_ok hn)

theorem Login.run_atomic (request : LoginRequest) :
    Atomic Sound (backend.run issuer (protocol request) now draws) := by
  rw [run_eq_script]
  unfold script
  refine .bind (ofStore_total (openSession_total _ _ _ now)).atomic ?_
  intro b opened b' h hopen e b'' hrun
  cases opened with
  | some session => cases hrun
  | none =>
    -- No session was opened, so whatever refuses the actor now finds the broker as it was.
    have hb : b' = b := openSession_unchanged h (ofStore_ok hopen)
    subst hb
    cases hk : request.kind with
    | managed =>
      rw [hk] at hrun
      cases hrun
      rfl
    | unmanaged =>
      rw [hk] at hrun
      exact notified_atomic (notification request) LoginInfo.empty _ _ _ h hrun

theorem Logout.run_atomic (request : LogoutRequest) :
    Atomic Sound (backend.run issuer (protocol request) now draws) := by
  rw [run_eq_script]
  unfold script
  refine .bind (ofStore_total (closeSession_total _ _ _ now)).atomic ?_
  intro b closed b' h hclose e b'' hrun
  cases closed with
  | some closed =>
    dsimp only at hrun
    split at hrun
    · -- The session is closed, and the release that follows cannot fail.
      obtain ⟨b₁, hrelease⟩ := release_closed h (ofStore_ok hclose)
      rw [Effect.run_bind_of_ok (m := ofStore (backend.release closed.userService now))
        (ofStore_of_ok hrelease)] at hrun
      cases hrun
    · cases hrun
  | none =>
    have hb : b' = b := closeSession_unchanged h (ofStore_ok hclose)
    subst hb
    cases hk : request.kind with
    | managed =>
      rw [hk] at hrun
      cases hrun
      rfl
    | unmanaged =>
      rw [hk] at hrun
      exact notified_atomic (notification request) LogoutOutcome.notified _ _ _ h hrun

theorem Ready.run_atomic (request : ReadyRequest) (clearInUse : Bool) (ciphers : Option String) :
    Atomic Sound (backend.run issuer (protocol request clearInUse ciphers) now draws) := by
  rw [run_eq_script]
  unfold script
  refine Looks.bind_atomic (ofStore_looks (reading_looks _)) fun view => ?_
  cases view with
  | none => exact .throw _
  | some view =>
    dsimp only
    cases issuer request.ip draws.password with
    | error reason => exact .throw _
    | ok bundle => exact .bind_total (ofStore_atomic (commitReady_atomic _ now)) fun _ => .pure _

namespace Binding

/-- A user service that was found can be prepared. -/
theorem bindTo_total (request : BindingRequest) (ids : List String) (service : Option Uuid)
    (aliasToken : Option String) : Total Sound (bindTo backend now request ids service aliasToken) := by
  intro b h
  have hfind : ofStore (backend.findUserService ⟨ids, service, [.usable, .preparing]⟩) b =
      (.ok ((b.findUserService ⟨ids, service, [.usable, .preparing]⟩).map UserService.view), b) := rfl
  unfold bindTo
  rw [Effect.run_bind_of_ok hfind]
  cases hu : b.findUserService ⟨ids, service, [.usable, .preparing]⟩ with
  | none => exact ⟨_, _, rfl⟩
  | some u =>
    obtain ⟨actor, b', hprepared⟩ := prepareActor_ok (h.kept.found hu).1 request.version
    have hstored : ofStore (backend.prepareActor u.view.uuid request.version now) b = (.ok actor, b') :=
      ofStore_of_ok hprepared
    dsimp only [Option.map_some]
    rw [Effect.run_bind_of_ok hstored]
    exact ⟨_, _, rfl⟩

theorem ownAlias_total (service : Uuid) (uniqueId : String) :
    Total Sound (ownAlias backend draws service uniqueId) := by
  intro b _
  have hfind : ofStore (backend.findAliasFor service uniqueId) b =
      (.ok (b.findAliasFor service uniqueId), b) := rfl
  unfold ownAlias
  rw [Effect.run_bind_of_ok hfind]
  cases b.findAliasFor service uniqueId <;> exact ⟨_, _, rfl⟩

theorem ownAlias_keeps (service : Uuid) (uniqueId : String) :
    Keeps Sound (ownAlias backend draws service uniqueId) := by
  refine .bind (ofStore_keeps (reading_keeps fun b => b.findAliasFor service uniqueId)) fun found => ?_
  cases found with
  | some found => exact .pure _
  | none =>
    refine .bind (ofStore_keeps (writing_keeps fun b h => ?_)) fun _ => .pure _
    exact h.congr rfl rfl

theorem run_atomic (request : BindingRequest) :
    Atomic Sound (backend.run issuer (protocol request) now draws) := by
  rw [run_eq_script]
  unfold script
  cases request.kind with
  | managed =>
    refine Looks.bind_atomic (ofStore_looks (reading_looks _)) fun valid => ?_
    cases valid with
    | true => exact (bindTo_total now request _ _ _).atomic
    | false => exact .throw _
  | unmanaged =>
    refine Looks.bind_atomic (ofStore_looks (reading_looks _)) fun found => ?_
    cases found with
    | some found => exact (bindTo_total now request _ _ _).atomic
    | none =>
      refine Looks.bind_atomic (ofStore_looks (reading_looks _)) fun record => ?_
      cases record with
      | none => exact .throw _
      | some record =>
        dsimp only
        cases request.ids with
        | nil => exact .throw _
        | cons first rest =>
          -- From the alias on nothing fails any more.
          exact Total.atomic (.bind (ownAlias_total draws _ _) (ownAlias_keeps draws _ _)
            fun token => bindTo_total now request _ _ _)

end Binding

namespace Unmanaged

theorem settle_total (request : UnmanagedRequest) (service : Uuid) (id : String) :
    Total Sound (settle backend now request service id) := by
  intro b h
  generalize hfilter : (⟨foldCases (candidateIds request.ids), none, [.usable, .preparing]⟩ :
    UserServiceFilter) = filter
  have hfind : ofStore (backend.findUserService filter) b =
      (.ok ((b.findUserService filter).map UserService.view), b) := rfl
  unfold settle
  rw [hfilter, Effect.run_bind_of_ok hfind]
  cases hu : b.findUserService filter with
  | none => exact ⟨_, _, rfl⟩
  | some u =>
    obtain ⟨closed, b', hclose⟩ := closeSession_total u.uuid.text username "" now b h
    have hclosed : ofStore (backend.closeSession u.view.uuid.text username "" now) b = (.ok closed, b') :=
      ofStore_of_ok hclose
    dsimp only [Option.map_some]
    rw [Effect.run_bind_of_ok hclosed]
    cases closed with
    | none => exact ⟨_, _, rfl⟩
    | some closed =>
      obtain ⟨b'', hrelease⟩ := release_closed h hclose
      dsimp only
      split
      · exact ⟨_, _, ofStore_of_ok hrelease⟩
      · exact ⟨_, _, rfl⟩

theorem settle_keeps (request : UnmanagedRequest) (service : Uuid) (id : String) :
    Keeps Sound (settle backend now request service id) := by
  refine .bind (ofStore_keeps (reading_keeps fun b => (b.findUserService _).map UserService.view)) ?_
  intro view
  cases view with
  | none => exact ofStore_keeps (writing_keeps fun _ h => tellService_sound h _ _)
  | some view =>
    refine .bind (ofStore_keeps (closeSession_keeps _ _ _ now)) fun closed => ?_
    cases closed with
    | none => exact .pure _
    | some closed =>
      dsimp only
      split
      · exact ofStore_keeps (release_keeps _ now)
      · exact .pure _

/-- A token that belongs to no service ends the start before anything has changed. -/
theorem run_invalidToken {request : UnmanagedRequest} {ciphers : Option String} {b b' : Broker}
    (hrun : backend.run issuer (protocol request ciphers) now draws b = (.ok .invalidToken, b')) :
    b' = b := by
  have hfind : ofStore (backend.findService request.token true) b =
      (.ok (b.findService request.token true), b) := rfl
  rw [run_eq_script] at hrun
  unfold script at hrun
  rw [Effect.run_bind_of_ok hfind] at hrun
  cases hs : b.findService request.token true with
  | none =>
    rw [hs] at hrun
    cases hrun
    rfl
  | some record =>
    rw [hs] at hrun
    -- A service was found, so the run ends with a certificate or with an error.
    obtain ⟨validId, b₁, -, hrun⟩ := Effect.bind_ok hrun
    cases hip : inferIp request.ids validId with
    | none =>
      rw [hip] at hrun
      cases hrun
    | some ip =>
      rw [hip] at hrun
      dsimp only at hrun
      cases hissued : issuer ip draws.password with
      | error reason =>
        rw [hissued] at hrun
        cases hrun
      | ok bundle =>
        rw [hissued] at hrun
        cases validId with
        | none => cases hrun
        | some id =>
          obtain ⟨_, b₂, -, hrun⟩ := Effect.bind_ok hrun
          obtain ⟨_, b₃, -, hrun⟩ := Effect.bind_ok hrun
          cases hrun

theorem run_atomic (request : UnmanagedRequest) (ciphers : Option String) :
    Atomic Sound (backend.run issuer (protocol request ciphers) now draws) := by
  rw [run_eq_script]
  unfold script
  refine Looks.bind_atomic (ofStore_looks (reading_looks _)) fun record => ?_
  cases record with
  | none => exact Total.atomic (.pure _)
  | some record =>
    refine Looks.bind_atomic (ofStore_looks (reading_looks _)) fun validId => ?_
    cases inferIp request.ids validId with
    | none => exact .throw _
    | some ip =>
      dsimp only
      cases issuer ip draws.password with
      | error reason => exact .throw _
      | ok bundle =>
        cases validId with
        | none => exact Total.atomic (.pure _)
        | some id =>
          -- The certificate is there, and from the search on nothing fails any more.
          have stored (info : IdInfo) : Total Sound (ofStore (backend.storeIdInfo record.id id info)) :=
            ofStore_total (writing_total fun b => ((), b.tellService record.id (.stored id info)))
          have keeps (info : IdInfo) : Keeps Sound (ofStore (backend.storeIdInfo record.id id info)) :=
            ofStore_keeps (writing_keeps fun _ h => tellService_sound h _ _)
          exact Total.atomic (.bind (settle_total now request _ _) (settle_keeps now request _ _)
            fun _ => .bind (stored _) (keeps _) fun _ => .pure _)

end Unmanaged

end SessionBroker
