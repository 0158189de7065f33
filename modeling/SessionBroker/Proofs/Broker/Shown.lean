import SessionBroker.Proofs.Broker.Revision
import SessionBroker.Proofs.Broker.Sessions
import SessionBroker.Proofs.UserService.Placement

/-!
# What is shown of user services

Of each user service something may be shown that depends on its id and its sessions alone. As long as the OS
managers do not touch it, the broker changes it by two operations only: a session is opened, or sessions are
closed. All others keep what is shown of every user service, whatever else they do to the records. If what is
shown depends on the placement of the service as well, moves and assignments are two more.
-/

namespace SessionBroker

open Effect (Keeps)

variable {γ : Type}

/-- What is shown of a user service depends on its id and its sessions alone. -/
def UserService.Plain (g : UserService → γ) : Prop :=
  ∀ {u v : UserService}, v.uuid = u.uuid → v.sessions = u.sessions → g v = g u

theorem UserService.uuid_plain : Plain UserService.uuid := fun huuid _ => huuid

theorem UserService.sessions_plain : Plain UserService.sessions := fun _ hsessions => hsessions

/-- What is shown of a user service depends on its id, its sessions and its placement alone. -/
def UserService.Steady (g : UserService → γ) : Prop :=
  ∀ {u v : UserService}, v.uuid = u.uuid → v.sessions = u.sessions → v.placement = u.placement → g v = g u

theorem UserService.Plain.steady {g : UserService → γ} (hg : Plain g) : Steady g :=
  fun huuid hsessions _ => hg huuid hsessions

theorem UserService.placement_steady : Steady UserService.placement := fun _ _ hplacement => hplacement

/-- What is shown of a user service depends neither on what its actor reports nor on whether it is in use. -/
def UserService.Lasting (g : UserService → γ) : Prop :=
  ∀ {u v : UserService}, v.uuid = u.uuid → v.state = u.state → v.destroyAfter = u.destroyAfter →
    v.sessions = u.sessions → v.placement = u.placement → g v = g u

theorem UserService.uuid_lasting : Lasting UserService.uuid := fun huuid _ _ _ _ => huuid

theorem UserService.Steady.lasting {g : UserService → γ} (hg : Steady g) : Lasting g :=
  fun huuid _ _ hsessions hplacement => hg huuid hsessions hplacement

theorem UserService.Aged.shown {g : UserService → γ} (hg : Plain g) {u v : UserService} (h : u.Aged v) :
    g v = g u := hg h.uuid (by rw [h])

/-- The hooks of the manager leave what is shown of a user service as it is. -/
structure OsManager.Spares (g : UserService → γ) (m : OsManager) : Prop where
  actorData : ∀ u, g (m.actorData u).2 = g u
  toReady : ∀ u, g (m.toReady u) = g u
  loggedIn : ∀ u username, g (m.loggedIn u username) = g u
  loggedOut : ∀ u username, g (m.loggedOut u username) = g u

theorem OsManager.Discreet.spares {m : OsManager} (h : m.Discreet) {g : UserService → γ}
    (hg : UserService.Lasting g) : m.Spares g where
  actorData u := by
    obtain ⟨name, hname⟩ := h.actorData u
    rw [hname]
    exact hg rfl rfl rfl rfl rfl
  toReady u := by
    obtain ⟨name, hname⟩ := h.toReady u
    rw [hname]
    exact hg rfl rfl rfl rfl rfl
  loggedIn u username := by
    obtain ⟨name, hname⟩ := h.loggedIn u username
    rw [hname]
    exact hg rfl rfl rfl rfl rfl
  loggedOut u username := by
    obtain ⟨name, hname⟩ := h.loggedOut u username
    rw [hname]
    exact hg rfl rfl rfl rfl rfl

/-- Many an OS manager follows a policy. -/
theorem OsPolicy.manager_spares (policy : OsPolicy) {g : UserService → γ} (hg : UserService.Lasting g) :
    policy.manager.Spares g := policy.manager_discreet.spares hg

namespace Broker

/-- All OS managers have a property. -/
def Hooks (H : OsManager → Prop) (b : Broker) : Prop :=
  ∀ row ∈ b.pools, ∀ m, row.2.osManager = some m → H m

/-- What is shown of the user services is as the view has it. -/
structure Shows (H : OsManager → Prop) (g : UserService → γ) (view : Uuid → Option γ) (b : Broker) : Prop where
  hooks : b.Hooks H
  shown : ∀ id, (b.userService? id).map g = view id

/-- The view after a change of what one user service shows. -/
def changeAt (target : Option Uuid) (f : γ → γ) (view : Uuid → Option γ) : Uuid → Option γ :=
  fun id => if target = some id then (view id).map f else view id

@[simp] theorem changeAt_same (target : Option Uuid) (view : Uuid → Option γ) :
    changeAt target (fun c => c) view = view := by
  funext id
  simp [changeAt]

variable {H : OsManager → Prop} {g : UserService → γ} {view : Uuid → Option γ} {b b' : Broker}

theorem Hooks.of_pool (h : b.Hooks H) {pool : Uuid} {m : OsManager}
    (hm : b.osManager? pool = some m) : H m := by
  obtain ⟨entry, he, hm⟩ := Option.bind_eq_some_iff.mp hm
  exact h _ (Table.mem_of_get? he) m hm

theorem Hooks.congr (h : b.Hooks H) (hp : b'.pools = b.pools) : b'.Hooks H := by
  unfold Hooks
  rw [hp]
  exact h

/-- User services are kept once and under their own ids, and no OS manager touches what is told of them. -/
structure Sparing (g : UserService → γ) (b : Broker) : Prop where
  distinct : b.Distinct
  keyed : b.Keyed
  hooks : b.Hooks (OsManager.Spares g)

theorem Sparing.empty (g : UserService → γ) : Sparing g empty where
  distinct := List.nodup_nil
  keyed := fun _ _ hu => nomatch hu
  hooks := fun _ hrow => absurd hrow List.not_mem_nil

theorem Sparing.kept (h : b.Sparing g) : b.Kept := h.keyed.kept h.distinct

/-- Only the user services and the pools matter. -/
theorem Sparing.congr (h : b.Sparing g) (hu : b'.userServices = b.userServices) (hp : b'.pools = b.pools) :
    b'.Sparing g where
  distinct := by
    unfold Distinct
    rw [hu]
    exact h.distinct
  keyed id u hfound := by
    refine h.keyed id u ?_
    rw [← hfound]
    unfold userService?
    rw [hu]
  hooks := h.hooks.congr hp

theorem Shows.congr (h : b.Shows H g view) (hu : b'.userServices = b.userServices) (hp : b'.pools = b.pools) :
    b'.Shows H g view where
  hooks := h.hooks.congr hp
  shown id := by
    unfold userService?
    rw [hu]
    exact h.shown id

theorem Shows.told (h : b.Shows H g view) (ht : b.Told b') : b'.Shows H g view := by
  obtain ⟨notices, rfl⟩ := ht
  exact h.congr rfl rfl

theorem Shows.put (h : b.Shows H g view) {id : Uuid} {u v : UserService} (hu : b.userService? id = some u)
    {f : γ → γ} (hv : g v = f (g u)) : (b.putUserService id v).Shows H g (changeAt (some id) f view) where
  hooks := h.hooks.congr (putUserService_pools b id v)
  shown id' := by
    rw [userService?_putUserService, changeAt]
    by_cases hid : id = id'
    · subst hid
      rw [if_pos rfl, if_pos rfl, ← h.shown, hu]
      exact congrArg some hv
    · rw [if_neg hid, if_neg (fun hsome => hid (Option.some.inj hsome))]
      exact h.shown id'

/-! ## The operations of the backend -/

section Operations

variable {α : Type} {id : Uuid} {fn : UserService → Broker → Except StoreError α × UserService × Broker}

/-- A change of a record, with which collaborators may be told something. -/
theorem revise_shows {f : γ → γ}
    (hfn : ∀ u b, b.Hooks H → g (fn u b).2.1 = f (g u) ∧ b.Told (fn u b).2.2) (h : b.Shows H g view) :
    (revise id fn b).2.Shows H g (changeAt (some id) f view) := by
  unfold revise
  cases hu : b.userService? id with
  | none =>
    have hview : changeAt (some id) f view = view := by
      funext id'
      unfold changeAt
      split
      · next hid => rw [← h.shown, ← Option.some.inj hid, hu]; rfl
      · rfl
    rw [hview]
    exact h
  | some u =>
    obtain ⟨hv, ht⟩ := hfn u b h.hooks
    have hu' : (fn u b).2.2.userService? id = some u := by
      obtain ⟨notices, hb⟩ := ht
      rw [hb]
      exact hu
    exact (h.told ht).put hu' hv

theorem revise_keeps_shown (hfn : ∀ u b, b.Hooks H → g (fn u b).2.1 = g u ∧ b.Told (fn u b).2.2) :
    Keeps (Shows H g view) (revise id fn) := by
  intro b h
  have hafter : (revise id fn b).2.Shows H g (changeAt (some id) (fun c => c) view) := revise_shows hfn h
  rwa [changeAt_same] at hafter

end Operations

section Managed

variable {manager : Option OsManager} (hg : UserService.Lasting g)
  (hm : ∀ m, manager = some m → m.Spares g) (u : UserService) (username : String) (now : Instant) (b : Broker)

include hg hm

theorem enterUse_shown : g (enterUse u manager username now b).1 = g u := by
  unfold enterUse
  split
  · rfl
  · cases manager with
    | none => exact hg rfl rfl rfl rfl rfl
    | some m =>
      have hset : g ((m.loggedIn u username).setInUse true now) = g (m.loggedIn u username) := hg rfl rfl rfl rfl rfl
      exact hset.trans ((hm m rfl).loggedIn u username)

theorem leaveUse_shown : g (leaveUse u manager username now b).1 = g u := by
  unfold leaveUse
  split
  · rfl
  · cases manager with
    | none => exact hg rfl rfl rfl rfl rfl
    | some m =>
      have hset : g ((m.loggedOut u username).setInUse false now) = g (m.loggedOut u username) := hg rfl rfl rfl rfl rfl
      exact hset.trans ((hm m rfl).loggedOut u username)

theorem markOsUsable_shown : g (markOsUsable u manager now b).1 = g u := by
  have hset : g (u.setOsState .usable now) = g u := by
    unfold UserService.setOsState
    split
    · rfl
    · exact hg rfl rfl rfl rfl rfl
  unfold markOsUsable
  cases manager with
  | none => exact hset
  | some m => exact ((hm m rfl).toReady _).trans hset

end Managed

variable (hg : UserService.Steady g) (hH : ∀ m, H m → m.Spares g)

include hg in
theorem release_shows (id : Uuid) (now : Instant) : Keeps (Shows H g view) (release id now) := by
  refine revise_keeps_shown fun u b _ => ?_
  cases hr : u.release now with
  | ok v =>
    rw [UserService.release_eq] at hr
    split at hr
    · cases hr
    · cases hr
      exact ⟨hg rfl rfl rfl, .refl b⟩
  | error e => exact ⟨rfl, .refl b⟩

/-- The preparation of an actor is a change of one record, in which the OS manager may have a say. -/
theorem prepareActor_revises (hg : UserService.Lasting g) (id : Uuid) (version : String) : ∃ fn,
    prepareActor id version = revise id fn ∧
      ∀ u b, b.Hooks (OsManager.Spares g) → g (fn u b).2.1 = g u ∧ b.Told (fn u b).2.2 := by
  refine ⟨_, rfl, fun u b h => ?_⟩
  dsimp only
  cases hm : b.osManager? u.pool with
  | none => exact ⟨hg rfl rfl rfl rfl rfl, .refl b⟩
  | some m => exact ⟨((h.of_pool hm).actorData _).trans (hg rfl rfl rfl rfl rfl), .tell b _⟩

/-- So is a report of readiness. -/
theorem commitReady_revises (hg : UserService.Lasting g) (report : ReadyReport) (now : Instant) : ∃ fn,
    commitReady report now = revise report.userService fn ∧
      ∀ u b, b.Hooks (OsManager.Spares g) → g (fn u b).2.1 = g u ∧ b.Told (fn u b).2.2 := by
  refine ⟨_, rfl, fun u b h => ?_⟩
  have hm : ∀ m, b.osManager? u.pool = some m → m.Spares g := fun m hm => h.of_pool hm
  have hasked : b.Told (b.tell (.provider report.userService (.setIp report.ip))) := .tell b _
  have hreached : g ((u.logIp report.ip).setCommsUrl report.commsUrl) = g u := hg rfl rfl rfl rfl rfl
  -- Whatever the mark leaves, storing the certificate on top of it shows the same.
  have hproperty (v : UserService) (key value : String) : g (v.setProperty key value) = g v :=
    hg rfl rfl rfl rfl rfl
  have hcleared (v : UserService) : g (if report.clearInUse then v.setInUse false now else v) = g v := by
    split
    · exact hg rfl rfl rfl rfl rfl
    · rfl
  dsimp only
  rw [hcleared, hproperty, hproperty, hproperty]
  cases report.markOsUsable with
  | false =>
    simp only [Bool.false_eq_true, if_false]
    exact ⟨hreached, hasked⟩
  | true =>
    simp only [if_true]
    exact ⟨(markOsUsable_shown hg hm _ now _).trans hreached, hasked.trans (markOsUsable_told _ now _)⟩

theorem Hooks.mono {H' : OsManager → Prop} (h : b.Hooks H) (hH : ∀ m, H m → H' m) : b.Hooks H' :=
  fun row hrow m hm => hH m (h row hrow m hm)

include hg hH

theorem prepareActor_shows (id : Uuid) (version : String) :
    Keeps (Shows H g view) (prepareActor id version) := by
  obtain ⟨fn, hfn, hshown⟩ := prepareActor_revises hg.lasting id version
  rw [hfn]
  exact revise_keeps_shown fun u b h => hshown u b (h.mono hH)

theorem commitReady_shows (report : ReadyReport) (now : Instant) :
    Keeps (Shows H g view) (commitReady report now) := by
  obtain ⟨fn, hfn, hshown⟩ := commitReady_revises hg.lasting report now
  rw [hfn]
  exact revise_keeps_shown fun u b h => hshown u b (h.mono hH)

omit hH in
theorem recordVersion_shows (token version ip : String) (h : b.Shows H g view) :
    (b.recordVersion token version ip).2.Shows H g view := by
  unfold recordVersion
  cases Uuid.parse? token with
  | none => exact h
  | some id =>
    dsimp only
    cases hu : b.userService? id with
    | none => exact h
    | some u =>
      have hafter := h.put hu (v := { u with actorVersion := version }.logIp ip) (f := fun c => c) (hg rfl rfl rfl)
      rwa [changeAt_same] at hafter

/-- The id of the user service that the token names, if an actor may use that service. -/
def seat? (b : Broker) (token : String) : Option Uuid := (b.validUserService? token).map (·.uuid)

/-- A session is opened where the token has a seat. -/
theorem openSession_shows {sessionId : String} {now : Instant} {f : γ → γ}
    (hf : ∀ u, g (u.startSession sessionId now) = f (g u)) (h : b.Shows H g view) (token username : String) :
    (openSession token username sessionId now b).2.Shows H g (changeAt (b.seat? token) f view) := by
  unfold openSession seat?
  cases b.validUserService? token with
  | none => exact h
  | some current =>
    have hm : ∀ m, (b.pools.get? current.pool).bind (·.osManager) = some m → m.Spares g :=
      fun m hm => hH m (h.hooks.of_pool hm)
    refine revise_shows (fun u b _ => ⟨?_, enterUse_told u username now b⟩) h
    exact (hf _).trans (congrArg f (enterUse_shown hg.lasting hm u username now b))

/-- Sessions are closed where the token has a seat. -/
theorem closeSession_shows {sessionId : String} {now : Instant} {f : γ → γ}
    (hf : ∀ u, g (u.endSession sessionId now) = f (g u)) (h : b.Shows H g view) (token username : String) :
    (closeSession token username sessionId now b).2.Shows H g (changeAt (b.seat? token) f view) := by
  unfold closeSession seat?
  cases b.validUserService? token with
  | none => exact h
  | some current =>
    have hm : ∀ m, b.osManager? current.pool = some m → m.Spares g := fun m hm => hH m (h.hooks.of_pool hm)
    refine revise_shows (fun u b _ => ⟨?_, leaveUse_told _ username now b⟩) h
    exact (leaveUse_shown hg.lasting hm (u.endSession sessionId now) username now b).trans (hf u)

end Broker

/-- The query neither opens nor closes sessions. -/
def Query.Quiet : Query → Prop
  | .openSession .. | .closeSession .. => False
  | _ => True

namespace Broker

variable {H : OsManager → Prop} {g : UserService → γ} {view : Uuid → Option γ} {b : Broker}

section Backend

variable (hg : UserService.Steady g) (hH : ∀ m, H m → m.Spares g)

theorem notifyService_shows (notification : Notification) : Keeps (Shows H g view) (notifyService notification) :=
  fun b h => h.told (notifyService_told notification b)

theorem tellService_shows (service : Uuid) (event : ServiceEvent) :
    Keeps (Shows H g view) (writing fun b => ((), b.tellService service event)) :=
  fun b h => h.told (tellService_told service event b)

theorem appendLog_shows (token : String) (level : LogLevel) (message : String) (now : Instant)
    (h : b.Shows H g view) : (b.appendLog token level message now).2.Shows H g view := by
  unfold appendLog
  split
  · exact h
  · exact h.congr rfl rfl

include hg hH

theorem answer_shows {query : Query} (hquery : query.Quiet) (issuer : Issuer) (now : Instant) (draws : Draws) :
    Keeps (Shows H g view) (backend.answer issuer now draws query) := by
  cases query with
  | findActorByMac mac => exact .bind (reading_keeps _) fun _ => .pure _
  | storeActor identity => exact .bind (writing_keeps fun _ h => h.congr rfl rfl) fun _ => .pure _
  | validateActorToken token => exact .bind (reading_keeps _) fun _ => .pure _
  | findService token through => exact .bind (reading_keeps _) fun _ => .pure _
  | findAlias token => exact .bind (reading_keeps _) fun _ => .pure _
  | findAliasFor service id => exact .bind (reading_keeps _) fun _ => .pure _
  | createAlias record => exact .bind (writing_keeps fun _ h => h.congr rfl rfl) fun _ => .pure _
  | findUserService filter => exact .bind (reading_keeps _) fun _ => .pure _
  | prepareActor id version => exact .bind (prepareActor_shows hg hH id version) fun _ => .pure _
  | fetchUserService token => exact .bind (reading_keeps _) fun _ => .pure _
  | openSession token user => exact hquery.elim
  | closeSession token user id => exact hquery.elim
  | release id => exact .bind (release_shows hg id now) fun _ => .pure _
  | issueCertificate ip => exact .pure _
  | commitReady report => exact .bind (commitReady_shows hg hH report now) fun _ => .pure _
  | notifyService notification => exact .bind (notifyService_shows notification) fun _ => .pure _
  | resolveValidId service ids => exact .bind (reading_keeps _) fun _ => .pure _
  | notifyInitialization service id => exact .bind (tellService_shows service _) fun _ => .pure _
  | storeIdInfo service id info => exact .bind (tellService_shows service _) fun _ => .pure _

end Backend

/-- What does not depend on sessions stays also where sessions are opened and closed. -/
theorem backend_shows (hg : UserService.Steady g) (hopen : ∀ u sessionId now, g (u.startSession sessionId now) = g u)
    (hclose : ∀ u sessionId now, g (u.endSession sessionId now) = g u) (hH : ∀ m, H m → m.Spares g) :
    backend.Keeps (Shows H g view) where
  answer issuer now draws query := by
    cases query with
    | openSession token user =>
      refine .bind (fun b h => ?_) fun _ => .pure _
      have hafter : (openSession token user draws.session now b).2.Shows H g
          (changeAt (b.seat? token) (fun c => c) view) :=
        openSession_shows hg hH (fun u => hopen u draws.session now) h token user
      rwa [changeAt_same] at hafter
    | closeSession token user id =>
      refine .bind (fun b h => ?_) fun _ => .pure _
      have hafter : (closeSession token user id now b).2.Shows H g
          (changeAt (b.seat? token) (fun c => c) view) :=
        closeSession_shows hg hH (fun u => hclose u id now) h token user
      rwa [changeAt_same] at hafter
    | _ => exact answer_shows hg hH (by trivial) issuer now draws
  recordVersion token version ip := writing_keeps fun _ h => recordVersion_shows hg token version ip h
  actorVersion _ := reading_keeps _
  appendLog token level message now := writing_keeps fun _ h => appendLog_shows token level message now h

/-! ## The tasks of the administration -/

namespace Task

/-- The OS manager that the task brings, if it brings one, has a property. -/
def Hooks (H : OsManager → Prop) : Task → Prop
  | addPool _ osManager _ => ∀ m, osManager = some m → H m
  | _ => True

/-- A change of a record, if the task is one, leaves what is shown of it as it is. -/
def Edits (g : UserService → γ) : Task → Prop
  | edit _ change => ∀ u, g (change u) = g u
  | _ => True

/-- The task moves the user service to a level, or assigns it to a user. -/
def Places (id : Uuid) : Task → Prop
  | moveToLevel id' _ _ => id' = id
  | assign id' _ _ => id' = id
  | _ => False

/-- The task deletes the user service, or admits another one under its id. -/
def Supplants (id : Uuid) (b : Broker) : Task → Prop
  | addUserService service provider now => (Broker.addUserService service provider now b).1 = .ok (some id)
  | deleteUserService id' _ => id' = id
  | _ => False

end Task

theorem Task.perform_hooks {task : Task} (ht : task.Hooks H) (h : b.Hooks H) : (task.perform b).Hooks H := by
  cases task with
  | addStaff token user => exact h
  | addService record unmanaged => exact h
  | addPool pool osManager restraint =>
    intro row hr m hrow
    rcases Table.mem_put hr with rfl | hr
    · exact ht m hrow
    · exact h row hr m hrow
  | addUserService service provider now =>
    change Broker.Hooks H (Broker.addUserService service provider now b).2
    rcases addUserService_cases service provider now b with heq | ⟨-, heq⟩
    · rw [heq]
      exact h
    · rwa [heq]
  | setEnvironment owner key value => exact h
  | deleteUserService id now =>
    change Broker.Hooks H (Broker.deleteUserService id now b).2
    rw [deleteUserService_eq]
    cases b.userService? id <;> exact h
  | _ => exact h.congr (perform_revised (by trivial) b).pools

theorem backend_hooks : backend.Keeps (Hooks H) :=
  backend_keeps_of_revised (fun h hb => hb.congr h.pools) (fun _ h => h) (fun _ h => h) fun _ _ h => h

theorem attempt_shown {id id' : Uuid} {f : UserService → Provider → Attempt}
    (hf : ∀ u provider, g (f u provider).service = g u) :
    ((attempt id f b).2.userService? id').map g = (b.userService? id').map g := by
  rw [userService?_attempt]
  split
  · next hid =>
    unfold userService?
    rw [← hid, Option.map_map, Option.map_map]
    exact Option.map_congr fun entry _ => hf entry.service entry.provider
  · rfl

theorem withUserService_shown {α : Type} {id id' : Uuid} {f : UserService → α × UserService}
    (hf : ∀ u, g (f u).2 = g u) :
    ((withUserService id f b).2.userService? id').map g = (b.userService? id').map g := by
  rw [userService?_withUserService]
  split
  · next hid =>
    rw [← hid, Option.map_map]
    exact Option.map_congr fun u _ => hf u
  · rfl

/-- A user service that a task neither supplants nor places shows the same after it. -/
theorem Task.perform_steady (hg : UserService.Steady g) {task : Task} {id : Uuid} (ht : task.Edits g)
    (hkept : ¬ task.Supplants id b) (hplace : ¬ task.Places id) :
    ((task.perform b).userService? id).map g = (b.userService? id).map g := by
  have shown {u v : UserService} (h : u.Aged v) (hplacement : v.placement = u.placement) : g v = g u :=
    hg h.uuid (by rw [h]) hplacement
  cases task with
  | addStaff token user => rfl
  | addService record unmanaged => rfl
  | addPool pool osManager restraint => rfl
  | addUserService service provider now =>
    change ((Broker.addUserService service provider now b).2.userService? id).map g = _
    have hkept : (Broker.addUserService service provider now b).1 ≠ .ok (some id) := hkept
    rcases addUserService_cases service provider now b with heq | ⟨-, heq⟩
    · have hid : service.uuid ≠ id := fun hid => hkept (by rw [heq, hid])
      rw [heq]
      simp [userService?, Table.get?_put, hid]
    · rw [heq]
  | setProvider id' provider => exact congrArg (Option.map g) (b.userService?_setProvider id' id provider)
  | edit id' change => exact withUserService_shown ht
  | finishPreparation id' now =>
    exact attempt_shown fun u p => shown (.finishPreparation u p now) (u.finishPreparation_placement p now)
  | moveToLevel id' level now =>
    exact congrArg (Option.map g) ((b.userService?_attempt id' id _).trans (if_neg hplace))
  | cancel id' now => exact attempt_shown fun u p => shown (.cancel u p now) (u.cancel_placement p now)
  | removeOrCancel id' now =>
    exact attempt_shown fun u p => shown (.removeOrCancel u p now) (u.removeOrCancel_placement p now)
  | assign id' user now =>
    exact congrArg (Option.map g) ((b.userService?_withUserService id' id _).trans (if_neg hplace))
  | setEnvironment owner key value => rfl
  | deleteUserService id' now =>
    exact congrArg (Option.map g) ((b.userService?_deleteUserService id' id now).trans (if_neg hkept))

/-- A user service that a task does not supplant shows the same after it. -/
theorem Task.perform_shown (hg : UserService.Plain g) {task : Task} {id : Uuid} (ht : task.Edits g)
    (hkept : ¬ task.Supplants id b) : ((task.perform b).userService? id).map g = (b.userService? id).map g := by
  by_cases hplace : task.Places id
  · cases task with
    | moveToLevel id' level now =>
      exact attempt_shown fun u p => (UserService.Aged.moveToLevel u p now level).shown hg
    | assign id' user now => exact withUserService_shown fun _ => hg rfl rfl
    | _ => exact hplace.elim
  · exact perform_steady hg.steady ht hkept hplace

end Broker

end SessionBroker
