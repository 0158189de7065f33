import SessionBroker.Proofs.Broker.Frame
import SessionBroker.Proofs.Executor.Keeps
import SessionBroker.Proofs.UserService.Lifecycle

/-!
# Sound brokers

A broker is sound when every user service is kept once and under its own id, and all OS managers are
discreet. The operations of the backend and of the administration keep it so.
-/

namespace SessionBroker.Broker

open Effect (Keeps)

/-- Every user service is kept once and under its own id. -/
structure Kept (b : Broker) : Prop where
  distinct : b.userServices.KeysNodup
  keyed : ∀ row ∈ b.userServices, row.2.service.uuid = row.1

structure Sound (b : Broker) : Prop where
  distinct : b.userServices.KeysNodup
  keyed : ∀ row ∈ b.userServices, row.2.service.uuid = row.1
  discreet : ∀ row ∈ b.pools, ∀ m, row.2.osManager = some m → m.Discreet

namespace Sound

variable {b b' : Broker} (h : b.Sound)

theorem empty : empty.Sound where
  distinct := List.nodup_nil
  keyed _ hr := absurd hr List.not_mem_nil
  discreet _ hr := absurd hr List.not_mem_nil

include h

theorem kept : b.Kept := ⟨h.distinct, h.keyed⟩

theorem uuid_of_get? {id : Uuid} {entry : UserServiceEntry} (he : b.userServices.get? id = some entry) :
    entry.service.uuid = id := h.keyed _ (Table.mem_of_get? he)

theorem uuid_of_userService? {id : Uuid} {u : UserService} (hu : b.userService? id = some u) :
    u.uuid = id := by
  obtain ⟨entry, he, rfl⟩ := Option.map_eq_some_iff.mp hu
  exact h.uuid_of_get? he

theorem discreet_of_pool {pool : Uuid} {entry : PoolEntry} (he : b.pools.get? pool = some entry)
    {m : OsManager} (hm : entry.osManager = some m) : m.Discreet :=
  h.discreet _ (Table.mem_of_get? he) m hm

theorem discreet_of_osManager? {pool : Uuid} {m : OsManager} (hm : b.osManager? pool = some m) :
    m.Discreet := by
  obtain ⟨entry, he, hm⟩ := Option.bind_eq_some_iff.mp hm
  exact h.discreet_of_pool he hm

/-- Only user services and pools matter. -/
theorem congr (hu : b'.userServices = b.userServices) (hp : b'.pools = b.pools) : b'.Sound where
  distinct := hu ▸ h.distinct
  keyed := hu ▸ h.keyed
  discreet := hp ▸ h.discreet

theorem told (ht : b.Told b') : b'.Sound := by
  obtain ⟨notices, rfl⟩ := ht
  exact h.congr rfl rfl

theorem put {id : Uuid} {entry : UserServiceEntry} (he : entry.service.uuid = id) :
    { b with userServices := b.userServices.put id entry }.Sound where
  distinct := h.distinct.put id entry
  keyed row hr := by
    rcases Table.mem_put hr with rfl | hr
    · exact he
    · exact h.keyed row hr
  discreet := h.discreet

theorem putUserService {id : Uuid} {u : UserService} (hu : u.uuid = id) :
    (b.putUserService id u).Sound := by
  unfold Broker.putUserService
  split
  · exact h.put hu
  · exact h

theorem erase (id : Uuid) : { b with userServices := b.userServices.erase id }.Sound where
  distinct := h.distinct.erase id
  keyed row hr := h.keyed row (List.mem_filter.mp hr).1
  discreet := h.discreet

end Sound

/-! ## The operations of the backend -/

theorem reading_keeps {α : Type} {P : Broker → Prop} (f : Broker → α) : Keeps P (reading f) :=
  fun _ h => h

theorem writing_keeps {α : Type} {P : Broker → Prop} {f : Broker → α × Broker}
    (hf : ∀ b, P b → P (f b).2) : Keeps P (writing f) := fun b h => hf b h

/-- A change of a record that leaves the id alone. -/
theorem revise_keeps {α : Type} {id : Uuid}
    {f : UserService → Broker → Except StoreError α × UserService × Broker}
    (hf : ∀ u b, b.Sound → (f u b).2.1.uuid = u.uuid ∧ (f u b).2.2.Sound) :
    Keeps Sound (revise id f) := by
  intro b h
  unfold revise
  cases hu : b.userService? id with
  | none => exact h
  | some u =>
    obtain ⟨huuid, hb⟩ := hf u b h
    exact hb.putUserService (huuid.trans (h.uuid_of_userService? hu))

theorem prepareActor_keeps (id : Uuid) (version : String) : Keeps Sound (prepareActor id version) := by
  refine revise_keeps fun u b h => ?_
  dsimp only
  cases hm : b.osManager? u.pool with
  | none => exact ⟨rfl, h⟩
  | some m =>
    obtain ⟨name, hname⟩ := (h.discreet_of_osManager? hm).actorData { u with actorVersion := version }
    exact ⟨by simp [hname], h.told (.tell b _)⟩

theorem openSession_keeps (token username sessionId : String) (now : Instant) :
    Keeps Sound (openSession token username sessionId now) := by
  intro b h
  unfold openSession
  cases b.validUserService? token with
  | none => exact h
  | some current =>
    have hm : ∀ m, (b.pools.get? current.pool).bind (·.osManager) = some m → m.Discreet :=
      fun m hm => h.discreet_of_osManager? hm
    refine revise_keeps (fun u b hb => ?_) b h
    obtain ⟨name, hname⟩ := enterUse_service hm u username now b
    have huuid := congrArg UserService.uuid hname
    exact ⟨huuid, hb.told (enterUse_told u username now b)⟩

theorem closeSession_keeps (token username sessionId : String) (now : Instant) :
    Keeps Sound (closeSession token username sessionId now) := by
  intro b h
  unfold closeSession
  cases b.validUserService? token with
  | none => exact h
  | some current =>
    have hm : ∀ m, b.osManager? current.pool = some m → m.Discreet :=
      fun m hm => h.discreet_of_osManager? hm
    refine revise_keeps (fun u b hb => ?_) b h
    obtain ⟨name, hname⟩ := leaveUse_service hm (u.endSession sessionId now) username now b
    have huuid := congrArg UserService.uuid hname
    exact ⟨huuid, hb.told (leaveUse_told _ username now b)⟩

theorem release_keeps (id : Uuid) (now : Instant) : Keeps Sound (release id now) := by
  refine revise_keeps fun u b h => ?_
  cases hr : u.release now with
  | ok v => exact ⟨(UserService.Aged.release u now hr).uuid, h⟩
  | error e => exact ⟨rfl, h⟩

theorem commitReady_keeps (report : ReadyReport) (now : Instant) :
    Keeps Sound (commitReady report now) := by
  refine revise_keeps fun u b h => ?_
  dsimp only
  -- Only the mark by the OS manager can touch the id. What comes before and after it is set aside.
  generalize hb : b.tell (.provider report.userService (.setIp report.ip)) = told
  generalize hv : (u.logIp report.ip).setCommsUrl report.commsUrl = v
  have htold : told.Sound := h.told (hb ▸ .tell b _)
  have hvu : v.uuid = u.uuid := by rw [← hv]; rfl
  cases report.markOsUsable with
  | false =>
    refine ⟨?_, htold⟩
    cases report.clearInUse <;> simpa [UserService.setProperty, UserService.setInUse] using hvu
  | true =>
    have hm : ∀ m, b.osManager? u.pool = some m → m.Discreet :=
      fun m hm => h.discreet_of_osManager? hm
    have huuid : (markOsUsable v (b.osManager? u.pool) now told).1.uuid = u.uuid := by
      obtain ⟨name, hname⟩ := markOsUsable_service hm v now told
      rw [hname]
      exact hvu
    have hsound : (markOsUsable v (b.osManager? u.pool) now told).2.Sound :=
      htold.told (markOsUsable_told v now told)
    simp only [if_true]
    generalize markOsUsable v (b.osManager? u.pool) now told = marked at huuid hsound ⊢
    refine ⟨?_, hsound⟩
    cases report.clearInUse <;> simpa [UserService.setProperty, UserService.setInUse] using huuid

theorem notifyService_keeps (notification : Notification) : Keeps Sound (notifyService notification) :=
  fun b h => h.told (notifyService_told notification b)

theorem tellService_sound {b : Broker} (h : b.Sound) (service : Uuid) (event : ServiceEvent) :
    (b.tellService service event).Sound := h.told (tellService_told service event b)

theorem recordVersion_sound {b : Broker} (h : b.Sound) (token version ip : String) :
    (b.recordVersion token version ip).2.Sound := by
  unfold recordVersion
  cases Uuid.parse? token with
  | none => exact h
  | some id =>
    dsimp only
    cases hu : b.userService? id with
    | none => exact h
    | some u =>
      have huuid : u.uuid = id := h.uuid_of_userService? hu
      exact h.putUserService huuid

theorem appendLog_sound {b : Broker} (h : b.Sound) (token : String) (level : LogLevel)
    (message : String) (now : Instant) : (b.appendLog token level message now).2.Sound := by
  unfold appendLog
  split
  · exact h
  · exact h.congr rfl rfl

theorem answer_keeps (issuer : Issuer) (now : Instant) (draws : Draws) (query : Query) :
    Keeps Sound (backend.answer issuer now draws query) := by
  cases query with
  | findActorByMac mac => exact .bind (reading_keeps _) fun _ => .pure _
  | storeActor identity => exact .bind (writing_keeps fun b h => h.congr rfl rfl) fun _ => .pure _
  | validateActorToken token => exact .bind (reading_keeps _) fun _ => .pure _
  | findService token through => exact .bind (reading_keeps _) fun _ => .pure _
  | findAlias token => exact .bind (reading_keeps _) fun _ => .pure _
  | findAliasFor service id => exact .bind (reading_keeps _) fun _ => .pure _
  | createAlias record => exact .bind (writing_keeps fun b h => h.congr rfl rfl) fun _ => .pure _
  | findUserService filter => exact .bind (reading_keeps _) fun _ => .pure _
  | prepareActor id version => exact .bind (prepareActor_keeps id version) fun _ => .pure _
  | fetchUserService token => exact .bind (reading_keeps _) fun _ => .pure _
  | openSession token user =>
    exact .bind (openSession_keeps token user draws.session now) fun _ => .pure _
  | closeSession token user id => exact .bind (closeSession_keeps token user id now) fun _ => .pure _
  | release id => exact .bind (release_keeps id now) fun _ => .pure _
  | issueCertificate ip => exact .pure _
  | commitReady report => exact .bind (commitReady_keeps report now) fun _ => .pure _
  | notifyService notification => exact .bind (notifyService_keeps notification) fun _ => .pure _
  | resolveValidId service ids => exact .bind (reading_keeps _) fun _ => .pure _
  | notifyInitialization service id =>
    exact .bind (writing_keeps fun _ h => tellService_sound h _ _) fun _ => .pure _
  | storeIdInfo service id info =>
    exact .bind (writing_keeps fun _ h => tellService_sound h _ _) fun _ => .pure _

/-- The broker as a backend stays sound. -/
theorem backend_keeps : backend.Keeps Sound where
  answer := answer_keeps
  recordVersion token version ip := writing_keeps fun _ h => recordVersion_sound h token version ip
  actorVersion _ := reading_keeps _
  appendLog token level message now := writing_keeps fun _ h => appendLog_sound h token level message now

end SessionBroker.Broker
