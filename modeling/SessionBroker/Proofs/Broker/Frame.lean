import SessionBroker.Broker.Memory
import SessionBroker.Proofs.Table

/-!
# What the operations of the broker change

An operation on a user service changes that record and adds to the journal; the other tables stay as they
are. The OS managers may have a say in the record. Those that are `Discreet` only ever give the machine
another name, so that the fields that an operation sets are known from the record before it.
-/

namespace SessionBroker

/-- The hooks of the manager touch nothing but the name of the machine. -/
structure OsManager.Discreet (m : OsManager) : Prop where
  actorData : ∀ u, ∃ name, (m.actorData u).2 = { u with friendlyName := name }
  toReady : ∀ u, ∃ name, m.toReady u = { u with friendlyName := name }
  loggedIn : ∀ u username, ∃ name, m.loggedIn u username = { u with friendlyName := name }
  loggedOut : ∀ u username, ∃ name, m.loggedOut u username = { u with friendlyName := name }

theorem OsPolicy.manager_discreet (p : OsPolicy) : p.manager.Discreet where
  actorData u := by
    unfold manager
    cases p.renameTo with
    | none => exact ⟨u.friendlyName, rfl⟩
    | some name => exact ⟨name, rfl⟩
  toReady u := ⟨u.friendlyName, rfl⟩
  loggedIn u _ := ⟨u.friendlyName, rfl⟩
  loggedOut u _ := ⟨u.friendlyName, rfl⟩

namespace Broker

/-! ## What is found -/

theorem userService?_of_get? {id : Uuid} {entry : UserServiceEntry} {b : Broker}
    (h : b.userServices.get? id = some entry) : b.userService? id = some entry.service := by
  unfold userService?
  rw [h]
  rfl

theorem userService?_putUserService (id id' : Uuid) (v : UserService) (b : Broker) :
    (b.putUserService id v).userService? id' =
      if id = id' then (b.userService? id).map fun _ => v else b.userService? id' := by
  unfold userService? putUserService
  cases hb : b.userServices.get? id with
  | none =>
    dsimp only
    split
    · next hid => simp [← hid, hb]
    · rfl
  | some entry =>
    dsimp only
    rw [Table.get?_put]
    split <;> simp

/-! ## What collaborators are told -/

/-- Collaborators were told something, and nothing else has happened. -/
def Told (b b' : Broker) : Prop := ∃ notices, b' = { b with journal := b.journal ++ notices }

theorem Told.refl (b : Broker) : b.Told b := ⟨[], by simp⟩

theorem Told.tell (b : Broker) (notice : Notice) : b.Told (b.tell notice) := ⟨[notice], rfl⟩

theorem Told.trans {a b c : Broker} (h : a.Told b) (h' : b.Told c) : a.Told c := by
  obtain ⟨notices, rfl⟩ := h
  obtain ⟨notices', rfl⟩ := h'
  exact ⟨notices ++ notices', by simp⟩

theorem notifyService_told (notification : Notification) (b : Broker) :
    b.Told (notifyService notification b).2 := by
  unfold notifyService
  split
  · exact .refl b
  · split
    · exact .refl b
    · split
      · exact .tell b _
      · exact .refl b

theorem tellService_told (service : Uuid) (event : ServiceEvent) (b : Broker) :
    b.Told (b.tellService service event) := by
  unfold tellService
  split
  · exact .tell b _
  · exact .refl b

/-! ## What an OS manager makes of a record -/

/-- A user service after a logout, under the name that the OS manager leaves it. -/
def loggedOff (u : UserService) (sessionId name : String) (now : Instant) : UserService :=
  { u with
    friendlyName := name
    sessions := u.sessions.map (UserService.closeSession sessionId now)
    inUse := false
    inUseDate := if u.inUse then now else u.inUseDate }

/-- A user service may go after a logout, unless an OS manager says otherwise. -/
def removable (manager : Option OsManager) (u : UserService) : Bool :=
  match manager with
  | some m => m.isRemovableOnLogout u
  | none => true

variable {manager : Option OsManager} (hm : ∀ m, manager = some m → m.Discreet) (u : UserService)
  (username : String) (now : Instant) (b : Broker)

theorem enterUse_told : b.Told (enterUse u manager username now b).2 := by
  unfold enterUse
  split
  · exact .refl b
  · cases manager with
    | none => exact .refl b
    | some m => exact .tell b _

theorem leaveUse_told : b.Told (leaveUse u manager username now b).2 := by
  unfold leaveUse
  split
  · exact .refl b
  · cases manager with
    | none => exact .refl b
    | some m => exact .tell b _

theorem markOsUsable_told : b.Told (markOsUsable u manager now b).2 := by
  unfold markOsUsable
  cases manager with
  | none => exact .refl b
  | some m => exact .tell b _

include hm

theorem enterUse_service : ∃ name, (enterUse u manager username now b).1 =
    { u with
      friendlyName := name
      inUse := true
      inUseDate := if u.inUse then u.inUseDate else now } := by
  unfold enterUse
  cases hu : u.inUse with
  | true => exact ⟨u.friendlyName, by cases u; subst hu; rfl⟩
  | false =>
    cases manager with
    | none => exact ⟨u.friendlyName, rfl⟩
    | some m =>
      obtain ⟨name, hname⟩ := (hm m rfl).loggedIn u username
      exact ⟨name, by simp [hname, UserService.setInUse]⟩

theorem leaveUse_service : ∃ name, (leaveUse u manager username now b).1 =
    { u with
      friendlyName := name
      inUse := false
      inUseDate := if u.inUse then now else u.inUseDate } := by
  unfold leaveUse
  cases hu : u.inUse with
  | false => exact ⟨u.friendlyName, by cases u; subst hu; rfl⟩
  | true =>
    cases manager with
    | none => exact ⟨u.friendlyName, rfl⟩
    | some m =>
      obtain ⟨name, hname⟩ := (hm m rfl).loggedOut u username
      exact ⟨name, by simp [hname, UserService.setInUse]⟩

theorem markOsUsable_service : ∃ name, (markOsUsable u manager now b).1 =
    { u with
      friendlyName := name
      osState := .usable
      stateDate := if u.osState = .usable then u.stateDate else now } := by
  have hset : u.setOsState .usable now =
      { u with
        osState := .usable
        stateDate := if u.osState = .usable then u.stateDate else now } := by
    unfold UserService.setOsState
    cases u with
    | mk _ _ _ _ _ osState => cases osState <;> rfl
  unfold markOsUsable
  rw [hset]
  cases manager with
  | none => exact ⟨u.friendlyName, rfl⟩
  | some m => exact (hm m rfl).toReady _

end Broker

end SessionBroker
