import SessionBroker.Proofs.Broker.Sound

/-!
# Tasks of the administration

A task is one piece of administration with what it is about. What a task may bring with it from outside, an
OS manager or a change of a record, has to be such that the broker stays sound.
-/

namespace SessionBroker.Broker

open Effect (Keeps)

inductive Task
  | addStaff (token : String) (user : StaffUser)
  | addService (record : ServiceRecord) (unmanaged : Option UnmanagedService)
  | addPool (pool : ServicePool) (osManager : Option OsManager) (restraint : RestraintPolicy)
  | addUserService (service : UserService) (provider : Provider) (now : Instant)
  | setProvider (id : Uuid) (provider : Provider)
  /-- Changes the record of a user service in a way that the broker has no operation for. -/
  | edit (id : Uuid) (change : UserService → UserService)
  | finishPreparation (id : Uuid) (now : Instant)
  | moveToLevel (id : Uuid) (level : CacheLevel) (now : Instant)
  | cancel (id : Uuid) (now : Instant)
  | removeOrCancel (id : Uuid) (now : Instant)
  | assign (id user : Uuid) (now : Instant)
  | setEnvironment (owner : Uuid) (key value : String)
  | deleteUserService (id : Uuid) (now : Instant)

namespace Task

/-- The broker after a task, whatever came of it. -/
def perform (b : Broker) : Task → Broker
  | addStaff token user => b.addStaff token user
  | addService record unmanaged => b.addService record unmanaged
  | addPool pool osManager restraint => b.addPool pool osManager restraint
  | addUserService service provider now => (Broker.addUserService service provider now b).2
  | setProvider id provider => b.setProvider id provider
  | edit id change => (withUserService id (fun u => ((), change u)) b).2
  | finishPreparation id now => (Broker.finishPreparation id now b).2
  | moveToLevel id level now => (Broker.moveToLevel id level now b).2
  | cancel id now => (Broker.cancel id now b).2
  | removeOrCancel id now => (Broker.removeOrCancel id now b).2
  | assign id user now => (Broker.assign id user now b).2
  | setEnvironment owner key value => b.setEnvironment owner key value
  | deleteUserService id now => (Broker.deleteUserService id now b).2

/-- The OS manager of a new pool is discreet, and a change of a record leaves its id alone. -/
def Admissible : Task → Prop
  | addPool _ osManager _ => ∀ m, osManager = some m → m.Discreet
  | edit _ change => ∀ u, (change u).uuid = u.uuid
  | _ => True

end Task

theorem addPool_sound {b : Broker} (h : b.Sound) (pool : ServicePool) {osManager : Option OsManager}
    (hm : ∀ m, osManager = some m → m.Discreet) (restraint : RestraintPolicy) :
    (b.addPool pool osManager restraint).Sound where
  distinct := h.distinct
  keyed := h.keyed
  discreet row hr m hrow := by
    rcases Table.mem_put hr with rfl | hr
    · exact hm m hrow
    · exact h.discreet row hr m hrow

/-! ## The operations carried out -/

theorem addUserService_eq (service : UserService) (provider : Provider) (now : Instant) (b : Broker) :
    addUserService service provider now b =
      if (b.pools.get? service.pool).isNone then (.error (.unknownPool service.pool), b)
      else if b.isRestrained service.pool now then (.ok none, b)
      else (.ok (some service.uuid),
        { b with userServices := b.userServices.put service.uuid ⟨service, provider⟩ }) := by
  change (if (b.pools.get? service.pool).isNone then _ else _ : AdminM (Option Uuid)) b = _
  split
  · rfl
  · split <;> rfl

/-- A user service is admitted under its own id, or nothing happens. -/
theorem addUserService_cases (service : UserService) (provider : Provider) (now : Instant) (b : Broker) :
    addUserService service provider now b = (.ok (some service.uuid),
        { b with userServices := b.userServices.put service.uuid ⟨service, provider⟩ }) ∨
      (∀ id, (addUserService service provider now b).1 ≠ .ok (some id)) ∧
        (addUserService service provider now b).2 = b := by
  rw [addUserService_eq]
  split
  · exact .inr ⟨fun id h => (by cases h), rfl⟩
  · split
    · exact .inr ⟨fun id h => (by cases h), rfl⟩
    · exact .inl rfl

theorem withUserService_eq {α : Type} (id : Uuid) (f : UserService → α × UserService) (b : Broker) :
    withUserService id f b = match b.userService? id with
      | none => (.error (.notFound id), b)
      | some u => (.ok (f u).1, b.putUserService id (f u).2) := by
  change (match b.userService? id with | none => _ | some service => _ : AdminM α) b = _
  cases b.userService? id <;> rfl

theorem attempt_eq (id : Uuid) (f : UserService → Provider → Attempt) (b : Broker) :
    attempt id f b = match b.userServices.get? id with
      | none => (.error (.notFound id), b)
      | some entry =>
        let outcome := f entry.service entry.provider
        (match outcome.error with
          | some e => .error (.userService e)
          | none => .ok (),
        { b.putUserService id outcome.service with
          journal := b.journal ++ outcome.orders.map (Notice.provider id) }) := by
  change (match b.userServices.get? id with | none => _ | some entry => _ : AdminM Unit) b = _
  cases b.userServices.get? id with
  | none => rfl
  | some entry =>
    dsimp only
    cases (f entry.service entry.provider).error <;> rfl

theorem deleteUserService_eq (id : Uuid) (now : Instant) (b : Broker) :
    deleteUserService id now b = match b.userService? id with
      | none => (.error (.notFound id), b)
      | some u =>
        (.ok (u.endSession "" now),
          { b with
            userServices := b.userServices.erase id
            logs := b.logs.filter (·.owner ≠ u.uuid)
            environment := b.environment.erase u.uuid }) := by
  change (match b.userService? id with | none => _ | some service => _ : AdminM UserService) b = _
  cases b.userService? id <;> rfl

/-! ## User services after a task -/

section Lookup

variable (b : Broker) (id id' : Uuid)

theorem userService?_attempt (f : UserService → Provider → Attempt) :
    (attempt id f b).2.userService? id' =
      if id = id' then (b.userServices.get? id).map fun entry => (f entry.service entry.provider).service
      else b.userService? id' := by
  rw [attempt_eq]
  cases he : b.userServices.get? id with
  | none =>
    dsimp only
    split
    · next hid =>
      subst hid
      simp [userService?, he]
    · rfl
  | some entry =>
    have hput := userService?_putUserService id id' (f entry.service entry.provider).service b
    rw [userService?_of_get? he] at hput
    exact hput

theorem userService?_attempt_self (f : UserService → Provider → Attempt) :
    (attempt id f b).2.userService? id =
      (b.userServices.get? id).map fun entry => (f entry.service entry.provider).service := by
  rw [userService?_attempt, if_pos rfl]

theorem userService?_withUserService {α : Type} (f : UserService → α × UserService) :
    (withUserService id f b).2.userService? id' =
      if id = id' then (b.userService? id).map fun u => (f u).2 else b.userService? id' := by
  rw [withUserService_eq]
  cases hu : b.userService? id with
  | none =>
    dsimp only
    split
    · next hid => rw [← hid, hu]; rfl
    · rfl
  | some u =>
    dsimp only
    rw [userService?_putUserService, hu]
    rfl

theorem userService?_setProvider (provider : Provider) :
    (b.setProvider id provider).userService? id' = b.userService? id' := by
  unfold setProvider
  cases he : b.userServices.get? id with
  | none => rfl
  | some entry =>
    simp only [userService?, Table.get?_put]
    split
    · next hid => simp [← hid, he]
    · rfl

theorem userService?_deleteUserService (now : Instant) :
    (deleteUserService id now b).2.userService? id' = if id = id' then none else b.userService? id' := by
  rw [deleteUserService_eq]
  cases hu : b.userService? id with
  | none =>
    dsimp only
    split
    · next hid => rw [← hid, hu]
    · rfl
  | some u =>
    simp only [userService?, Table.get?_erase]
    split <;> rfl

end Lookup

/-! ## They keep brokers sound -/

theorem withUserService_keeps {α : Type} {id : Uuid} {f : UserService → α × UserService}
    (hf : ∀ u, (f u).2.uuid = u.uuid) : Keeps Sound (withUserService id f) := by
  intro b h
  rw [withUserService_eq]
  cases hu : b.userService? id with
  | none => exact h
  | some u => exact h.putUserService ((hf u).trans (h.uuid_of_userService? hu))

theorem attempt_keeps {id : Uuid} {f : UserService → Provider → Attempt}
    (hf : ∀ u provider, UserService.Aged u (f u provider).service) : Keeps Sound (attempt id f) := by
  intro b h
  rw [attempt_eq]
  cases he : b.userServices.get? id with
  | none => exact h
  | some entry =>
    have huuid := (hf entry.service entry.provider).uuid.trans (h.uuid_of_get? he)
    exact (h.putUserService huuid).congr rfl rfl

theorem addUserService_keeps (service : UserService) (provider : Provider) (now : Instant) :
    Keeps Sound (addUserService service provider now) := by
  intro b h
  rcases addUserService_cases service provider now b with heq | ⟨-, heq⟩
  · rw [heq]
    exact h.put rfl
  · rwa [heq]

theorem setProvider_sound {b : Broker} (h : b.Sound) (id : Uuid) (provider : Provider) :
    (b.setProvider id provider).Sound := by
  unfold setProvider
  cases he : b.userServices.get? id with
  | none => exact h
  | some entry =>
    have huuid : entry.service.uuid = id := h.uuid_of_get? he
    exact h.put huuid

theorem deleteUserService_keeps (id : Uuid) (now : Instant) : Keeps Sound (deleteUserService id now) := by
  intro b h
  rw [deleteUserService_eq]
  cases b.userService? id with
  | none => exact h
  | some u => exact (h.erase id).congr rfl rfl

theorem Task.perform_sound {b : Broker} (h : b.Sound) {task : Task} (ht : task.Admissible) :
    (task.perform b).Sound := by
  cases task with
  | addStaff token user => exact h.congr rfl rfl
  | addService record unmanaged => exact h.congr rfl rfl
  | addPool pool osManager restraint => exact addPool_sound h pool ht restraint
  | addUserService service provider now => exact addUserService_keeps service provider now b h
  | setProvider id provider => exact setProvider_sound h id provider
  | edit id change => exact withUserService_keeps (fun u => ht u) b h
  | finishPreparation id now => exact attempt_keeps (fun u p => .finishPreparation u p now) b h
  | moveToLevel id level now => exact attempt_keeps (fun u p => .moveToLevel u p now level) b h
  | cancel id now => exact attempt_keeps (fun u p => .cancel u p now) b h
  | removeOrCancel id now => exact attempt_keeps (fun u p => .removeOrCancel u p now) b h
  | assign id user now => exact withUserService_keeps (fun _ => rfl) b h
  | setEnvironment owner key value => exact h.congr rfl rfl
  | deleteUserService id now => exact deleteUserService_keeps id now b h

end SessionBroker.Broker
