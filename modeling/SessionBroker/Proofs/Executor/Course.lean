import SessionBroker.Proofs.Broker.Visit
import SessionBroker.Proofs.Executor.Records

/-!
# The course of user services

A user service comes as new, and from then on it changes by the operations of the broker and by the calls of
actors. `Event.happen_fate` says all that one event can make of it, where the OS managers leave alone what is told
of the service. What is claimed of every state that a run goes through is then a matter of single events:
`throughout_iff`.
-/

namespace SessionBroker

variable {γ : Type} {g : UserService → γ}

namespace Broker

/-- A new user service is fresh, a new OS manager does not touch what is told of user services, and records are
not changed behind the back of the broker. -/
def Task.Regular (g : UserService → γ) : Task → Prop
  | addUserService service _ _ => ∃ uuid pool uniqueId friendlyName level now,
      service = .fresh uuid pool uniqueId friendlyName level now
  | addPool _ osManager _ => ∀ m, osManager = some m → m.Spares g
  | edit .. => False
  | _ => True

/-- The task deletes the user service, or has another one come under its id. -/
def Task.Replaces (id : Uuid) : Task → Prop
  | addUserService service _ _ => service.uuid = id
  | deleteUserService id' _ => id' = id
  | _ => False

/-- The task has the user service cancelled, or removed where there is nothing to cancel. -/
def Task.Cancels (id : Uuid) : Task → Prop
  | cancel id' _ => id' = id
  | removeOrCancel id' _ => id' = id
  | _ => False

theorem Task.Regular.hooks {task : Task} (h : task.Regular g) : task.Hooks (OsManager.Spares g) := by
  cases task with
  | addPool _ osManager _ => exact h
  | _ => trivial

theorem Task.Regular.edits {task : Task} (h : task.Regular g) : task.Edits UserService.uuid := by
  cases task with
  | edit id change => exact h.elim
  | _ => trivial

end Broker

namespace Executor

open Broker (Onward Visited)
open Effect (Keeps)
open UserService (Outline Visits)

/-! ## One event -/

namespace Event

/-- The event changes user services, if at all, as a call, a release or a regular task does. -/
def Regular (g : UserService → γ) : Event → Prop
  | administer task => task.Regular g
  | query q _ _ => ∃ id, q = .release id
  | _ => True

def Replaces (id : Uuid) : Event → Prop
  | administer task => task.Replaces id
  | _ => False

def Cancels (id : Uuid) : Event → Prop
  | administer task => task.Cancels id
  | _ => False

end Event

/-- What an event makes of the record of a user service. -/
inductive Turn (g : UserService → γ) (id : Uuid) (provider : Provider) (u : UserService) :
    Event → UserService → Prop
  | visited (event : Event) {v : UserService} (h : Visits g u v) : Turn g id provider u event v
  | finished (now : Instant) :
      Turn g id provider u (.administer (.finishPreparation id now)) (u.finishPreparation provider now).service
  | moved (level : CacheLevel) (now : Instant) :
      Turn g id provider u (.administer (.moveToLevel id level now)) (u.moveToLevel level provider now).service
  | cancelled {event : Event} (h : event.Cancels id) (now : Instant) :
      Turn g id provider u event (u.cancel provider now).service
  | assigned (user : Uuid) (now : Instant) :
      Turn g id provider u (.administer (.assign id user now)) (u.assignToUser user now)

/-- What an event makes of whatever stands under an id. -/
inductive Fate (g : UserService → γ) (id : Uuid) (event : Event) :
    Option UserServiceEntry → Option UserService → Prop
  | absent : Fate g id event none none
  | admitted (before : Option UserServiceEntry) (h : event.Replaces id) (pool : Uuid)
      (uniqueId friendlyName : String) (level : CacheLevel) (now : Instant) :
      Fate g id event before (some (.fresh id pool uniqueId friendlyName level now))
  | deleted (entry : UserServiceEntry) (h : event.Replaces id) : Fate g id event (some entry) none
  | turned {entry : UserServiceEntry} {v : UserService} (h : Turn g id entry.provider entry.service event v) :
      Fate g id event (some entry) (some v)

variable {id : Uuid} {event : Event}

theorem Fate.of_visited {b b' : Broker} (h : Visited g b b') :
    Fate g id event (b.userServices.get? id) (b'.userService? id) := by
  have hid := h id
  unfold Broker.userService? at hid ⊢
  generalize b.userServices.get? id = entry at hid ⊢
  cases entry with
  | none =>
    generalize Option.map (·.service) (b'.userServices.get? id) = after at hid ⊢
    cases hid
    exact .absent
  | some entry =>
    generalize Option.map (·.service) (b'.userServices.get? id) = after at hid ⊢
    cases hid with
    | some hvisits => exact .turned (.visited event hvisits)

/-- A user service that nothing happens to. -/
theorem Fate.same {b b' : Broker} (h : b'.userService? id = b.userService? id) :
    Fate g id event (b.userServices.get? id) (b'.userService? id) := by
  rw [h]
  exact of_visited (.refl b)

/-- An operation of a user service's life is a turn for that service, and nothing for the others. -/
theorem Fate.attempt {b : Broker} {id' : Uuid} {f : UserService → Provider → Attempt}
    (h : ∀ entry : UserServiceEntry, id' = id →
      Turn g id entry.provider entry.service event (f entry.service entry.provider).service) :
    Fate g id event (b.userServices.get? id) ((Broker.attempt id' f b).2.userService? id) := by
  by_cases hid : id' = id
  · subst hid
    rw [Broker.userService?_attempt_self]
    cases b.userServices.get? id' with
    | none => exact .absent
    | some entry => exact .turned (h entry rfl)
  · exact .same ((Broker.userService?_attempt b id' id f).trans (if_neg hid))

theorem Fate.task {b : Broker} {task : Broker.Task} (h : task.Regular g) :
    Fate g id (.administer task) (b.userServices.get? id) ((task.perform b).userService? id) := by
  cases task with
  | addStaff token user => exact .same rfl
  | addService record unmanaged => exact .same rfl
  | addPool pool osManager restraint => exact .same rfl
  | setEnvironment owner key value => exact .same rfl
  | edit id' change => exact h.elim
  | setProvider id' provider => exact .same (b.userService?_setProvider id' id provider)
  | finishPreparation id' now => exact .attempt fun entry hid => hid ▸ .finished now
  | moveToLevel id' level now => exact .attempt fun entry hid => hid ▸ .moved level now
  | cancel id' now =>
    have hcancels (hid : id' = id) : Event.Cancels id (.administer (.cancel id' now)) := hid
    exact .attempt fun entry hid => .cancelled (hcancels hid) now
  | removeOrCancel id' now =>
    have hcancels (hid : id' = id) : Event.Cancels id (.administer (.removeOrCancel id' now)) := hid
    refine .attempt fun entry hid => ?_
    rw [UserService.removeOrCancel_eq]
    exact .cancelled (hcancels hid) now
  | assign id' user now =>
    have hafter := b.userService?_withUserService id' id fun u => ((), u.assignToUser user now)
    change Fate g id _ _ ((Broker.withUserService id' _ b).2.userService? id)
    by_cases hid : id' = id
    · subst hid
      rw [hafter, if_pos rfl]
      unfold Broker.userService?
      cases b.userServices.get? id' with
      | none => exact .absent
      | some entry => exact .turned (.assigned user now)
    · rw [if_neg hid] at hafter
      exact .same hafter
  | deleteUserService id' now =>
    have hafter := b.userService?_deleteUserService id' id now
    change Fate g id _ _ ((Broker.deleteUserService id' now b).2.userService? id)
    by_cases hid : id' = id
    · rw [hafter, if_pos hid]
      cases b.userServices.get? id with
      | none => exact .absent
      | some entry => exact .deleted entry hid
    · rw [if_neg hid] at hafter
      exact .same hafter
  | addUserService service provider now =>
    obtain ⟨uuid, pool, uniqueId, friendlyName, level, made, rfl⟩ := h
    change Fate g id _ _ ((Broker.addUserService _ provider now b).2.userService? id)
    rcases Broker.addUserService_cases (.fresh uuid pool uniqueId friendlyName level made) provider now b with
      heq | ⟨-, heq⟩
    · rw [heq]
      by_cases hid : uuid = id
      · subst hid
        simp only [Broker.userService?, Table.get?_put, UserService.fresh, if_true, Option.map_some]
        have hreplaces : Event.Replaces uuid (.administer (.addUserService
            (.fresh uuid pool uniqueId friendlyName level made) provider now)) := rfl
        exact .admitted _ hreplaces pool uniqueId friendlyName level made
      · refine .same ?_
        simp [Broker.userService?, Table.get?_put, UserService.fresh, hid]
    · rw [heq]
      exact .same rfl

variable {config : BrokerConfig} {cipher : Cipher} {issuer : Issuer} {s : State Broker TicketTable}

section

variable (hg : Outline g)

include hg

/-- No part of a call leaves a user service otherwise than by visits. -/
theorem undisturbed_onward (a : Broker) (ctx : RequestContext) (draws : Draws) :
    (inMemory config cipher issuer).Undisturbed ctx draws fun s => Onward g a s.backend where
  register request := run_keeps (Register.run_onward issuer ctx.now draws request _ _)
  bindActor request := run_keeps (Binding.run_onward hg issuer ctx.now draws request)
  login request := run_keeps (Login.run_onward hg issuer ctx.now draws request)
  logout request := run_keeps (Logout.run_onward hg issuer ctx.now draws request)
  ready request clearInUse := run_keeps (Ready.run_onward hg issuer ctx.now draws request clearInUse _)
  unmanaged request := run_keeps (Unmanaged.run_onward hg issuer ctx.now draws request _)
  validateActorToken token := onBackend_keeps (.reading fun b => b.validateActorToken token)
  findService token := onBackend_keeps (.reading fun b => b.findService token true)
  notifyService notification := onBackend_keeps (.notifyService hg notification)
  recordVersion token version ip := onBackend_keeps (.recordVersion hg token version ip)
  actorVersion token := onBackend_keeps (.reading fun b => (b.tokenUserService? token).map (·.actorVersion))
  appendLog token level message now := onBackend_keeps (.appendLog token level message now)

/-- Tasks of the administration apart, events leave user services by visits. -/
theorem Event.happen_onward (hr : event.Regular g) (hevent : ∀ task, event ≠ .administer task)
    (hs : s.backend.Sparing g) :
    Onward g s.backend (event.happen (inMemory config cipher issuer) s).backend := by
  have hstart : Onward g s.backend s.backend := .start hs
  cases event with
  | call call =>
    exact take_keeps (fun ctx draws => undisturbed_onward hg s.backend ctx draws) (fun _ _ h => h) (fun _ _ h => h)
      call s hstart
  | administer task => exact absurd rfl (hevent task)
  | ticket task => exact hstart
  | query q now draws =>
    obtain ⟨released, rfl⟩ := hr
    have honward : Keeps (Onward g s.backend) (Broker.backend.answer issuer now draws (.release released)) :=
      .bind (.release hg released now) fun _ => .pure _
    exact honward s.backend hstart
  | recordVersion token version ip => exact Onward.recordVersion hg token version ip _ hstart
  | appendLog token level message now => exact Onward.appendLog token level message now _ hstart
  | recordFailure source now => exact hstart
  | clearFailures source => exact hstart

/-- All that an event can make of what stands under an id. -/
theorem Event.happen_fate (hr : event.Regular g) (hs : s.backend.Sparing g) (id : Uuid) :
    Fate g id event (s.backend.userServices.get? id)
      ((event.happen (inMemory config cipher issuer) s).backend.userService? id) := by
  cases event with
  | administer task => exact .task hr
  | _ => exact .of_visited (Event.happen_onward hg hr (by simp) hs).visited

/-- OS managers stay sparing, and user services under their own ids. -/
theorem Event.happen_sparing (hr : event.Regular g) (hs : s.backend.Sparing g) :
    (event.happen (inMemory config cipher issuer) s).backend.Sparing g := by
  cases event with
  | administer task =>
    exact ⟨task.perform_distinct hs.distinct, Broker.Task.perform_keyed hr.edits hs.keyed,
      Broker.Task.perform_hooks hr.hooks hs.hooks⟩
  | _ => exact (Event.happen_onward hg hr (by simp) hs).sparing

/-- An event that does not replace a user service is a turn for it. -/
theorem Event.happen_turn {entry : UserServiceEntry} (hr : event.Regular g) (hs : s.backend.Sparing g)
    (hkept : ¬ event.Replaces id) (hentry : s.backend.userServices.get? id = some entry) :
    ∃ v, (event.happen (inMemory config cipher issuer) s).backend.userService? id = some v ∧
      Turn g id entry.provider entry.service event v := by
  have hfate : Fate g id event (s.backend.userServices.get? id)
      ((event.happen (inMemory config cipher issuer) s).backend.userService? id) := Event.happen_fate hg hr hs id
  rw [hentry] at hfate
  generalize (event.happen (inMemory config cipher issuer) s).backend.userService? id = after at hfate
  cases hfate with
  | admitted _ h => exact absurd h hkept
  | deleted _ h => exact absurd h hkept
  | turned h => exact ⟨_, rfl, h⟩

end

/-- A property that fresh services have and every turn keeps goes on to hold under the id. -/
theorem Fate.keeps {before : Option UserServiceEntry} {after : Option UserService} {P : UserService → Prop}
    (h : Fate g id event before after)
    (fresh : ∀ pool uniqueId friendlyName level now, P (.fresh id pool uniqueId friendlyName level now))
    (turn : ∀ (entry : UserServiceEntry) {v}, before = some entry →
      Turn g id entry.provider entry.service event v → P entry.service → P v)
    (hbefore : ∀ entry, before = some entry → P entry.service) : ∀ v, after = some v → P v := by
  intro v hv
  cases h with
  | absent => cases hv
  | admitted _ _ pool uniqueId friendlyName level now =>
    cases hv
    exact fresh pool uniqueId friendlyName level now
  | deleted entry h => cases hv
  | @turned entry _ h =>
    cases hv
    exact turn entry rfl h (hbefore entry rfl)

/-! ## An OS manager at work -/

/-- An OS manager that notes on the user service who uses it. -/
def notingManager : OsManager :=
  { OsPolicy.standard.manager with
    loggedIn := fun u username => u.setProperty "user" username
    loggedOut := fun u _ => u.setProperty "user" "" }

theorem notingManager_spares (hg : Outline g) : notingManager.Spares g where
  actorData _ := hg.same rfl rfl rfl
  toReady _ := hg.same rfl rfl rfl
  loggedIn _ _ := hg.same rfl rfl rfl
  loggedOut _ _ := hg.same rfl rfl rfl

/-- A user logs on to the one user service that there is. -/
def trialLogin (username : String) : Call :=
  .action ⟨.epoch, "10.1.1.1", none⟩ ⟨"", "session", ""⟩ .login
    (.obj [("token", .str Uuid.nil.text), ("username", .str username)])

theorem trialArrival_regular (hg : Outline g) (provider : Provider) :
    ∀ event ∈ trialArrival notingManager provider, event.Regular g := by
  intro event h
  simp only [trialArrival, List.mem_cons, List.not_mem_nil, or_false] at h
  rcases h with rfl | rfl
  · rintro m ⟨⟩
    exact notingManager_spares hg
  · exact ⟨_, _, _, _, _, _, rfl⟩

end Executor

end SessionBroker
