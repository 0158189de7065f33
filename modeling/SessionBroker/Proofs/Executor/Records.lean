import SessionBroker.Proofs.Broker.Revision
import SessionBroker.Proofs.Executor.Errands

/-!
# User services under their own ids

A broker keeps every user service once, and under its own id, as long as no OS manager and no change behind
its back touches the ids. The first needs no such care: no operation writes a key twice. So what is found under
an id is the one user service that has it, in every state that an executor comes to.
-/

namespace SessionBroker

open Effect (Keeps)

namespace Broker

variable {H : OsManager → Prop} {b b' : Broker} {id : Uuid} {u v : UserService}

/-! ## Once -/

theorem backend_distinct : backend.Keeps Distinct :=
  backend_keeps_of_revised Revised.distinct (fun _ h => h) (fun _ h => h) fun _ _ h => h

theorem Task.perform_distinct (task : Task) (h : b.Distinct) : (task.perform b).Distinct := by
  cases task with
  | addStaff token user => exact h
  | addService record unmanaged => exact h
  | addPool pool osManager restraint => exact h
  | addUserService service provider now =>
    change (Broker.addUserService service provider now b).2.Distinct
    rcases addUserService_cases service provider now b with heq | ⟨-, heq⟩
    · rw [heq]
      exact Table.KeysNodup.put h _ _
    · rwa [heq]
  | setEnvironment owner key value => exact h
  | deleteUserService id now =>
    change (Broker.deleteUserService id now b).2.Distinct
    rw [deleteUserService_eq]
    cases b.userService? id with
    | none => exact h
    | some u => exact Table.KeysNodup.erase h id
  | _ => exact (perform_revised (by trivial) b).distinct h

/-! ## Under the own id -/

theorem addUserService_admitted {u : UserService} {provider : Provider} {now : Instant}
    (h : (addUserService u provider now b).1 = .ok (some id)) :
    u.uuid = id ∧ (addUserService u provider now b).2.userService? id = some u := by
  rcases addUserService_cases u provider now b with heq | ⟨hrefused, -⟩
  · rw [heq] at h ⊢
    cases h
    exact ⟨rfl, by simp [userService?, Table.get?_put]⟩
  · exact absurd h (hrefused id)

/-- The id that each user service is found to have. -/
def ids (b : Broker) (id : Uuid) : Option Uuid := (b.userService? id).map UserService.uuid

theorem Keyed.of_shown (hb : b.Keyed) (h : b'.Shows H UserService.uuid b.ids) : b'.Keyed := by
  intro id u hu
  have hsame := h.shown id
  rw [hu] at hsame
  obtain ⟨before, hbefore, huuid⟩ := Option.map_eq_some_iff.mp hsame.symm
  exact huuid.symm.trans (hb id before hbefore)

theorem Task.perform_keyed {task : Task} (ht : task.Edits UserService.uuid) (hb : b.Keyed) :
    (task.perform b).Keyed := by
  intro id u hu
  by_cases hsupplants : task.Supplants id b
  · cases task with
    | addUserService service provider now =>
      obtain ⟨huuid, hafter⟩ := addUserService_admitted hsupplants
      cases hafter.symm.trans hu
      exact huuid
    | deleteUserService id' now =>
      have hid : id' = id := hsupplants
      have hafter := b.userService?_deleteUserService id' id now
      rw [if_pos hid] at hafter
      cases hafter.symm.trans hu
    | _ => exact hsupplants.elim
  · have hsame := Task.perform_shown UserService.uuid_plain ht hsupplants
    rw [hu] at hsame
    obtain ⟨before, hbefore, huuid⟩ := Option.map_eq_some_iff.mp hsame.symm
    exact huuid.symm.trans (hb id before hbefore)

theorem Kept.holds (h : b.Kept) (hu : b.userService? id = some u) : b.Holds id u := by
  obtain ⟨entry, hentry, rfl⟩ := Option.map_eq_some_iff.mp hu
  exact ⟨hu, h.keyed _ (Table.mem_of_get? hentry)⟩

end Broker

namespace Executor

variable {config : BrokerConfig} {cipher : Cipher} {issuer : Issuer} {s : State Broker TicketTable} {id : Uuid}
  {event : Event} {events : List Event} {H : OsManager → Prop}

/-! ## In every state -/

/-- Apart from tasks of the administration, no event changes what is shown of user services, if that depends
neither on their sessions nor on what the OS managers change. -/
theorem Event.happen_shows {γ : Type} {g : UserService → γ} (hg : UserService.Steady g)
    (hopen : ∀ u sessionId now, g (u.startSession sessionId now) = g u)
    (hclose : ∀ u sessionId now, g (u.endSession sessionId now) = g u) (hH : ∀ m, H m → m.Spares g)
    (hevent : ∀ task, event ≠ .administer task) (hs : s.backend.Hooks H) :
    (event.happen (inMemory config cipher issuer) s).backend.Shows H g
      fun id => (s.backend.userService? id).map g :=
  Event.happen_keeps (Broker.backend_shows hg hopen hclose hH) (fun task htask => absurd htask (hevent task))
    ⟨hs, fun _ => rfl⟩

/-- Where no OS manager touches ids, user services stay under their own. -/
theorem Event.happen_keyed (hH : ∀ m, H m → m.Spares UserService.uuid)
    (hshown : event.SparesShown UserService.uuid) (hs : s.backend.Hooks H) (hkeyed : s.backend.Keyed) :
    (event.happen (inMemory config cipher issuer) s).backend.Keyed := by
  have other (hevent : ∀ task, event ≠ .administer task) :
      (event.happen (inMemory config cipher issuer) s).backend.Keyed :=
    hkeyed.of_shown
      (Event.happen_shows UserService.uuid_plain.steady (fun _ _ _ => rfl) (fun _ _ _ => rfl) hH hevent hs)
  cases event with
  | administer task => exact Broker.Task.perform_keyed hshown.2 hkeyed
  | _ => exact other (by simp)

/-- A user service is there after an event if it was there before, unless the event supplants it. -/
theorem Event.happen_present (hkept : ¬ event.Supplants id s) :
    ((event.happen (inMemory config cipher issuer) s).backend.userService? id).isSome =
      (s.backend.userService? id).isSome := by
  have hbackend : Broker.backend.Keeps fun b => (b.userService? id).isSome = (s.backend.userService? id).isSome :=
    Broker.backend_keeps_of_revised (fun h hb => (h.isSome_userService? id).trans hb) (fun _ h => h) (fun _ h => h)
      fun _ _ h => h
  refine Event.happen_keeps hbackend ?_ rfl
  rintro task rfl
  have hedits : task.Edits fun _ => () := by
    cases task with
    | edit id change => exact fun _ => rfl
    | _ => trivial
  have hshown := Broker.Task.perform_shown (fun _ _ => rfl) hedits hkept
  simpa only [Option.isSome_map] using congrArg Option.isSome hshown

theorem Event.happen_distinct (event : Event) (hs : s.backend.Distinct) :
    (event.happen (inMemory config cipher issuer) s).backend.Distinct :=
  Event.happen_keeps Broker.backend_distinct (fun task _ => task.perform_distinct hs) hs

/-- The state can come about by events of which none touches the id of a user service. -/
inductive Attainable (x : Executor Broker TicketTable) : State Broker TicketTable → Prop
  | start : Attainable x .initial
  | next {t : State Broker TicketTable} (before : Attainable x t) (event : Event)
      (h : event.SparesShown UserService.uuid) : Attainable x (event.happen x t)

theorem Attainable.after {x : Executor Broker TicketTable} (h : Attainable x s)
    (hevents : ∀ event ∈ events, event.SparesShown UserService.uuid) : Attainable x (x.after events s) := by
  induction events generalizing s with
  | nil => exact h
  | cons event rest ih =>
    obtain ⟨hfirst, hrest⟩ := List.forall_mem_cons.mp hevents
    exact ih (h.next event hfirst) hrest

/-- An OS manager that follows a policy, and a change of a record but for its id, do no harm. -/
theorem Attainable.equipped {x : Executor Broker TicketTable} (h : Attainable x s) (pool : ServicePool)
    (policy : OsPolicy) (restraint : RestraintPolicy) (u : UserService) (provider : Provider) (now : Instant)
    (id : Uuid) {change : UserService → UserService} (hchange : ∀ u, (change u).uuid = u.uuid) :
    Attainable x (x.after [.administer (.addPool pool (some policy.manager) restraint),
      .administer (.addUserService u provider now), .administer (.edit id change)] s) := by
  have hmanager : policy.manager.Spares UserService.uuid := policy.manager_spares UserService.uuid_lasting
  refine h.after ?_
  simpa [Event.SparesShown, Broker.Task.Hooks, Broker.Task.Edits] using ⟨hmanager, hchange⟩

/-- A user service has come to a pool whose OS manager does no harm, and something else has happened since. -/
theorem Attainable.arrival {x : Executor Broker TicketTable} {manager : OsManager}
    (hm : manager.Spares UserService.uuid) (provider : Provider)
    (hevents : ∀ event ∈ events, event.SparesShown UserService.uuid) :
    Attainable x (x.after (trialArrival manager provider ++ events) .initial) := by
  refine .after .start (List.forall_mem_append.mpr ⟨?_, hevents⟩)
  simp [trialArrival, Event.SparesShown, Broker.Task.Hooks, Broker.Task.Edits, hm]

theorem Attainable.sparing (h : Attainable (inMemory config cipher issuer) s) :
    s.backend.Sparing UserService.uuid := by
  induction h with
  | start => exact .empty _
  | next _ event hevent ih =>
    exact ⟨event.happen_distinct ih.distinct, event.happen_keyed (fun _ hm => hm) hevent ih.hooks ih.keyed,
      event.happen_hooks hevent.hooks ih.hooks⟩

/-- In every such state the user services are kept once and under their own ids. -/
theorem Attainable.kept (h : Attainable (inMemory config cipher issuer) s) : s.backend.Kept := h.sparing.kept

end Executor

end SessionBroker
