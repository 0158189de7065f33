import SessionBroker.Crypto.Certificate
import SessionBroker.Crypto.TaggedXor
import SessionBroker.Proofs.Executor.Records

/-!
# Services that have a user

A user service gets its user by an assignment, which also takes it out of the cache. From then on it stays with
users: a move back to the cache is refused, and no other operation changes the level or the user. A move that is
not refused sets the level even where the provider fails to carry it out, so what is claimed here has to hold
whether operations succeed or not.
-/

namespace SessionBroker

open UserService (Placed BelongsTo placement)

/-- The task brings a user service only if it has a property. -/
def Broker.Task.Brings (P : UserService → Prop) : Task → Prop
  | addUserService service _ _ => P service
  | _ => True

/-- The user to whom the task assigns the user service. -/
def Broker.Task.assignee? (id : Uuid) : Task → Option Uuid
  | assign id' user _ => if id' = id then some user else none
  | _ => none

namespace Executor

namespace Event

/-- The event brings a user service only if it has a property. -/
def Brings (P : UserService → Prop) : Event → Prop
  | administer task => task.Brings P
  | _ => True

/-- The user to whom the event assigns the user service. -/
def assignee? (id : Uuid) : Event → Option Uuid
  | administer task => task.assignee? id
  | _ => none

end Event

variable {config : BrokerConfig} {cipher : Cipher} {issuer : Issuer} {s : State Broker TicketTable} {id : Uuid}
  {event : Event} {events : List Event} {u v : UserService} {user : Uuid}

/-! ## One event -/

/-- What an event can do about the level and the user of a user service. -/
inductive Placing (id : Uuid) (event : Event) (u : UserService) : UserService → Prop
  | left {v : UserService} (h : v.placement = u.placement) (hassignee : event.assignee? id = none) :
      Placing id event u v
  | moved (level : CacheLevel) (provider : Provider) (now : Instant) (hassignee : event.assignee? id = none) :
      Placing id event u (u.moveToLevel level provider now).service
  | assigned (user : Uuid) (now : Instant) (hassignee : event.assignee? id = some user) :
      Placing id event u (u.assignToUser user now)

theorem Placing.placed (h : Placing id event u v) (hu : u.Placed) : v.Placed := by
  cases h with
  | left hplacement => exact hu.of_placement hplacement
  | moved level provider now => exact hu.moveToLevel level provider now
  | assigned user now => exact (u.assignToUser_belongsTo user now).placed

/-- The service belongs to the user that the event assigns it to, or else to the one that it had. -/
theorem Placing.belongsTo (h : Placing id event u v) (hu : u.BelongsTo user) :
    v.BelongsTo ((event.assignee? id).getD user) := by
  cases h with
  | left hplacement hassignee =>
    rw [hassignee]
    exact hu.of_placement hplacement
  | moved level provider now hassignee =>
    rw [hassignee]
    exact hu.moveToLevel level provider now
  | assigned user' now hassignee =>
    rw [hassignee]
    exact u.assignToUser_belongsTo user' now

/-- A task that moves or assigns the user service. -/
theorem Placing.of_places {task : Broker.Task} {b : Broker} (h : task.Places id) (hu : b.userService? id = some u) :
    ∃ v, (task.perform b).userService? id = some v ∧ Placing id (.administer task) u v := by
  cases task with
  | moveToLevel id' level now =>
    obtain rfl : id' = id := h
    obtain ⟨entry, hentry, rfl⟩ := Option.map_eq_some_iff.mp hu
    refine ⟨_, ?_, .moved level entry.provider now rfl⟩
    change (Broker.attempt id' _ b).2.userService? id' = _
    rw [b.userService?_attempt_self, hentry]
    rfl
  | assign id' user now =>
    obtain rfl : id' = id := h
    refine ⟨_, ?_, .assigned user now (if_pos rfl)⟩
    change (Broker.withUserService id' _ b).2.userService? id' = _
    rw [b.userService?_withUserService, if_pos rfl, hu]
    rfl
  | _ => exact h.elim

theorem assignee?_of_not_places {task : Broker.Task} (h : ¬ task.Places id) : task.assignee? id = none := by
  cases task with
  | assign id' user now => exact if_neg h
  | _ => rfl

/-- All that an event can do about the level and the user of a service that it does not supplant. -/
theorem Event.happen_placing (hspares : event.SparesShown placement)
    (hs : s.backend.Hooks (OsManager.Spares placement)) (hkept : ¬ event.Supplants id s)
    (hu : s.backend.userService? id = some u) :
    ∃ v, (event.happen (inMemory config cipher issuer) s).backend.userService? id = some v ∧
      Placing id event u v := by
  have same {b : Broker} (hassignee : event.assignee? id = none)
      (h : (b.userService? id).map placement = (s.backend.userService? id).map placement) :
      ∃ v, b.userService? id = some v ∧ Placing id event u v := by
    rw [hu, Option.map_some] at h
    obtain ⟨v, hv, hplacement⟩ := Option.map_eq_some_iff.mp h
    exact ⟨v, hv, .left hplacement hassignee⟩
  cases event with
  | administer task =>
    by_cases hplaces : task.Places id
    · exact Placing.of_places hplaces hu
    · exact same (assignee?_of_not_places hplaces)
        (Broker.Task.perform_steady UserService.placement_steady hspares.2 hkept hplaces)
  | _ =>
    refine same rfl ((Event.happen_shows UserService.placement_steady ?_ ?_ (fun _ hm => hm) (by simp) hs).shown id)
    · exact fun _ _ _ => rfl
    · exact fun _ _ _ => rfl

/-- A user service that comes under an id is one that the event brings. -/
theorem Event.happen_supplanted (hbrings : event.Brings Placed) (hsupplants : event.Supplants id s)
    (hv : (event.happen (inMemory config cipher issuer) s).backend.userService? id = some v) : v.Placed := by
  cases event with
  | administer task =>
    cases task with
    | addUserService service provider now =>
      obtain ⟨-, hafter⟩ := Broker.addUserService_admitted hsupplants
      cases hafter.symm.trans hv
      exact hbrings
    | deleteUserService id' now =>
      have hafter := (s.backend.userService?_deleteUserService id' id now).trans (if_pos hsupplants)
      cases hafter.symm.trans hv
    | _ => exact hsupplants.elim
  | _ => exact hsupplants.elim

/-! ## Runs -/

/-- No OS manager touches the placement of user services, and those that have a user are on the level for users. -/
structure AllPlaced (s : State Broker TicketTable) : Prop where
  hooks : s.backend.Hooks (OsManager.Spares placement)
  placed : ∀ id u, s.backend.userService? id = some u → u.Placed

theorem AllPlaced.initial : AllPlaced .initial where
  hooks row hrow := absurd hrow List.not_mem_nil
  placed id u hu := by cases hu

theorem AllPlaced.happen (h : AllPlaced s) (hspares : event.SparesShown placement) (hbrings : event.Brings Placed) :
    AllPlaced (event.happen (inMemory config cipher issuer) s) where
  hooks := Event.happen_hooks hspares.hooks h.hooks
  placed id v hv := by
    by_cases hsupplants : event.Supplants id s
    · exact Event.happen_supplanted hbrings hsupplants hv
    · have hpresent : (s.backend.userService? id).isSome := by
        rw [← Event.happen_present hsupplants, hv]
        rfl
      obtain ⟨u, hu⟩ := Option.isSome_iff_exists.mp hpresent
      obtain ⟨w, hw, hplacing⟩ := Event.happen_placing hspares h.hooks hsupplants hu
      cases hw.symm.trans hv
      exact hplacing.placed (h.placed id u hu)

theorem AllPlaced.after (h : AllPlaced s)
    (hevents : ∀ event ∈ events, event.SparesShown placement ∧ event.Brings Placed) :
    AllPlaced ((inMemory config cipher issuer).after events s) := by
  induction events generalizing s with
  | nil => exact h
  | cons event rest ih =>
    obtain ⟨⟨hspares, hbrings⟩, hrest⟩ := List.forall_mem_cons.mp hevents
    exact ih (h.happen hspares hbrings) hrest

/-- After any number of events that do not supplant it, the service belongs to the last user that it was assigned
to. -/
theorem after_belongsTo (hs : s.backend.Hooks (OsManager.Spares placement))
    (hevents : ∀ event ∈ events, event.SparesShown placement)
    (hkept : Meets (inMemory config cipher issuer) (fun s event => ¬ event.Supplants id s) events s)
    (hu : s.backend.userService? id = some u) (hbelongs : u.BelongsTo user) :
    ∃ v, ((inMemory config cipher issuer).after events s).backend.userService? id = some v ∧
      v.BelongsTo ((events.filterMap (Event.assignee? id)).getLastD user) := by
  induction events generalizing s u user with
  | nil => exact ⟨u, hu, hbelongs⟩
  | cons event rest ih =>
    obtain ⟨hspares, hrest⟩ := List.forall_mem_cons.mp hevents
    obtain ⟨v, hv, hplacing⟩ := Event.happen_placing hspares hs hkept.1 hu
    obtain ⟨w, hw, hlast⟩ := ih (Event.happen_hooks hspares.hooks hs) hrest hkept.2 hv (hplacing.belongsTo hbelongs)
    refine ⟨w, hw, ?_⟩
    cases hassignee : event.assignee? id with
    | none =>
      rw [hassignee, Option.getD_none] at hlast
      rwa [List.filterMap_cons_none hassignee]
    | some user' =>
      rw [hassignee, Option.getD_some] at hlast
      rwa [List.filterMap_cons_some hassignee, List.getLastD_cons]

/-- User services come without a user or on the level for users, as new ones do, and no OS manager touches either.
Then, whatever happens, in any order and with any answers of the providers, a user service that has a user is on
the level for users. From there on it stays on that level and belongs to the user that it was assigned to last,
until it is deleted or another one is admitted under its id. -/
theorem users_keep_level {before later : List Event}
    (hbefore : ∀ event ∈ before, event.SparesShown placement ∧ event.Brings Placed)
    (hlater : ∀ event ∈ later, event.SparesShown placement) :
    let x := inMemory config cipher issuer
    let s := x.after before .initial
    (∀ id u, s.backend.userService? id = some u → u.user.isSome → u.cacheLevel = .assigned) ∧
      ∀ id u user, s.backend.userService? id = some u → u.user = some user →
        Meets x (fun s event => ¬ event.Supplants id s) later s →
          ∃ v, (x.after later s).backend.userService? id = some v ∧ v.cacheLevel = .assigned ∧
            v.user = some ((later.filterMap (Event.assignee? id)).getLastD user) := by
  intro x s
  have hs : AllPlaced s := AllPlaced.initial.after hbefore
  refine ⟨hs.placed, ?_⟩
  intro id u user hu huser hkept
  obtain ⟨v, hv, hbelongs⟩ := after_belongsTo hs.hooks hlater hkept hu ((hs.placed id u hu).belongsTo huser)
  exact ⟨v, hv, hbelongs.level, hbelongs.user⟩

/-- The provider fails at everything. A new service is moved within the cache and assigned, a move back to the
cache is refused, its preparation ends, and it is assigned to another user: the service is the other user's. -/
theorem users_keep_level_handed_over :
    let x := inMemory .standard TaggedXor.cipher trialIssuer
    let user : Uuid := ⟨List.replicate 32 1, rfl⟩
    let next : Uuid := ⟨List.replicate 32 2, rfl⟩
    let before := trialArrival OsPolicy.standard.manager ⟨true, fun _ => .failed "no space"⟩ ++
      [.administer (.moveToLevel .nil .l2 .epoch), .administer (.assign .nil user .epoch)]
    let later : List Event := [.administer (.moveToLevel .nil .l1 .epoch),
      .administer (.finishPreparation .nil .epoch), .administer (.assign .nil next .epoch)]
    let s := x.after before .initial
    (∀ event ∈ before, event.SparesShown placement ∧ event.Brings Placed) ∧
      (∀ event ∈ later, event.SparesShown placement) ∧
      Meets x (fun s event => ¬ event.Supplants .nil s) later s ∧
      ∃ v, (x.after later s).backend.userService? .nil = some v ∧ v.cacheLevel = .assigned ∧ v.user = some next := by
  intro x user next before later s
  have hmanager : OsPolicy.standard.manager.Spares placement :=
    OsPolicy.standard.manager_spares UserService.placement_steady.lasting
  have hbefore : ∀ event ∈ before, event.SparesShown placement ∧ event.Brings Placed := by
    simp [before, trialArrival, Event.SparesShown, Event.Brings, Broker.Task.Hooks, Broker.Task.Edits,
      Broker.Task.Brings, UserService.fresh_placed, hmanager]
  have hlater : ∀ event ∈ later, event.SparesShown placement := by
    simp [later, Event.SparesShown, Broker.Task.Hooks, Broker.Task.Edits]
  have hkept : Meets x (fun s event => ¬ event.Supplants .nil s) later s := by
    simp [later, Meets, Event.Supplants, Broker.Task.Supplants]
  obtain ⟨-, hbelongs⟩ := @users_keep_level .standard TaggedXor.cipher trialIssuer before later hbefore hlater
  obtain ⟨v, hv, hlevel, huser⟩ := hbelongs .nil _ user rfl rfl hkept
  refine ⟨hbefore, hlater, hkept, v, hv, hlevel, huser.trans ?_⟩
  simp [later, Event.assignee?, Broker.Task.assignee?]

end Executor

end SessionBroker
