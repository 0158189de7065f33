import SessionBroker.Proofs.Executor.Course

/-!
# When services broke down

A user service goes into the error state by a task of the administration, and stays in it until it is released,
finished or deleted. The log kept here along a run says of each service that is in the error state when it went
there and when it has last been assigned since. The record of a service has one date only, which is the later of
the two: `Logged` is what the log and the records have to do with each other, and every event keeps it.
-/

namespace SessionBroker

namespace UserService

variable (u : UserService) {v : UserService} (provider : Provider) (now : Instant)

/-- A service that has come into the error state is dated by it, and one that was there keeps its date. -/
def Fails (v : UserService) : Prop :=
  v.state = .error → v.stateDate = if u.state = .error then u.stateDate else now

theorem fails_self : u.Fails now u := fun h => (if_pos h).symm

theorem moveToLevel_fails (level : CacheLevel) : u.Fails now (u.moveToLevel level provider now).service := by
  rw [moveToLevel_eq]
  split
  · exact u.fails_self now
  · intro herror
    have herror : u.movedState (provider.task (.move level)) = .error := herror
    change (if u.movedState (provider.task (.move level)) = u.state then u.stateDate else now) = _
    rw [herror]
    simp only [eq_comm]

theorem remove_fails : u.Fails now (u.remove provider now).service := by
  rw [remove_eq]
  split
  · next h =>
    intro _
    have hne : u.state ≠ .error := by rcases h with h | h <;> rw [h] <;> decide
    exact (if_neg hne).symm
  · exact u.fails_self now

theorem cancel_fails : u.Fails now (u.cancel provider now).service := by
  rw [cancel_eq]
  split
  · next h =>
    have hne : u.state ≠ .error := by rw [h]; decide
    split
    · exact fun _ => (if_neg hne).symm
    · exact fun herror => absurd herror hne
  · exact u.remove_fails provider now

/-- The end of a preparation takes a service out of the error state, so one that is in it has come there anew. -/
theorem finishPreparation_date (h : (u.finishPreparation provider now).service.state = .error) :
    (u.finishPreparation provider now).service.stateDate = now := by
  rw [finishPreparation_eq] at h ⊢
  split
  · next hterminal =>
    rw [if_pos hterminal] at h
    rw [show u.state = .error from h] at hterminal
    cases hterminal
  · next hterminal =>
    rw [if_neg hterminal] at h
    split
    · rfl
    · next hdestroy =>
      rw [if_neg hdestroy] at h
      cases h

/-- Actors do not put a service into the error state, and do not date one that is in it. -/
theorem Visits.error {u : UserService} (h : Visits standing u v) (hv : v.state = .error) :
    u.state = .error ∧ v.stateDate = u.stateDate := by
  refine h.keeps (P := fun w => w.state = .error → u.state = .error ∧ w.stateDate = u.stateDate) ?_
    (fun h => ⟨h, rfl⟩) hv
  intro v w visit hu hw
  cases visit with
  | reported version properties => exact hu hw
  | attended valid h =>
    have hstate : w.state = v.state := congrArg Prod.snd h
    rw [← hstate, hw] at valid
    cases valid
  | released hopen now => cases hw

end UserService

namespace Broker

/-- The user service is there and in the error state. -/
def inError (b : Broker) (id : Uuid) : Bool := (b.userService? id).any (·.state = .error)

theorem inError_iff {b : Broker} {id : Uuid} :
    b.inError id = true ↔ ∃ u, b.userService? id = some u ∧ u.state = .error := by
  unfold inError
  cases b.userService? id <;> simp

/-- When a task takes place. -/
def Task.instant? : Task → Option Instant
  | addUserService _ _ now | finishPreparation _ now | moveToLevel _ _ now | cancel _ now
  | removeOrCancel _ now | assign _ _ now | deleteUserService _ now => some now
  | _ => none

end Broker

namespace Executor

open UserService (Visits standing)

namespace Event

/-- When the administration is at work. Nothing else puts a service into the error state. -/
def instant? : Event → Option Instant
  | administer task => task.instant?
  | _ => none

/-- The event is the end of the preparation of a service. -/
def finishes (id : Uuid) : Event → Bool
  | administer (.finishPreparation id' _) => id' = id
  | _ => false

/-- When a service is assigned by the event. -/
def assignment? (id : Uuid) : Event → Option Instant
  | administer (.assign id' _ now) => if id' = id then some now else none
  | _ => none

theorem instant?_of_assignment? {event : Event} {id : Uuid} {now : Instant}
    (h : event.assignment? id = some now) : event.instant? = some now := by
  unfold assignment? at h
  split at h
  · split at h
    · exact h
    · cases h
  · cases h

end Event

/-! ## One event -/

/-- How a service comes to be in the error state after an event. -/
inductive Erring (b : Broker) (event : Event) (id : Uuid) (v : UserService) : Prop
  | stayed {u} (hu : b.userService? id = some u) (herror : u.state = .error)
      (hfinishes : event.finishes id = false) (hassignment : event.assignment? id = none)
      (hdate : v.stateDate = u.stateDate)
  | failed (hnew : b.inError id = false ∨ event.finishes id = true)
      (hinstant : event.instant? = some v.stateDate)
  | assigned {u} (hu : b.userService? id = some u) (herror : u.state = .error)
      (hfinishes : event.finishes id = false) (hassignment : event.assignment? id = some v.stateDate)

namespace Erring

variable {b : Broker} {event : Event} {id : Uuid} {u v : UserService}

theorem of_visits (hu : b.userService? id = some u) (h : Visits standing u v) (hv : v.state = .error)
    (hfinishes : event.finishes id = false) (hassignment : event.assignment? id = none) :
    Erring b event id v := by
  obtain ⟨herror, hdate⟩ := h.error hv
  exact .stayed hu herror hfinishes hassignment hdate

theorem of_fails {now : Instant} (hu : b.userService? id = some u) (h : u.Fails now v) (hv : v.state = .error)
    (hinstant : event.instant? = some now) (hfinishes : event.finishes id = false)
    (hassignment : event.assignment? id = none) : Erring b event id v := by
  have hdate := h hv
  by_cases herror : u.state = .error
  · rw [if_pos herror] at hdate
    exact .stayed hu herror hfinishes hassignment hdate
  · rw [if_neg herror] at hdate
    have hnew : b.inError id = false := by simp [Broker.inError, hu, herror]
    exact .failed (.inl hnew) (hdate ▸ hinstant)

/-- An operation of a service's life, by what it leaves. -/
theorem of_attempt {id' : Uuid} {f : UserService → Provider → Attempt} {now : Instant}
    (h : ∀ (u : UserService) provider, u.Fails now (f u provider).service)
    (hafter : (Broker.attempt id' f b).2.userService? id = some v) (hv : v.state = .error)
    (hinstant : event.instant? = some now) (hfinishes : event.finishes id = false)
    (hassignment : event.assignment? id = none) : Erring b event id v := by
  rw [Broker.userService?_attempt] at hafter
  split at hafter
  · next hid =>
    subst hid
    obtain ⟨entry, hentry, rfl⟩ := Option.map_eq_some_iff.mp hafter
    have hfails := h entry.service entry.provider
    exact of_fails (Broker.userService?_of_get? hentry) hfails hv hinstant hfinishes hassignment
  · exact of_visits hafter .refl hv hfinishes hassignment

end Erring

variable {config : BrokerConfig} {cipher : Cipher} {issuer : Issuer} {s : State Broker TicketTable}

/-- All the ways in which an event can leave a service in the error state. -/
theorem Event.happen_erring {event : Event} {id : Uuid} {v : UserService}
    (hr : event.Regular standing) (hs : s.backend.Sparing standing)
    (hafter : (event.happen (inMemory config cipher issuer) s).backend.userService? id = some v)
    (hv : v.state = .error) : Erring s.backend event id v := by
  have hfate : Fate standing id event (s.backend.userServices.get? id)
      ((event.happen (inMemory config cipher issuer) s).backend.userService? id) :=
    Event.happen_fate UserService.standing_outline hr hs id
  rw [hafter] at hfate
  -- what no operation on a user service has a part in leaves it by visits
  have stayed (hfinishes : event.finishes id = false) (hassignment : event.assignment? id = none)
      (hvisits : ∀ entry : UserServiceEntry, Turn standing id entry.provider entry.service event v →
        Visits standing entry.service v) :
      Erring s.backend event id v := by
    generalize hentry : s.backend.userServices.get? id = entry at hfate
    cases hfate with
    | admitted => cases hv
    | @turned entry _ hturn =>
      exact .of_visits (Broker.userService?_of_get? hentry) (hvisits entry hturn) hv hfinishes hassignment
  cases event with
  | administer task =>
    cases task with
    | finishPreparation id' now =>
      change (Broker.attempt id' _ s.backend).2.userService? id = some v at hafter
      rw [Broker.userService?_attempt] at hafter
      split at hafter
      · next hid =>
        obtain ⟨entry, -, rfl⟩ := Option.map_eq_some_iff.mp hafter
        refine .failed (.inr (decide_eq_true hid)) ?_
        exact congrArg some (entry.service.finishPreparation_date entry.provider now hv).symm
      · next hid => exact .of_visits hafter .refl hv (decide_eq_false hid) rfl
    | moveToLevel id' level now =>
      exact .of_attempt (fun u provider => u.moveToLevel_fails provider now level) hafter hv rfl rfl rfl
    | cancel id' now => exact .of_attempt (fun u provider => u.cancel_fails provider now) hafter hv rfl rfl rfl
    | removeOrCancel id' now =>
      refine .of_attempt (fun u provider => ?_) hafter hv rfl rfl rfl
      rw [UserService.removeOrCancel_eq]
      exact u.cancel_fails provider now
    | assign id' user now =>
      change (Broker.withUserService id' _ s.backend).2.userService? id = some v at hafter
      rw [Broker.userService?_withUserService] at hafter
      split at hafter
      · next hid =>
        subst hid
        obtain ⟨u, hu, rfl⟩ := Option.map_eq_some_iff.mp hafter
        exact .assigned hu hv rfl (if_pos rfl)
      · next hid => exact .of_visits hafter .refl hv rfl (if_neg hid)
    | edit id' change => exact hr.elim
    | _ =>
      refine stayed rfl rfl fun entry hturn => ?_
      cases hturn with
      | visited _ h => exact h
      | cancelled h => exact h.elim
  | _ =>
    refine stayed rfl rfl fun entry hturn => ?_
    cases hturn with
    | visited _ h => exact h
    | cancelled h => exact h.elim

/-! ## The log of a run -/

/-- When a service went into the error state, and when it was last assigned since. -/
structure Breakdown where
  failed : Instant
  assigned : Option Instant

/-- The date that the record of the service bears. -/
def Breakdown.date (r : Breakdown) : Instant := r.assigned.getD r.failed

/-- What is in the log about a service after an event. -/
def Event.logged (x : Executor Broker TicketTable) (s : State Broker TicketTable) (event : Event) (id : Uuid)
    (entry : Option Breakdown) : Option Breakdown :=
  if (event.happen x s).backend.inError id then
    -- a preparation that ends has taken the service out of the error state before it failed again
    if s.backend.inError id && !event.finishes id then
      match event.assignment? id with
      | some now => entry.map ({ · with assigned := some now })
      | none => entry
    else event.instant?.map (⟨·, none⟩)
  else none

/-- The log after a run. -/
def breakdowns (x : Executor Broker TicketTable) :
    List Event → State Broker TicketTable → (Uuid → Option Breakdown) → Uuid → Option Breakdown
  | [], _, log => log
  | event :: rest, s, log => breakdowns x rest (event.happen x s) fun id => event.logged x s id (log id)

/-- The log has an entry for each service in the error state, which gives the date of its record. Of the failure and
the assignment the assignment is the later one, and both lie before all that is still to come. -/
def Logged (b : Broker) (log : Uuid → Option Breakdown) (later : List Instant) : Prop :=
  ∀ id u, b.userService? id = some u → u.state = .error →
    ∃ r, log id = some r ∧ r.date = u.stateDate ∧ r.failed ≤ r.date ∧ ∀ now ∈ later, r.date ≤ now

theorem Event.happen_logged {event : Event} {log : Uuid → Option Breakdown} {later : List Instant}
    (hr : event.Regular standing) (hs : s.backend.Sparing standing)
    (hordered : (event.instant?.toList ++ later).Pairwise (· ≤ ·))
    (h : Logged s.backend log (event.instant?.toList ++ later)) :
    let x := inMemory config cipher issuer
    Logged (event.happen x s).backend (fun id => event.logged x s id (log id)) later := by
  intro x id v hafter hv
  have hin : (event.happen x s).backend.inError id = true := Broker.inError_iff.mpr ⟨v, hafter, hv⟩
  -- what takes place by the event lies before all that follows it
  have hlater (now : Instant) (hinstant : event.instant? = some now) : ∀ then' ∈ later, now ≤ then' := by
    rw [hinstant] at hordered
    exact (List.pairwise_cons.mp hordered).1
  unfold logged
  dsimp only
  rw [if_pos hin]
  cases event.happen_erring hr hs hafter hv with
  | @stayed u hu herror hfinishes hassignment hdate =>
    have hwas : s.backend.inError id = true := Broker.inError_iff.mpr ⟨u, hu, herror⟩
    obtain ⟨r, hlog, hr, hfailed, hrest⟩ := h id u hu herror
    rw [hwas, hfinishes, hassignment]
    exact ⟨r, hlog, hr.trans hdate.symm, hfailed, fun now hnow => hrest now (List.mem_append_right _ hnow)⟩
  | failed hnew hinstant =>
    have hnew : ¬ (s.backend.inError id && !event.finishes id) = true := by
      rcases hnew with hnew | hnew <;> simp [hnew]
    rw [if_neg hnew, hinstant]
    exact ⟨⟨v.stateDate, none⟩, rfl, rfl, Int.le_refl _, hlater _ hinstant⟩
  | @assigned u hu herror hfinishes hassignment =>
    have hwas : s.backend.inError id = true := Broker.inError_iff.mpr ⟨u, hu, herror⟩
    have hinstant := instant?_of_assignment? hassignment
    obtain ⟨r, hlog, hr, hfailed, hrest⟩ := h id u hu herror
    have hnow : v.stateDate ∈ event.instant?.toList ++ later := by simp [hinstant]
    rw [hwas, hfinishes, hassignment, hlog]
    exact ⟨⟨r.failed, some v.stateDate⟩, rfl, rfl, Int.le_trans hfailed (hrest _ hnow), hlater _ hinstant⟩

theorem after_logged {events : List Event} {log : Uuid → Option Breakdown} {later : List Instant}
    (hregular : ∀ event ∈ events, event.Regular standing) (hs : s.backend.Sparing standing)
    (hordered : (events.filterMap Event.instant? ++ later).Pairwise (· ≤ ·))
    (h : Logged s.backend log (events.filterMap Event.instant? ++ later)) :
    let x := inMemory config cipher issuer
    (x.after events s).backend.Sparing standing ∧
      Logged (x.after events s).backend (x.breakdowns events s log) later := by
  intro x
  induction events generalizing s log with
  | nil => exact ⟨hs, h⟩
  | cons event rest ih =>
    obtain ⟨hfirst, hrest⟩ := List.forall_mem_cons.mp hregular
    have hsplit : (event :: rest).filterMap Event.instant? ++ later =
        event.instant?.toList ++ (rest.filterMap Event.instant? ++ later) := by
      rw [List.filterMap_cons, ← List.append_assoc]
      cases event.instant? <;> rfl
    rw [hsplit] at hordered h
    have hsparing : (event.happen x s).backend.Sparing standing :=
      Event.happen_sparing UserService.standing_outline hfirst hs
    exact ih hrest hsparing (List.pairwise_append.mp hordered).2.1 (event.happen_logged hfirst hs hordered h)

end Executor

end SessionBroker
