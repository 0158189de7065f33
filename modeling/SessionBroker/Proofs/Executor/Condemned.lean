import SessionBroker.Crypto.Certificate
import SessionBroker.Crypto.TaggedXor
import SessionBroker.Proofs.Executor.Course

/-!
# Services on their way out

A user service that is to be removed, or is being removed or cancelled, is no longer open to actors. The end of
its preparation is the one event that opens it again: it does so in every state that is not final, unless the
removal was put off until then.
-/

namespace SessionBroker

/-- The removal or the cancellation of the service has begun and has not ended. -/
def ServiceState.isCondemned : ServiceState → Bool
  | .removable | .removing | .canceling => true
  | _ => false

theorem ServiceState.not_valid_of_condemned {state : ServiceState} (h : state.isCondemned) :
    state.isValid = false := by
  cases state with
  | removable | removing | canceling => rfl
  | _ => cases h

namespace UserService

variable {u v : UserService} (provider : Provider) (now : Instant)

theorem Visit.closed {γ : Type} {g : UserService → γ} (h : Visit g u v) (hu : u.state.isValid = false) :
    v.state.isValid = false := by
  cases h with
  | reported version properties => exact hu
  | attended valid h => exact absurd valid (by simp [hu])
  | released hopen now => rfl

theorem cancel_closed (hu : u.state.isValid = false) : (u.cancel provider now).service.state.isValid = false := by
  have hne : u.state ≠ .preparing := by
    intro h
    rw [h] at hu
    cases hu
  rw [cancel_eq, if_neg hne, remove_eq]
  split
  · exact TaskState.leads_closed _ rfl rfl
  · exact hu

theorem moveToLevel_closed (level : CacheLevel) (hu : u.state.isValid = false) :
    (u.moveToLevel level provider now).service.state.isValid = false := by
  rw [moveToLevel_eq]
  split
  · exact hu
  · change (u.movedState (provider.task (.move level))).isValid = false
    rcases u.movedState_cases (provider.task (.move level)) with h | ⟨husable, -⟩ | ⟨-, h⟩
    · rw [h]
      exact hu
    · rw [husable] at hu
      cases hu
    · rw [h]
      rfl

/-- The end of a preparation makes a service usable unless it is final or due for removal. -/
theorem finishPreparation_closed_iff (hu : u.state.isValid = false) :
    (u.finishPreparation provider now).service.state.isValid = false ↔
      u.state.isTerminal ∨ u.destroyAfter := by
  rw [finishPreparation_eq]
  split
  · next ht => simp [hu, ht]
  · next ht =>
    split
    · next hd => exact iff_of_true (TaskState.leads_closed _ rfl rfl) (.inr hd)
    · next hd => simp [ht, hd, inState, ServiceState.isValid]

end UserService

namespace Executor

variable {config : BrokerConfig} {cipher : Cipher} {issuer : Issuer} {s : State Broker TicketTable}
  {id : Uuid} {event : Event} {events : List Event} {u : UserService}

/-- The preparation of the user service ends, which is not final and not due for removal. -/
def Event.Revives (id : Uuid) (s : State Broker TicketTable) : Event → Prop
  | administer (.finishPreparation id' _) => id' = id ∧
    ∃ u, s.backend.userService? id = some u ∧ u.state.isTerminal = false ∧ u.destroyAfter = false
  | _ => False

/-- A service that is closed to actors is opened by no turn but the end of a preparation. -/
theorem Turn.closed {provider : Provider} {v : UserService} (h : Turn UserService.uuid id provider u event v)
    (hu : u.state.isValid = false)
    (hfinish : ∀ now, event = .administer (.finishPreparation id now) → u.state.isTerminal ∨ u.destroyAfter) :
    v.state.isValid = false := by
  cases h with
  | visited event h => exact h.keeps (P := fun w => w.state.isValid = false) (fun visit => visit.closed) hu
  | finished now => exact (UserService.finishPreparation_closed_iff provider now hu).mpr (hfinish now rfl)
  | moved level now => exact UserService.moveToLevel_closed provider now level hu
  | cancelled _ now => exact UserService.cancel_closed provider now hu
  | assigned user now => exact hu

/-- What a single event does to a service that is closed to actors. -/
theorem Event.happen_closed_iff (hs : s.backend.Sparing UserService.uuid)
    (hr : event.Regular UserService.uuid) (hkept : ¬ event.Replaces id)
    (hu : s.backend.userService? id = some u) (hclosed : u.state.isValid = false) :
    (∃ v, (event.happen (inMemory config cipher issuer) s).backend.userService? id = some v ∧
      v.state.isValid = false) ↔ ¬ event.Revives id s := by
  obtain ⟨entry, hentry, rfl⟩ := Option.map_eq_some_iff.mp hu
  constructor
  · rintro ⟨v, hv, hvclosed⟩ hrevives
    unfold Event.Revives at hrevives
    split at hrevives
    · next id' now =>
      obtain ⟨rfl, w, hw, ht, hd⟩ := hrevives
      cases hu.symm.trans hw
      have hafter := s.backend.userService?_attempt_self id' fun u provider => u.finishPreparation provider now
      rw [hentry] at hafter
      cases hafter.symm.trans hv
      have hspared := (UserService.finishPreparation_closed_iff entry.provider now hclosed).mp hvclosed
      simp [ht, hd] at hspared
    · exact hrevives
  · intro hnot
    obtain ⟨v, hv, hturn⟩ := Event.happen_turn UserService.uuid_outline hr hs hkept hentry
    refine ⟨v, hv, hturn.closed hclosed fun now hevent => Classical.byContradiction fun hspared => ?_⟩
    rw [not_or, Bool.not_eq_true, Bool.not_eq_true] at hspared
    subst hevent
    exact hnot ⟨rfl, entry.service, hu, hspared⟩

/-- Where no OS manager touches the ids of user services, a service on its way out stays closed to actors throughout
a run exactly if the run does not end its preparation before the service is final or due for removal. -/
theorem condemned_stays_iff (hs : Attainable (inMemory config cipher issuer) s)
    (hu : s.backend.userService? id = some u) (hcondemned : u.state.isCondemned)
    (hevents : ∀ event ∈ events, event.Regular UserService.uuid ∧ ¬ event.Replaces id) :
    Throughout (inMemory config cipher issuer)
        (fun t => ∃ v, t.backend.userService? id = some v ∧ v.state.isValid = false) events s ↔
      Meets (inMemory config cipher issuer) (fun t event => ¬ event.Revives id t) events s := by
  have hinv (t : State Broker TicketTable) (event : Event) (ht : t.backend.Sparing UserService.uuid)
      (h : event.Regular UserService.uuid ∧ ¬ event.Replaces id) :
      (event.happen (inMemory config cipher issuer) t).backend.Sparing UserService.uuid :=
    Event.happen_sparing UserService.uuid_outline h.1 ht
  have hclosed := ServiceState.not_valid_of_condemned hcondemned
  refine throughout_iff hinv ?_ hs.sparing ⟨u, hu, hclosed⟩ hevents
  rintro t event ht ⟨hr, hkept⟩ ⟨v, hv, hclosed⟩
  exact Event.happen_closed_iff ht hr hkept hv hclosed

/-- A service that is being cancelled and removed later on stays closed. -/
theorem condemned_stays_iff_cancelled :
    let x := inMemory .standard TaggedXor.cipher trialIssuer
    let s := x.after (trialArrival notingManager ⟨true, fun _ => .running⟩ ++
      [.administer (.cancel .nil .epoch)]) .initial
    let events : List Event := [.query (.release .nil) .epoch ⟨"", "", ""⟩,
      .administer (.removeOrCancel .nil .epoch)]
    Attainable x s ∧ (∃ u, s.backend.userService? .nil = some u ∧ u.state.isCondemned) ∧
      (∀ event ∈ events, event.Regular UserService.uuid ∧ ¬ event.Replaces .nil) ∧
      Throughout x (fun t => ∃ v, t.backend.userService? .nil = some v ∧ v.state.isValid = false) events s := by
  intro x s events
  have hregular : ∀ event ∈ events, event.Regular UserService.uuid ∧ ¬ event.Replaces .nil := by
    simp [events, Event.Regular, Event.Replaces, Broker.Task.Regular, Broker.Task.Replaces]
  have hs : Attainable x s := by
    refine .arrival (notingManager_spares UserService.uuid_outline) _ ?_
    simp [Event.SparesShown, Broker.Task.Hooks, Broker.Task.Edits]
  have hu : ∃ u, s.backend.userService? .nil = some u ∧ u.state.isCondemned := ⟨_, rfl, rfl⟩
  obtain ⟨u, hu, hcondemned⟩ := hu
  have hmeets : Meets x (fun t event => ¬ event.Revives .nil t) events s :=
    ⟨fun h => h, fun h => h, trivial⟩
  exact ⟨hs, ⟨u, hu, hcondemned⟩, hregular,
    (condemned_stays_iff hs hu hcondemned hregular).mpr hmeets⟩

/-- A service that was being cancelled becomes usable when its preparation ends. -/
theorem condemned_revived :
    let x := inMemory .standard TaggedXor.cipher trialIssuer
    let cancelled := trialArrival notingManager ⟨true, fun _ => .running⟩ ++ [.administer (.cancel .nil .epoch)]
    let finish : Event := .administer (.finishPreparation .nil .epoch)
    (∀ event ∈ cancelled, event.Regular UserService.uuid) ∧ finish.Regular UserService.uuid ∧ ¬ finish.Replaces .nil ∧
      ((x.after cancelled .initial).backend.userService? .nil).map (·.state) = some .canceling ∧
      ((finish.happen x (x.after cancelled .initial)).backend.userService? .nil).map (·.state) =
        some .usable := by
  intro x cancelled finish
  have hregular : ∀ event ∈ cancelled, event.Regular UserService.uuid := by
    refine List.forall_mem_append.mpr ⟨trialArrival_regular UserService.uuid_outline _, ?_⟩
    simp [Event.Regular, Broker.Task.Regular]
  exact ⟨hregular, trivial, fun h => h, rfl, rfl⟩

end Executor

end SessionBroker
