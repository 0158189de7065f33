import SessionBroker.Crypto.Certificate
import SessionBroker.Crypto.TaggedXor
import SessionBroker.Proofs.Executor.Course

/-!
# Cancelled services

A cancellation takes effect at once, or it is put off until the preparation of the service has ended. One that
is put off is not lost: `deferred_cancellation_kept`. One that takes effect leaves a service that is in use in
use, and nothing else has a service end in use: `ending_unused_iff`.
-/

namespace SessionBroker

/-- The removal or the cancellation of the service was ordered, if it did not fail. -/
def ServiceState.isEnding : ServiceState → Bool
  | .removing | .removed | .canceling | .canceled => true
  | _ => false

/-- The provider takes the order to end a preparation. -/
def Provider.cancels (provider : Provider) : Bool :=
  provider.supportsCancel && (provider.task .cancel).error?.isNone

namespace UserService

/-- The service is not in use any more once its end was ordered. -/
def EndsUnused (u : UserService) : Prop := u.state.isEnding → u.inUse = false

/-- The service is not usable as long as a cancellation is put off. -/
def HeldBack (u : UserService) : Prop := u.state = .usable → u.destroyAfter = false

variable {u v : UserService} {provider : Provider} (now : Instant)

/-! ## Use at the end -/

theorem EndsUnused.of_unused (h : u.inUse = false) : u.EndsUnused := fun _ => h

theorem EndsUnused.of_not_ending (h : u.state.isEnding = false) : u.EndsUnused :=
  fun hending => absurd hending (by simp [h])

theorem EndsUnused.of_valid (h : u.state.isValid) : u.EndsUnused := by
  refine .of_not_ending ?_
  cases hs : u.state with
  | usable | preparing => rfl
  | _ =>
    rw [hs] at h
    cases h

theorem Visit.endsUnused (h : Visit standing u v) (hu : u.EndsUnused) : v.EndsUnused := by
  cases h with
  | reported version properties => exact hu
  | attended valid h =>
    have hstate : v.state = u.state := congrArg Prod.snd h
    exact .of_valid (hstate ▸ valid)
  | released hopen now => exact .of_not_ending rfl

theorem EndsUnused.remove (h : u.EndsUnused) : (u.remove provider now).service.EndsUnused := by
  rw [remove_eq]
  split
  · exact .of_unused rfl
  · exact h

theorem EndsUnused.finishPreparation (h : u.EndsUnused) :
    (u.finishPreparation provider now).service.EndsUnused := by
  rw [finishPreparation_eq]
  split
  · exact h
  · split
    · exact .of_unused rfl
    · exact .of_not_ending rfl

theorem EndsUnused.moveToLevel (h : u.EndsUnused) (level : CacheLevel) :
    (u.moveToLevel level provider now).service.EndsUnused := by
  rw [moveToLevel_eq]
  split
  · exact h
  · change (u.movedState (provider.task (.move level))).isEnding → u.inUse = false
    rcases u.movedState_cases (provider.task (.move level)) with hm | ⟨-, hm⟩ | ⟨-, hm⟩ <;> rw [hm]
    · exact h
    · intro hending
      cases hending
    · intro hending
      cases hending

/-- A cancellation that takes effect at once does not end the use of the service. -/
theorem EndsUnused.cancel_iff (h : u.EndsUnused) :
    (u.cancel provider now).service.EndsUnused ↔
      ¬ (u.state = .preparing ∧ u.inUse ∧ provider.cancels) := by
  rw [cancel_eq]
  by_cases hp : u.state = .preparing
  · unfold Provider.cancels
    cases hs : provider.supportsCancel with
    | false => simp [hp, EndsUnused, ServiceState.isEnding]
    | true =>
      cases ht : provider.task .cancel <;>
        simp [hp, EndsUnused, cancelled, TaskState.leads, TaskState.error?, ServiceState.isEnding]
  · rw [if_neg hp]
    exact iff_of_true (h.remove now) (fun hstranded => hp hstranded.1)

/-! ## Cancellations put off -/

theorem HeldBack.of_closed (h : u.state.isValid = false) : u.HeldBack := by
  intro husable
  rw [husable] at h
  cases h

theorem Visit.heldBack (h : Visit outlook u v) (hu : u.HeldBack) : v.HeldBack := by
  cases h with
  | reported version properties => exact hu
  | attended valid h =>
    obtain ⟨hstate, hdestroy⟩ := Prod.ext_iff.mp (congrArg Prod.snd h)
    exact fun husable => hdestroy.trans (hu (hstate.symm.trans husable))
  | released hopen now => exact .of_closed rfl

theorem HeldBack.cancel (h : u.HeldBack) : (u.cancel provider now).service.HeldBack := by
  rw [cancel_eq]
  split
  · next hp =>
    split
    · exact .of_closed (TaskState.leads_closed _ rfl rfl)
    · intro husable
      cases hp.symm.trans husable
  · rw [remove_eq]
    split
    · exact .of_closed (TaskState.leads_closed _ rfl rfl)
    · exact h

theorem HeldBack.finishPreparation (h : u.HeldBack) : (u.finishPreparation provider now).service.HeldBack := by
  rw [finishPreparation_eq]
  split
  · exact h
  · split
    · exact .of_closed (TaskState.leads_closed _ rfl rfl)
    · next hd => exact fun _ => Bool.eq_false_iff.mpr hd

theorem HeldBack.moveToLevel (h : u.HeldBack) (level : CacheLevel) :
    (u.moveToLevel level provider now).service.HeldBack := by
  rw [moveToLevel_eq]
  split
  · exact h
  · change u.movedState (provider.task (.move level)) = .usable → u.destroyAfter = false
    rcases u.movedState_cases (provider.task (.move level)) with hm | ⟨-, hm⟩ | ⟨-, hm⟩ <;> rw [hm]
    · exact h
    · intro husable
      cases husable
    · intro husable
      cases husable

end UserService

/-- The end of a preparation carries out the cancellation that was put off until then: the provider is told
to destroy the service, once, and how far it has come decides the state. -/
theorem Broker.finishPreparation_deferred {b : Broker} {id : Uuid} {entry : UserServiceEntry}
    (hentry : b.userServices.get? id = some entry) (ht : entry.service.state.isTerminal = false)
    (hd : entry.service.destroyAfter = true) (now : Instant) :
    let b' := (Broker.finishPreparation id now b).2
    b'.journal = b.journal ++ [.provider id .destroy] ∧ ∃ v, b'.userService? id = some v ∧
      v.destroyAfter = false ∧ v.inUse = false ∧
      (v.state = .removing ∨ v.state = .removed ∨ v.state = .error) := by
  have heq := UserService.finishPreparation_eq entry.service entry.provider now
  rw [if_neg (by simp [ht]), if_pos hd] at heq
  have hafter := b.userService?_attempt_self id fun u provider => u.finishPreparation provider now
  rw [hentry] at hafter
  dsimp only
  unfold finishPreparation
  constructor
  · rw [attempt_eq, hentry]
    dsimp only
    rw [heq]
    rfl
  · refine ⟨_, hafter, ?_⟩
    dsimp only
    rw [heq]
    exact ⟨rfl, rfl, TaskState.leads_cases _ .removing .removed⟩

namespace Executor

open UserService (outlook standing)

variable {config : BrokerConfig} {cipher : Cipher} {issuer : Issuer} {s : State Broker TicketTable}
  {id : Uuid} {event : Event} {events : List Event} {u : UserService}

/-- The event has a user service cancelled while it is in preparation and in use. -/
def Event.Strands (s : State Broker TicketTable) (event : Event) : Prop :=
  ∃ id entry, event.Cancels id ∧ s.backend.userServices.get? id = some entry ∧
    entry.service.state = .preparing ∧ entry.service.inUse ∧ entry.provider.cancels

theorem Event.happen_cancels (h : event.Cancels id) (x : Executor Broker TicketTable)
    (s : State Broker TicketTable) : ∃ now, (event.happen x s).backend.userService? id =
      (s.backend.userServices.get? id).map fun entry => (entry.service.cancel entry.provider now).service := by
  cases event with
  | administer task =>
    cases task with
    | cancel id' now =>
      cases (show id' = id from h)
      exact ⟨now, s.backend.userService?_attempt_self id fun u provider => u.cancel provider now⟩
    | removeOrCancel id' now =>
      cases (show id' = id from h)
      have hafter := s.backend.userService?_attempt_self id fun u provider => u.removeOrCancel provider now
      refine ⟨now, hafter.trans ?_⟩
      simp only [UserService.removeOrCancel_eq]
    | _ => exact h.elim
  | _ => exact h.elim

theorem Turn.endsUnused {entry : UserServiceEntry} {v : UserService}
    (h : Turn standing id entry.provider entry.service event v) (hu : entry.service.EndsUnused)
    (hcancel : event.Cancels id →
      ¬ (entry.service.state = .preparing ∧ entry.service.inUse ∧ entry.provider.cancels)) : v.EndsUnused := by
  cases h with
  | visited event h => exact h.keeps (P := UserService.EndsUnused) (fun visit => visit.endsUnused) hu
  | finished now => exact hu.finishPreparation now
  | moved level now => exact hu.moveToLevel now level
  | cancelled h now => exact (hu.cancel_iff now).mpr (hcancel h)
  | assigned user now => exact hu

/-- What a single event does where no service has ended in use. -/
theorem Event.happen_endsUnused_iff (hs : s.backend.Sparing standing) (hr : event.Regular standing)
    (hunused : ∀ id u, s.backend.userService? id = some u → u.EndsUnused) :
    (∀ id u, (event.happen (inMemory config cipher issuer) s).backend.userService? id = some u →
      u.EndsUnused) ↔ ¬ event.Strands s := by
  have hentries (id : Uuid) (entry : UserServiceEntry) (he : s.backend.userServices.get? id = some entry) :
      entry.service.EndsUnused := hunused id entry.service (Broker.userService?_of_get? he)
  constructor
  · rintro hafter ⟨id, entry, hcancels, he, hstrands⟩
    obtain ⟨now, heq⟩ := Event.happen_cancels hcancels (inMemory config cipher issuer) s
    rw [he] at heq
    exact ((hentries id entry he).cancel_iff now).mp (hafter id _ heq) hstrands
  · intro hnot id
    refine (Event.happen_fate UserService.standing_outline hr hs id).keeps (fun _ _ _ _ _ => .of_unused rfl) ?_
      (hentries id)
    intro entry v he h hu
    exact h.endsUnused hu fun hcancels hstrands => hnot ⟨id, entry, hcancels, he, hstrands⟩

theorem Turn.heldBack {provider : Provider} {v : UserService} (h : Turn outlook id provider u event v)
    (hu : u.HeldBack) : v.HeldBack := by
  cases h with
  | visited event h => exact h.keeps (P := UserService.HeldBack) (fun visit => visit.heldBack) hu
  | finished now => exact hu.finishPreparation now
  | moved level now => exact hu.moveToLevel now level
  | cancelled h now => exact hu.cancel now
  | assigned user now => exact hu

/-- Where no OS manager touches the ids or the states of user services, no service ends in use throughout a run
exactly if the run has no service cancelled while it is in preparation and in use. -/
theorem ending_unused_iff (hevents : ∀ event ∈ events, event.Regular standing) :
    Throughout (inMemory config cipher issuer)
        (fun t => ∀ id u, t.backend.userService? id = some u → u.state.isEnding → u.inUse = false) events .initial ↔
      Meets (inMemory config cipher issuer) (fun t event => ¬ event.Strands t) events .initial :=
  throughout_iff (I := fun t => t.backend.Sparing standing)
    (fun _ _ ht h => Event.happen_sparing UserService.standing_outline h ht)
    (fun _ _ ht h hunused => Event.happen_endsUnused_iff ht h hunused) (.empty standing)
    (fun id u hu => by cases hu) hevents

/-- A cancellation of a service that nobody uses keeps the rule. -/
theorem ending_unused_iff_cancelled :
    let x := inMemory .standard TaggedXor.cipher trialIssuer
    let events := trialArrival notingManager ⟨true, fun _ => .finished⟩ ++ [.administer (.cancel .nil .epoch)]
    (∀ event ∈ events, event.Regular standing) ∧
      ((x.after events .initial).backend.userService? .nil).map (·.state) = some .canceled ∧
      Throughout x (fun t => ∀ id u, t.backend.userService? id = some u → u.state.isEnding → u.inUse = false)
        events .initial := by
  intro x events
  have hregular : ∀ event ∈ events, event.Regular standing := by
    refine List.forall_mem_append.mpr ⟨trialArrival_regular UserService.standing_outline _, ?_⟩
    simp [Event.Regular, Broker.Task.Regular]
  have hmeets : Meets x (fun t event => ¬ event.Strands t) events .initial := by
    refine ⟨fun ⟨_, _, h, _⟩ => h, fun ⟨_, _, h, _⟩ => h, ?_, trivial⟩
    rintro ⟨id, entry, hcancels, hentry, -, hinUse, -⟩
    cases (show Uuid.nil = id from hcancels)
    cases hentry
    cases hinUse
  exact ⟨hregular, rfl, (ending_unused_iff hregular).mpr hmeets⟩

/-- A user logs on to a service in preparation. When the preparation has been cancelled, the service is
still in use. -/
theorem cancelled_in_use :
    let x := inMemory .standard TaggedXor.cipher trialIssuer
    let login : Event := .call (.action ⟨.epoch, "10.1.1.1", none⟩ ⟨"", "session", ""⟩ .login (.obj
      [("id", .arr []), ("session_type", .str "local"), ("token", .str Uuid.nil.text),
        ("type", .str "managed"), ("username", .str "ann")]))
    let events := trialArrival notingManager ⟨true, fun _ => .finished⟩ ++ [login, .administer (.cancel .nil .epoch)]
    (∀ event ∈ events, event.Regular standing) ∧
      ((x.after events .initial).backend.userService? .nil).map (fun u => (u.state, u.inUse)) =
        some (.canceled, true) := by
  intro x login events
  have hregular : ∀ event ∈ events, event.Regular standing := by
    refine List.forall_mem_append.mpr ⟨trialArrival_regular UserService.standing_outline _, ?_⟩
    simp [login, Event.Regular, Broker.Task.Regular]
  exact ⟨hregular, by decide +kernel⟩

/-- Where no OS manager touches the ids, the states or the marks for removal of user services, a cancellation that
was put off is not lost. As long as it is put off the service does not become usable, and the end of its preparation
has the provider destroy it. -/
theorem deferred_cancellation_kept (hevents : ∀ event ∈ events, event.Regular outlook) :
    Throughout (inMemory config cipher issuer) (fun t =>
      (∀ id u, t.backend.userService? id = some u → u.state = .usable → u.destroyAfter = false) ∧
      ∀ id entry now, t.backend.userServices.get? id = some entry → entry.service.state.isTerminal = false →
        entry.service.destroyAfter →
        let b := (Broker.finishPreparation id now t.backend).2
        b.journal = t.backend.journal ++ [.provider id .destroy] ∧ ∃ v, b.userService? id = some v ∧
          v.destroyAfter = false ∧ v.inUse = false ∧
          (v.state = .removing ∨ v.state = .removed ∨ v.state = .error)) events .initial := by
  have hheld : Throughout (inMemory config cipher issuer)
      (fun t => ∀ id u, t.backend.userService? id = some u → u.HeldBack) events .initial := by
    refine throughout_of_keeps (I := fun t => t.backend.Sparing outlook)
      (fun _ _ ht h => Event.happen_sparing UserService.outlook_outline h ht) ?_ (.empty outlook)
      (fun id u hu => by cases hu) hevents
    intro t event ht hr hheld id
    have hentries (entry : UserServiceEntry) (he : t.backend.userServices.get? id = some entry) :
        entry.service.HeldBack := hheld id entry.service (by simp [Broker.userService?, he])
    refine (Event.happen_fate UserService.outlook_outline hr ht id).keeps (fun _ _ _ _ _ _ => rfl) ?_ hentries
    intro entry v _ h
    exact h.heldBack
  exact hheld.mono fun t ht => ⟨ht, fun id entry now he hstate hd =>
    Broker.finishPreparation_deferred he hstate hd now⟩

/-- A user has logged on to a service in preparation. Its cancellation is put off until the preparation ends. -/
theorem deferred_cancellation_kept_once :
    let x := inMemory .standard TaggedXor.cipher trialIssuer
    let events := trialArrival notingManager ⟨false, fun _ => .finished⟩ ++
      [.call (trialLogin "ann"), .administer (.cancel .nil .epoch)]
    let s := x.after events .initial
    let b := (Broker.finishPreparation .nil .epoch s.backend).2
    (∀ event ∈ events, event.Regular outlook) ∧
      (s.backend.userService? .nil).map (fun u => (u.state, u.inUse, u.destroyAfter)) =
        some (.preparing, true, true) ∧
      b.journal = s.backend.journal ++ [.provider .nil .destroy] ∧
      (b.userService? .nil).map (fun u => (u.inUse, u.destroyAfter)) = some (false, false) := by
  intro x events s b
  have hregular : ∀ event ∈ events, event.Regular outlook := by
    refine List.forall_mem_append.mpr ⟨trialArrival_regular UserService.outlook_outline _, ?_⟩
    simp [Event.Regular, Broker.Task.Regular]
  have hput : (s.backend.userServices.get? .nil).map
      (fun e => (e.service.state, e.service.inUse, e.service.destroyAfter)) = some (.preparing, true, true) := by
    decide +kernel
  obtain ⟨entry, hentry, hservice⟩ := Option.map_eq_some_iff.mp hput
  simp only [Prod.mk.injEq] at hservice
  obtain ⟨hstate, huse, hdestroy⟩ := hservice
  obtain ⟨-, hfinishes⟩ := (deferred_cancellation_kept hregular).last
  obtain ⟨hjournal, v, hv, hcleared, hunused, -⟩ :=
    hfinishes .nil entry .epoch hentry (by rw [hstate]; rfl) hdestroy
  have hafter : b.userService? .nil = some v := hv
  refine ⟨hregular, ?_, hjournal, ?_⟩
  · rw [Broker.userService?_of_get? hentry, Option.map_some, hstate, huse, hdestroy]
  · rw [hafter, Option.map_some, hcleared, hunused]

end Executor

end SessionBroker
