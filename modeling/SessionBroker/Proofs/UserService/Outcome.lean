import SessionBroker.UserService.Lifecycle

/-!
# What comes of the operations on a user service

Each operation in the life of a user service is one equation: when it is refused, the record that it leaves,
the orders that it gave and the error that it ends in. The provider has a say in the state that the service
ends up in and in nothing else. Outside this module nobody needs to open an operation.
-/

namespace SessionBroker

namespace TaskState

/-- The state of a service after an order, if it waits in the first state as long as the task runs and comes
to the second one by it. -/
def leads (running finished : ServiceState) : TaskState → ServiceState
  | .running => running
  | .finished => finished
  | .failed _ => .error

theorem leads_cases (task : TaskState) (running finished : ServiceState) :
    task.leads running finished = running ∨ task.leads running finished = finished ∨
      task.leads running finished = .error := by
  cases task with
  | running => exact .inl rfl
  | finished => exact .inr (.inl rfl)
  | failed _ => exact .inr (.inr rfl)

theorem leads_closed (task : TaskState) {running finished : ServiceState}
    (hrunning : running.isValid = false) (hfinished : finished.isValid = false) :
    (task.leads running finished).isValid = false := by
  rcases task.leads_cases running finished with h | h | h <;> rw [h]
  · exact hrunning
  · exact hfinished
  · rfl

/-- A task that failed is the only reason for an operation to fail after it gave an order. -/
def error? : TaskState → Option UserServiceError
  | .failed reason => some (.provider reason)
  | _ => none

end TaskState

theorem ServiceState.isValid_iff {state : ServiceState} :
    state.isValid ↔ state = .usable ∨ state = .preparing := by
  cases state <;> decide

theorem ServiceState.not_valid_of_terminal {state : ServiceState} (h : state.isTerminal) :
    state.isValid = false := by
  cases state with
  | removed | canceled => rfl
  | _ => cases h

/-- An actor may use no service that is in a final state. -/
theorem ServiceState.not_terminal_of_valid {state : ServiceState} (h : state.isValid) :
    state.isTerminal = false := by
  cases ht : state.isTerminal with
  | true => exact absurd h (by simp [not_valid_of_terminal ht])
  | false => rfl

namespace UserService

/-- The service in a state, since now unless it was there already. -/
def inState (u : UserService) (state : ServiceState) (now : Instant) : UserService :=
  { u with state := state, stateDate := if state = u.state then u.stateDate else now }

/-- A service that the provider was told to destroy. -/
def destroyed (u : UserService) (task : TaskState) (now : Instant) : UserService :=
  { u with
    state := task.leads .removing .removed
    stateDate := now
    inUse := false
    inUseDate := now }

/-- A service whose preparation the provider was told to end. -/
def cancelled (u : UserService) (task : TaskState) (now : Instant) : UserService :=
  { u with state := task.leads .canceling .canceled, stateDate := now }

/-- Where a move to a cache level leads. A usable service has to be prepared again while the move runs. -/
def movedState (u : UserService) : TaskState → ServiceState
  | .running => if u.state = .usable then .preparing else u.state
  | .finished => u.state
  | .failed _ => if u.state.isTerminal then u.state else .error

/-- The error of a move. A final state hides that of the provider. -/
def movedError (u : UserService) : TaskState → Option UserServiceError
  | .failed reason => some (if u.state.isTerminal then .terminal u.state else .provider reason)
  | _ => none

/-- A service that the provider was told to move to a cache level. -/
def moved (u : UserService) (level : CacheLevel) (task : TaskState) (now : Instant) : UserService :=
  { u with cacheLevel := level }.inState (u.movedState task) now

variable (u : UserService) (provider : Provider) (now : Instant)

/-! ## States -/

theorem setState_eq (state : ServiceState) :
    u.setState state now =
      if state ≠ u.state ∧ u.state.isTerminal then .error (.terminal u.state)
      else .ok (u.inState state now) := by
  unfold setState
  by_cases h : state = u.state
  · subst h
    simp [inState]
  · by_cases ht : u.state.isTerminal <;> simp [h, ht, inState]

theorem release_eq :
    u.release now =
      if u.state.isTerminal then .error (.terminal u.state) else .ok (u.inState .removable now) := by
  unfold release
  rw [setState_eq]
  -- no final state is the one that a release leads to
  cases hs : u.state <;> simp [ServiceState.isTerminal]

variable {u} in
/-- A service that an actor may use was not due for removal before. -/
theorem inState_removable_of_valid (h : u.state.isValid) :
    u.inState .removable now = { u with state := .removable, stateDate := now } := by
  have hstate : ServiceState.removable ≠ u.state := by
    intro hsame
    rw [← hsame] at h
    cases h
  unfold inState
  rw [if_neg hstate]

/-- A task is followed up on right after the state has changed. -/
theorem applyTask_eq (orders : List Order) (task : TaskState) {finished : ServiceState}
    (hstate : u.state = .removing ∧ finished = .removed ∨ u.state = .canceling ∧ finished = .canceled)
    (hdate : u.stateDate = now) :
    u.applyTask orders task finished now =
      ⟨{ u with state := task.leads u.state finished }, orders, task.error?⟩ := by
  subst hdate
  unfold applyTask
  cases task with
  | running => rfl
  | finished =>
    rcases hstate with ⟨hs, rfl⟩ | ⟨hs, rfl⟩ <;>
      simp [attemptState, setState_eq, inState, TaskState.leads, TaskState.error?, hs, ServiceState.isTerminal]
  | failed reason =>
    rcases hstate with ⟨hs, -⟩ | ⟨hs, -⟩ <;>
      simp [taskFailed, setState_eq, inState, TaskState.leads, TaskState.error?, hs, ServiceState.isTerminal]

/-! ## Operations -/

theorem remove_eq :
    u.remove provider now =
      if u.state = .usable ∨ u.state = .removable then
        ⟨u.destroyed (provider.task .destroy) now, [.destroy], (provider.task .destroy).error?⟩
      else ⟨u, [], some (.illegalTransition u.state .removing)⟩ := by
  unfold remove
  simp only [Bool.or_eq_true, decide_eq_true_eq]
  split
  · next h =>
    have hset : u.setState .removing now = .ok { u with state := .removing, stateDate := now } := by
      rw [setState_eq]
      rcases h with h | h <;> simp [h, ServiceState.isTerminal, inState]
    rw [hset]
    exact applyTask_eq _ now _ _ (.inl ⟨rfl, rfl⟩) rfl
  · rfl

theorem cancel_eq :
    u.cancel provider now =
      if u.state = .preparing then
        if provider.supportsCancel then
          ⟨u.cancelled (provider.task .cancel) now, [.cancel], (provider.task .cancel).error?⟩
        else ⟨{ u with destroyAfter := true }, [], none⟩
      else u.remove provider now := by
  unfold cancel isPreparing
  by_cases h : u.state = .preparing
  · simp only [h, decide_true, Bool.not_true, Bool.false_eq_true, if_false, if_true]
    cases provider.supportsCancel with
    | false => rfl
    | true =>
      have hset : u.setState .canceling now = .ok { u with state := .canceling, stateDate := now } := by
        rw [setState_eq]
        simp [h, ServiceState.isTerminal, inState]
      rw [hset]
      exact applyTask_eq _ now _ _ (.inr ⟨rfl, rfl⟩) rfl
  · simp [h]

/-- A cancellation removes a usable service by itself. -/
theorem removeOrCancel_eq : u.removeOrCancel provider now = u.cancel provider now := by
  unfold removeOrCancel isUsable
  by_cases h : u.state = .usable
  · simp [h, cancel_eq]
  · simp [h]

theorem finishPreparation_eq :
    u.finishPreparation provider now =
      if u.state.isTerminal then ⟨u, [], some (.terminal u.state)⟩
      else if u.destroyAfter then
        ⟨{ u with destroyAfter := false }.destroyed (provider.task .destroy) now, [.destroy],
          (provider.task .destroy).error?⟩
      else ⟨u.inState .usable now, [], none⟩ := by
  unfold finishPreparation
  rw [setState_eq]
  by_cases ht : u.state.isTerminal
  · have hne : ServiceState.usable ≠ u.state := by
      intro h
      rw [← h] at ht
      cases ht
    simp [ht, hne]
  · simp only [ht, Bool.false_eq_true, and_false, if_false]
    cases hd : u.destroyAfter with
    | false => simp [inState, hd]
    | true => simp [inState, hd, remove_eq, destroyed]

theorem movedState_cases (task : TaskState) :
    u.movedState task = u.state ∨ u.state = .usable ∧ u.movedState task = .preparing ∨
      u.state.isTerminal = false ∧ u.movedState task = .error := by
  cases task with
  | running => by_cases h : u.state = .usable <;> simp [movedState, h]
  | finished => exact .inl rfl
  | failed reason => cases h : u.state.isTerminal <;> simp [movedState, h]

theorem moveToLevel_eq (level : CacheLevel) :
    u.moveToLevel level provider now =
      if level ≠ .assigned ∧ u.user.isSome then ⟨u, [], some .notAssignable⟩
      else ⟨u.moved level (provider.task (.move level)) now, [.move level],
        u.movedError (provider.task (.move level))⟩ := by
  unfold moveToLevel
  simp only [Bool.and_eq_true, decide_eq_true_eq]
  split
  · rfl
  · cases htask : provider.task (.move level) with
    | running =>
      by_cases h : u.state = .usable <;>
        simp [isUsable, attemptState, setState_eq, moved, movedState, movedError, inState, h,
          ServiceState.isTerminal]
    | finished => simp [moved, movedState, movedError, inState]
    | failed reason =>
      cases hs : u.state <;>
        simp [taskFailed, setState_eq, moved, movedState, movedError, inState, hs, ServiceState.isTerminal]

end UserService

end SessionBroker
