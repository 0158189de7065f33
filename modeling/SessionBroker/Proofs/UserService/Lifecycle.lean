import SessionBroker.UserService.Lifecycle

/-!
# What the life of a user service changes

The operations that move a user service between its states change its states, their dates, its cache level
and its use. Its identity, its user, its sessions and what its actor reported stay.
-/

namespace SessionBroker.UserService

/-- The records differ at most in the fields that the life of a service changes. -/
def Aged (u v : UserService) : Prop :=
  v = { u with
    state := v.state
    stateDate := v.stateDate
    cacheLevel := v.cacheLevel
    inUse := v.inUse
    inUseDate := v.inUseDate
    destroyAfter := v.destroyAfter }

namespace Aged

variable {u v w : UserService}

theorem refl (u : UserService) : u.Aged u := rfl

theorem trans (h : u.Aged v) (h' : v.Aged w) : u.Aged w := by
  cases u
  cases v
  cases w
  simp_all [Aged]

theorem uuid (h : u.Aged v) : v.uuid = u.uuid := by rw [h]

theorem user (h : u.Aged v) : v.user = u.user := by rw [h]

theorem setInUse (u : UserService) (inUse : Bool) (now : Instant) : u.Aged (u.setInUse inUse now) := rfl

theorem setState {state : ServiceState} {now : Instant} (h : u.setState state now = .ok v) :
    u.Aged v := by
  unfold UserService.setState at h
  split at h
  · cases h
    exact refl u
  · split at h
    · cases h
    · cases h
      rfl

variable (u) (orders : List Order) (provider : Provider) (now : Instant)

theorem attemptState (state : ServiceState) : u.Aged (u.attemptState orders state now).service := by
  unfold UserService.attemptState
  split
  · next h => exact setState h
  · exact refl u

theorem taskFailed (reason : String) : u.Aged (u.taskFailed orders reason now).service := by
  unfold UserService.taskFailed
  split
  · next h => exact setState h
  · exact refl u

theorem applyTask (task : TaskState) (finished : ServiceState) :
    u.Aged (u.applyTask orders task finished now).service := by
  cases task with
  | running => exact refl u
  | finished => exact attemptState u orders now finished
  | failed reason => exact taskFailed u orders now reason

theorem release (h : u.release now = .ok v) : u.Aged v := setState h

theorem remove : u.Aged (u.remove provider now).service := by
  unfold UserService.remove
  split
  · split
    · next v h =>
      have inUse : v.Aged (v.setInUse false now) := setInUse v false now
      exact ((setState h).trans inUse).trans (applyTask _ _ now _ _)
    · exact refl u
  · exact refl u

theorem cancel : u.Aged (u.cancel provider now).service := by
  unfold UserService.cancel
  split
  · exact remove u provider now
  · split
    · rfl
    · split
      · next h => exact (setState h).trans (applyTask _ _ now _ _)
      · exact refl u

theorem removeOrCancel : u.Aged (u.removeOrCancel provider now).service := by
  unfold UserService.removeOrCancel
  split
  · exact remove u provider now
  · exact cancel u provider now

theorem finishPreparation : u.Aged (u.finishPreparation provider now).service := by
  unfold UserService.finishPreparation
  split
  · exact refl u
  · next v h =>
    split
    · have cleared : v.Aged { v with destroyAfter := false } := rfl
      exact ((setState h).trans cleared).trans (remove _ provider now)
    · exact setState h

theorem moveToLevel (level : CacheLevel) : u.Aged (u.moveToLevel level provider now).service := by
  have moved : u.Aged { u with cacheLevel := level } := rfl
  unfold UserService.moveToLevel
  split
  · exact refl u
  · cases provider.task (.move level) with
    | running =>
      dsimp only
      split
      · exact moved.trans (attemptState _ _ now _)
      · exact moved
    | finished => exact moved
    | failed reason => exact moved.trans (taskFailed _ _ now _)

end Aged

end SessionBroker.UserService
