import SessionBroker.Proofs.UserService.Outcome

/-!
# Operations that are refused

An operation in the life of a user service is refused where the state of the service, or its user, does not allow
it. Most operations look at the state before they do anything, so what they refuse has left no trace, and a task of
the provider that fails is what they report. A move to a cache level looks at the user only. It gives its order to
the provider of a service in a final state as well, and if the task fails there, the final state is what it reports.
-/

namespace SessionBroker

/-- The error says that the operation is not allowed, and not that a task of the provider failed. -/
def UserServiceError.isRefusal : UserServiceError → Bool
  | .illegalTransition .. | .terminal _ | .notAssignable => true
  | .provider _ => false

namespace UserService

/-- An operation in the life of a user service. -/
inductive Operation
  | release
  | remove
  | cancel
  | removeOrCancel
  | finishPreparation
  | moveToLevel (level : CacheLevel)
deriving DecidableEq, Repr

def Operation.attempt (u : UserService) (provider : Provider) (now : Instant) : Operation → Attempt
  | release => match u.release now with
    | .ok v => ⟨v, [], none⟩
    | .error e => ⟨u, [], some e⟩
  | remove => u.remove provider now
  | cancel => u.cancel provider now
  | removeOrCancel => u.removeOrCancel provider now
  | finishPreparation => u.finishPreparation provider now
  | moveToLevel level => u.moveToLevel level provider now

end UserService

/-- What has come of an operation on a service is told as it is: a refusal means that nothing has changed and that
the provider was given no order, and an error of the provider that a task it was given ended so, which has put the
service into the error state. -/
structure Attempt.Candid (a : Attempt) (u : UserService) (provider : Provider) : Prop where
  refused : ∀ e, a.error = some e → e.isRefusal = true → a.service = u ∧ a.orders = []
  reported : ∀ reason, a.error = some (.provider reason) ↔
    ∃ order ∈ a.orders, provider.task order = .failed reason
  failed : ∀ reason, a.error = some (.provider reason) → a.service.state = .error

namespace Attempt.Candid

variable {u v : UserService} {provider : Provider}

theorem refusal {e : UserServiceError} (h : e.isRefusal = true) : Candid ⟨u, [], some e⟩ u provider where
  refused _ _ _ := ⟨rfl, rfl⟩
  reported reason := by
    refine iff_of_false (fun he => ?_) (by simp)
    cases he
    cases h
  failed reason he := by
    cases he
    cases h

theorem quiet (u v : UserService) (provider : Provider) : Candid ⟨v, [], none⟩ u provider where
  refused := nofun
  reported _ := iff_of_false nofun (by simp)
  failed := nofun

/-- An operation that has given one order ends as the task does. -/
theorem ordered (order : Order) (hfailed : ∀ reason, provider.task order = .failed reason → v.state = .error) :
    Candid ⟨v, [order], (provider.task order).error?⟩ u provider := by
  have herror (reason : String) :
      (provider.task order).error? = some (.provider reason) ↔ provider.task order = .failed reason := by
    cases provider.task order <;> simp [TaskState.error?]
  refine ⟨fun e he hrefusal => ?_, fun reason => by simp [herror],
    fun reason he => hfailed reason ((herror reason).mp he)⟩
  cases htask : provider.task order with
  | failed reason =>
    rw [htask] at he
    cases he
    cases hrefusal
  | _ =>
    rw [htask] at he
    cases he

end Attempt.Candid

namespace UserService

variable (u : UserService) (provider : Provider) (now : Instant)

open Attempt (Candid)

theorem release_candid : Candid (Operation.release.attempt u provider now) u provider := by
  simp only [Operation.attempt, release_eq]
  cases u.state.isTerminal with
  | true => exact .refusal rfl
  | false => exact .quiet u _ provider

theorem remove_candid : Candid (u.remove provider now) u provider := by
  rw [remove_eq]
  split
  · exact .ordered .destroy fun reason h => by simp [destroyed, h, TaskState.leads]
  · exact .refusal rfl

theorem cancel_candid : Candid (u.cancel provider now) u provider := by
  rw [cancel_eq]
  split
  · split
    · exact .ordered .cancel fun reason h => by simp [cancelled, h, TaskState.leads]
    · exact .quiet u _ provider
  · exact u.remove_candid provider now

theorem finishPreparation_candid : Candid (u.finishPreparation provider now) u provider := by
  rw [finishPreparation_eq]
  split
  · exact .refusal rfl
  · split
    · exact .ordered .destroy fun reason h => by simp [destroyed, h, TaskState.leads]
    · exact .quiet u _ provider

/-- The operation gives an order to the provider of a service in a final state, and the task fails. -/
def Operation.FailsBehindFinal : Operation → Prop
  | moveToLevel level => (level = .assigned ∨ u.user = none) ∧ u.state.isTerminal = true ∧
      ∃ reason, provider.task (.move level) = .failed reason
  | _ => False

theorem moveToLevel_candid_iff (level : CacheLevel) : Candid (u.moveToLevel level provider now) u provider ↔
    ¬ (Operation.moveToLevel level).FailsBehindFinal u provider := by
  rw [moveToLevel_eq]
  split
  · next hrefused =>
    refine iff_of_true (.refusal rfl) ?_
    rintro ⟨rfl | hnone, -, -⟩
    · exact hrefused.1 rfl
    · simp [hnone] at hrefused
  · next hallowed =>
    have hallowed : level = .assigned ∨ u.user = none := by
      simpa [Classical.or_iff_not_imp_left] using hallowed
    constructor
    · -- the final state is reported, but the order was given
      rintro candid ⟨-, hfinal, reason, htask⟩
      have herror : u.movedError (provider.task (.move level)) = some (.terminal u.state) := by
        simp [movedError, htask, hfinal]
      cases (candid.refused _ herror rfl).2
    · intro hnot
      have hopen : ∀ reason, provider.task (.move level) = .failed reason → u.state.isTerminal = false := by
        intro reason htask
        cases hfinal : u.state.isTerminal with
        | false => rfl
        | true => exact absurd ⟨hallowed, hfinal, reason, htask⟩ hnot
      have herror : u.movedError (provider.task (.move level)) = (provider.task (.move level)).error? := by
        cases htask : provider.task (.move level) with
        | failed reason => simp [movedError, TaskState.error?, hopen reason htask]
        | _ => rfl
      rw [herror]
      refine .ordered (.move level) fun reason htask => ?_
      simp [moved, inState, movedState, htask, hopen reason htask]

/-- What comes of an operation is told as it is, unless the operation moves a service in a final state to a cache
level and the provider fails at it. -/
theorem candid_iff (op : Operation) :
    (op.attempt u provider now).Candid u provider ↔ ¬ op.FailsBehindFinal u provider := by
  cases op with
  | release => exact iff_of_true (u.release_candid provider now) fun h => h
  | remove => exact iff_of_true (u.remove_candid provider now) fun h => h
  | cancel => exact iff_of_true (u.cancel_candid provider now) fun h => h
  | removeOrCancel =>
    refine iff_of_true ?_ fun h => h
    rw [Operation.attempt, removeOrCancel_eq]
    exact u.cancel_candid provider now
  | finishPreparation => exact iff_of_true (u.finishPreparation_candid provider now) fun h => h
  | moveToLevel level => exact u.moveToLevel_candid_iff provider now level

/-- The move of a cancelled service is answered by its final state after the provider was told to move it, and the
service counts to the other cache from then on. -/
theorem cancelled_service_moved :
    let u := ((fresh .nil .nil "" "" .l1 .epoch).cancel ⟨true, fun _ => .finished⟩ .epoch).service
    let provider : Provider := ⟨true, fun _ => .failed "broken"⟩
    let a := (Operation.moveToLevel .l2).attempt u provider .epoch
    u.state = .canceled ∧ u.cacheLevel = .l1 ∧ a.error = some (.terminal .canceled) ∧
      a.orders = [.move .l2] ∧ a.service.cacheLevel = .l2 ∧ ¬ a.Candid u provider := by
  intro u provider a
  refine ⟨rfl, rfl, rfl, rfl, rfl, fun candid => ?_⟩
  cases (candid.refused _ rfl rfl).2

end UserService

end SessionBroker
