import SessionBroker.Proofs.UserService.Lifecycle
import SessionBroker.Proofs.UserService.Outcome

/-!
# The place of a user service

A user service waits in the cache, or it is out of the cache and may have a user. The operations that end a
preparation or a service change neither its level nor its user. A move changes the level, even where the provider
fails to carry it out, and an assignment changes both.
-/

namespace SessionBroker.UserService

/-- Who has the service, and on which level it is. -/
def placement (u : UserService) : Option Uuid × CacheLevel := (u.user, u.cacheLevel)

/-- A service that has a user is on the level for users. -/
def Placed (u : UserService) : Prop := u.user.isSome → u.cacheLevel = .assigned

/-- The service is the user's, and it is on the level for users. -/
structure BelongsTo (u : UserService) (user : Uuid) : Prop where
  user : u.user = some user
  level : u.cacheLevel = .assigned

variable {u v : UserService} {user : Uuid}

/-- A new service has no user. -/
theorem fresh_placed (uuid pool : Uuid) (uniqueId friendlyName : String) (level : CacheLevel) (now : Instant) :
    (fresh uuid pool uniqueId friendlyName level now).Placed := by
  intro huser
  cases huser

theorem assignToUser_belongsTo (u : UserService) (user : Uuid) (now : Instant) :
    (u.assignToUser user now).BelongsTo user := ⟨rfl, rfl⟩

theorem BelongsTo.placed (h : u.BelongsTo user) : u.Placed := fun _ => h.level

theorem Placed.belongsTo (h : u.Placed) (huser : u.user = some user) : u.BelongsTo user :=
  ⟨huser, h (Option.isSome_of_eq_some huser)⟩

theorem Placed.of_placement (hu : u.Placed) (h : v.placement = u.placement) : v.Placed := by
  obtain ⟨huser, hlevel⟩ := Prod.mk.inj h
  unfold Placed
  rw [huser, hlevel]
  exact hu

theorem BelongsTo.of_placement (hu : u.BelongsTo user) (h : v.placement = u.placement) : v.BelongsTo user := by
  obtain ⟨huser, hlevel⟩ := Prod.mk.inj h
  exact ⟨huser.trans hu.user, hlevel.trans hu.level⟩

section Operations

variable (u : UserService) (provider : Provider) (now : Instant)

theorem remove_placement : (u.remove provider now).service.placement = u.placement := by
  rw [remove_eq]
  split <;> rfl

theorem cancel_placement : (u.cancel provider now).service.placement = u.placement := by
  rw [cancel_eq]
  split
  · split <;> rfl
  · exact u.remove_placement provider now

theorem removeOrCancel_placement : (u.removeOrCancel provider now).service.placement = u.placement := by
  rw [removeOrCancel_eq]
  exact u.cancel_placement provider now

theorem finishPreparation_placement : (u.finishPreparation provider now).service.placement = u.placement := by
  rw [finishPreparation_eq]
  split
  · rfl
  · split <;> rfl

variable (level : CacheLevel)

theorem moveToLevel_user : (u.moveToLevel level provider now).service.user = u.user :=
  (Aged.moveToLevel u provider now level).user

/-- A move that goes through sets the level, whatever the provider makes of it. One that does not leaves a service
that has a user where it is. -/
theorem moveToLevel_level : (u.moveToLevel level provider now).service.cacheLevel =
    if level ≠ .assigned ∧ u.user.isSome then u.cacheLevel else level := by
  rw [moveToLevel_eq]
  split <;> rfl

end Operations

theorem Placed.moveToLevel (h : u.Placed) (level : CacheLevel) (provider : Provider) (now : Instant) :
    (u.moveToLevel level provider now).service.Placed := by
  unfold Placed
  rw [moveToLevel_user, moveToLevel_level]
  intro huser
  split
  · exact h huser
  · next hmove => exact Decidable.byContradiction fun hlevel => hmove ⟨hlevel, huser⟩

theorem BelongsTo.moveToLevel (h : u.BelongsTo user) (level : CacheLevel) (provider : Provider) (now : Instant) :
    (u.moveToLevel level provider now).service.BelongsTo user :=
  (h.placed.moveToLevel level provider now).belongsTo ((u.moveToLevel_user provider now level).trans h.user)

end SessionBroker.UserService
