import SessionBroker.Proofs.Broker.Search
import SessionBroker.Proofs.Broker.Tokens
import SessionBroker.Proofs.Executor.Records
import SessionBroker.Proofs.UserService.History

/-!
# Deletions

A user service has rows of its own in three tables: its record, its log entries and its environment. A deletion
takes all of them and nothing else. So no log entry is ever left without its user service, whatever else happens:
`LogsOwned` is kept by every operation, and by a deletion because the id under which a user service is kept is the
one that its log entries bear.
-/

namespace SessionBroker.Broker

variable {b b' : Broker} {id : Uuid} {u : UserService}

/-! ## Log entries and their owners -/

/-- Every log entry belongs to a user service that is there. -/
def LogsOwned (b : Broker) : Prop := ∀ entry ∈ b.logs, (b.userService? entry.owner).isSome

theorem LogsOwned.mono (h : b.LogsOwned) (hlogs : ∀ entry ∈ b'.logs, entry ∈ b.logs)
    (hthere : ∀ entry ∈ b'.logs, (b.userService? entry.owner).isSome → (b'.userService? entry.owner).isSome) :
    b'.LogsOwned := fun entry hentry => hthere entry hentry (h entry (hlogs entry hentry))

theorem Revised.logsOwned (h : b.Revised b') (hb : b.LogsOwned) : b'.LogsOwned := by
  refine hb.mono (fun entry hentry => h.logs ▸ hentry) fun entry _ hthere => ?_
  rwa [h.isSome_userService?]

theorem backend_logsOwned : backend.Keeps LogsOwned := by
  refine backend_keeps_of_revised Revised.logsOwned (fun _ h => h) (fun _ h => h) fun entry howner h => ?_
  intro logged hlogged
  rcases List.mem_append.mp hlogged with hold | hnew
  · exact h logged hold
  · obtain rfl := List.mem_singleton.mp hnew
    exact howner

/-! ## What a deletion takes -/

/-- What is left after a deletion: of the user service nothing, and of everything else everything. -/
structure Deleted (id : Uuid) (b b' : Broker) : Prop where
  gone : b'.userServices.get? id = none
  others : ∀ id', id' ≠ id → b'.userServices.get? id' = b.userServices.get? id'
  logs : b'.logs = b.logs.filter (·.owner ≠ id)
  environment : b'.environment.get? id = none
  environments : ∀ id', id' ≠ id → b'.environment.get? id' = b.environment.get? id'
  directory : b'.directory = b.directory
  pools : b'.pools = b.pools
  staff : b'.staff = b.staff
  journal : b'.journal = b.journal

/-- A deletion gives back the record with its sessions ended. -/
theorem Holds.deleteUserService (h : b.Holds id u) (now : Instant) :
    (deleteUserService id now b).1 = .ok (u.endSession "" now) ∧ Deleted id b (deleteUserService id now b).2 := by
  rw [deleteUserService_eq, h.found]
  dsimp only
  rw [h.uuid]
  refine ⟨rfl, ?_⟩
  constructor
  case gone => exact (Table.get?_erase id id b.userServices).trans (if_pos rfl)
  case others => exact fun id' hne => (Table.get?_erase id id' b.userServices).trans (if_neg (Ne.symm hne))
  case environment => exact (Table.get?_erase id id b.environment).trans (if_pos rfl)
  case environments => exact fun id' hne => (Table.get?_erase id id' b.environment).trans (if_neg (Ne.symm hne))
  case logs | directory | pools | staff | journal => rfl

namespace Deleted

variable (h : Deleted id b b')

include h

theorem userService?_other {id' : Uuid} (hne : id' ≠ id) : b'.userService? id' = b.userService? id' :=
  congrArg (Option.map UserServiceEntry.service) (h.others id' hne)

theorem logsOwned (hb : b.LogsOwned) : b'.LogsOwned := by
  refine hb.mono (fun entry hentry => ?_) fun entry hentry hthere => ?_
  · rw [h.logs] at hentry
    exact (List.mem_filter.mp hentry).1
  · rw [h.logs] at hentry
    have hne : entry.owner ≠ id := by simpa using (List.mem_filter.mp hentry).2
    rwa [h.userService?_other hne]

end Deleted

theorem Task.perform_logsOwned (hkeyed : b.Keyed) (h : b.LogsOwned) (task : Task) : (task.perform b).LogsOwned := by
  cases task with
  | addStaff token user => exact h
  | addService record unmanaged => exact h
  | addPool pool osManager restraint => exact h
  | addUserService service provider now =>
    change (Broker.addUserService service provider now b).2.LogsOwned
    rcases addUserService_cases service provider now b with heq | ⟨-, heq⟩
    · rw [heq]
      refine h.mono (fun _ hentry => hentry) fun entry _ hthere => ?_
      simp only [userService?, Table.get?_put]
      split
      · rfl
      · exact hthere
    · rwa [heq]
  | setEnvironment owner key value => exact h
  | deleteUserService id now =>
    change (Broker.deleteUserService id now b).2.LogsOwned
    cases hu : b.userService? id with
    | none =>
      rw [deleteUserService_eq, hu]
      exact h
    | some u =>
      have hholds : b.Holds id u := ⟨hu, hkeyed id u hu⟩
      exact (hholds.deleteUserService now).2.logsOwned h
  | _ => exact (perform_revised (by trivial) b).logsOwned h

end SessionBroker.Broker
