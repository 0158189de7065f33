import SessionBroker.Proofs.Broker.Revision

/-!
# What tokens are known by

Tokens are known by three tables: actors, services and aliases. An actor is entered by one query and an alias
by one other; nothing else that a backend does touches these tables, and of the administration only the coming
of a service does.
-/

namespace SessionBroker

open Effect (Keeps)

/-- The tables that tokens are looked up in. -/
structure Directory where
  actors : Table String ActorIdentity
  services : Table Uuid ServiceEntry
  aliases : Table String ServiceTokenAlias

namespace Broker

def directory (b : Broker) : Directory := ⟨b.actors, b.services, b.aliases⟩

variable {b b' : Broker} {mac token : String} {known : ActorIdentity}

/-! ## Actors -/

theorem findActorByMac_storeActor (b : Broker) (identity : ActorIdentity) (mac : String) :
    (b.storeActor identity).findActorByMac mac =
      if identity.mac = mac then some identity else b.findActorByMac mac :=
  Table.get?_put identity.mac mac identity b.actors

theorem validateActorToken_iff :
    b.validateActorToken token = true ↔ ∃ identity ∈ b.actors.values, identity.token = token := by
  simp [validateActorToken]

theorem mem_actors_of_findActorByMac (h : b.findActorByMac mac = some known) : known ∈ b.actors.values :=
  List.mem_map.mpr ⟨_, Table.mem_of_get? h, rfl⟩

/-- The token of whoever is registered is valid. -/
theorem validateActorToken_of_findActorByMac (h : b.findActorByMac mac = some known) :
    b.validateActorToken known.token = true :=
  validateActorToken_iff.mpr ⟨known, mem_actors_of_findActorByMac h, rfl⟩

/-! ## Operations that leave the tables alone -/

theorem Revised.directory (h : b.Revised b') : b'.directory = b.directory := by
  unfold Broker.directory
  rw [h.rest]

theorem appendLog_directory (token : String) (level : LogLevel) (message : String) (now : Instant) (b : Broker) :
    (b.appendLog token level message now).2.directory = b.directory := by
  rcases appendLog_cases token level message now b with h | ⟨owner, -, h⟩ <;> rw [h]
  rfl

/-- All but two queries leave the tables alone. -/
theorem answer_directory {query : Query} (h : ¬ query.Enters) (issuer : Issuer) (now : Instant) (draws : Draws)
    (d : Directory) : Keeps (·.directory = d) (backend.answer issuer now draws query) :=
  fun b hb => (answer_revised h issuer now draws b (.refl b)).directory.trans hb

/-- Of the administration only the coming of a service touches the tables. -/
theorem Task.perform_directory (task : Task) (b : Broker) :
    (task.perform b).directory = match task with
      | .addService record unmanaged =>
        { b.directory with services := b.services.put record.id ⟨record, unmanaged⟩ }
      | _ => b.directory := by
  cases task with
  | addStaff token user => rfl
  | addService record unmanaged => rfl
  | addPool pool osManager restraint => rfl
  | addUserService service provider now =>
    change (Broker.addUserService service provider now b).2.directory = _
    rcases addUserService_cases service provider now b with heq | ⟨-, heq⟩ <;> rw [heq]
    rfl
  | setEnvironment owner key value => rfl
  | deleteUserService id now =>
    change (Broker.deleteUserService id now b).2.directory = _
    rw [deleteUserService_eq]
    cases b.userService? id <;> rfl
  | _ => exact (perform_revised (by trivial) b).directory

end Broker

end SessionBroker
