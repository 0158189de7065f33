import SessionBroker.Proofs.Broker.Task

/-!
# Changes of records

Most of what is done to a broker changes the records of user services that are there and tells collaborators
something. The operations of the backend do no more, apart from the entry of actors and aliases and from log
entries, and neither do most tasks of the administration. Whatever does not depend on the records themselves is
the same afterwards.
-/

namespace SessionBroker

open Effect (Keeps)

namespace Broker

/-- Records of user services may have been changed, and collaborators may have been told something. Nothing else
has happened. -/
structure Revised (b b' : Broker) : Prop where
  keys : b'.userServices.keys = b.userServices.keys
  rest : b' = { b with userServices := b'.userServices, journal := b'.journal }

/-- No user service is kept twice. -/
def Distinct (b : Broker) : Prop := b.userServices.KeysNodup

/-- Every user service is kept under its own id. -/
def Keyed (b : Broker) : Prop := ∀ id u, b.userService? id = some u → u.uuid = id

theorem Keyed.kept {b : Broker} (hb : b.Keyed) (h : b.Distinct) : b.Kept where
  distinct := h
  keyed row hrow := hb row.1 _ (userService?_of_get? (Table.get?_of_mem h hrow))

theorem isSome_userService?_iff {b : Broker} {id : Uuid} : (b.userService? id).isSome ↔ id ∈ b.userServices.keys := by
  unfold userService?
  rw [Option.isSome_map]
  exact Table.isSome_get?_iff

namespace Revised

variable {a b c : Broker} {id : Uuid}

theorem refl (b : Broker) : b.Revised b := ⟨rfl, rfl⟩

theorem trans (h : a.Revised b) (h' : b.Revised c) : a.Revised c where
  keys := h'.keys.trans h.keys
  rest := by rw [h'.rest, h.rest]

theorem told (h : a.Revised b) (ht : b.Told c) : a.Revised c := by
  obtain ⟨notices, rfl⟩ := ht
  exact h.trans ⟨rfl, rfl⟩

theorem put (h : a.Revised b) {entry : UserServiceEntry} (hentry : b.userServices.get? id = some entry)
    (entry' : UserServiceEntry) : a.Revised { b with userServices := b.userServices.put id entry' } := by
  refine h.trans ⟨?_, rfl⟩
  have hmem : id ∈ b.userServices.keys := Table.isSome_get?_iff.mp (Option.isSome_of_eq_some hentry)
  exact (Table.keys_put id entry' b.userServices).trans (if_pos hmem)

theorem putUserService (h : a.Revised b) (id : Uuid) (u : UserService) : a.Revised (b.putUserService id u) := by
  unfold Broker.putUserService
  cases he : b.userServices.get? id with
  | none => exact h
  | some entry => exact h.put he _

/-! ## What is the same afterwards -/

variable (h : b.Revised c)

include h

theorem isSome_userService? (id : Uuid) : (c.userService? id).isSome = (b.userService? id).isSome := by
  rw [Bool.eq_iff_iff, isSome_userService?_iff, isSome_userService?_iff, h.keys]

theorem distinct (hb : b.Distinct) : c.Distinct := by
  unfold Distinct Table.KeysNodup
  rw [h.keys]
  exact hb

theorem pools : c.pools = b.pools := by rw [h.rest]

theorem logs : c.logs = b.logs := by rw [h.rest]

end Revised

variable {a : Broker}

/-! ## Operations of the backend -/

/-- A change of a record, with which collaborators may be told something. -/
theorem revise_revised {α : Type} {id : Uuid} {f : UserService → Broker → Except StoreError α × UserService × Broker}
    (hf : ∀ u b, Told b (f u b).2.2) : Keeps a.Revised (revise id f) := by
  intro b h
  unfold revise
  cases b.userService? id with
  | none => exact h
  | some u => exact (h.told (hf u b)).putUserService id _

theorem openSession_revised (token username sessionId : String) (now : Instant) :
    Keeps a.Revised (openSession token username sessionId now) := by
  intro b h
  unfold openSession
  cases b.validUserService? token with
  | none => exact h
  | some current => exact revise_revised (fun u b => enterUse_told u username now b) b h

theorem closeSession_revised (token username sessionId : String) (now : Instant) :
    Keeps a.Revised (closeSession token username sessionId now) := by
  intro b h
  unfold closeSession
  cases b.validUserService? token with
  | none => exact h
  | some current => exact revise_revised (fun u b => leaveUse_told _ username now b) b h

theorem release_revised (id : Uuid) (now : Instant) : Keeps a.Revised (release id now) := by
  refine revise_revised fun u b => ?_
  cases u.release now <;> exact .refl b

theorem prepareActor_revised (id : Uuid) (version : String) : Keeps a.Revised (prepareActor id version) := by
  refine revise_revised fun u b => ?_
  dsimp only
  cases b.osManager? u.pool with
  | none => exact .refl b
  | some m => exact .tell b _

theorem commitReady_revised (report : ReadyReport) (now : Instant) : Keeps a.Revised (commitReady report now) := by
  refine revise_revised fun u b => ?_
  have hasked : b.Told (b.tell (.provider report.userService (.setIp report.ip))) := .tell b _
  dsimp only
  cases report.markOsUsable with
  | false => exact hasked
  | true => exact hasked.trans (markOsUsable_told _ now _)

theorem notifyService_revised (notification : Notification) : Keeps a.Revised (notifyService notification) :=
  fun b h => h.told (notifyService_told notification b)

theorem tellService_revised (service : Uuid) (event : ServiceEvent) :
    Keeps a.Revised (writing fun b => ((), b.tellService service event)) :=
  fun b h => h.told (tellService_told service event b)

theorem recordVersion_revised (token version ip : String) (b : Broker) :
    b.Revised (b.recordVersion token version ip).2 := by
  unfold recordVersion
  cases Uuid.parse? token with
  | none => exact .refl b
  | some id =>
    dsimp only
    cases b.userService? id with
    | none => exact .refl b
    | some u => exact (Revised.refl b).putUserService id _

/-- A log entry is taken under the id of a user service that is there, and not at all otherwise. -/
theorem appendLog_cases (token : String) (level : LogLevel) (message : String) (now : Instant) (b : Broker) :
    (b.appendLog token level message now).2 = b ∨
      ∃ owner, (b.userService? owner).isSome ∧ (b.appendLog token level message now).2 =
        { b with logs := b.logs ++ [⟨owner, level, .actor, message, now⟩] } := by
  unfold appendLog
  cases howner : (Uuid.parse? token).filter fun id => (b.userServices.get? id).isSome with
  | none => exact .inl rfl
  | some owner =>
    refine .inr ⟨owner, ?_, rfl⟩
    rw [userService?, Option.isSome_map]
    exact (Option.filter_eq_some_iff.mp howner).2

end Broker

/-- The query enters an actor or an alias. -/
def Query.Enters : Query → Prop
  | .storeActor _ | .createAlias _ => True
  | _ => False

namespace Broker

variable {a : Broker}

/-- All but two queries only look, or change records. -/
theorem answer_revised {query : Query} (h : ¬ query.Enters) (issuer : Issuer) (now : Instant) (draws : Draws) :
    Keeps a.Revised (backend.answer issuer now draws query) := by
  cases query with
  | findActorByMac mac => exact .bind (reading_keeps _) fun _ => .pure _
  | storeActor identity => exact absurd trivial h
  | validateActorToken token => exact .bind (reading_keeps _) fun _ => .pure _
  | findService token through => exact .bind (reading_keeps _) fun _ => .pure _
  | findAlias token => exact .bind (reading_keeps _) fun _ => .pure _
  | findAliasFor service id => exact .bind (reading_keeps _) fun _ => .pure _
  | createAlias record => exact absurd trivial h
  | findUserService filter => exact .bind (reading_keeps _) fun _ => .pure _
  | prepareActor id version => exact .bind (prepareActor_revised id version) fun _ => .pure _
  | fetchUserService token => exact .bind (reading_keeps _) fun _ => .pure _
  | openSession token user => exact .bind (openSession_revised token user draws.session now) fun _ => .pure _
  | closeSession token user id => exact .bind (closeSession_revised token user id now) fun _ => .pure _
  | release id => exact .bind (release_revised id now) fun _ => .pure _
  | issueCertificate ip => exact .pure _
  | commitReady report => exact .bind (commitReady_revised report now) fun _ => .pure _
  | notifyService notification => exact .bind (notifyService_revised notification) fun _ => .pure _
  | resolveValidId service ids => exact .bind (reading_keeps _) fun _ => .pure _
  | notifyInitialization service id => exact .bind (tellService_revised service _) fun _ => .pure _
  | storeIdInfo service id info => exact .bind (tellService_revised service _) fun _ => .pure _

/-- What is kept by changes of records, by the entry of actors and aliases, and by log entries of user services that
are there, is kept by every operation of the backend. -/
theorem backend_keeps_of_revised {P : Broker → Prop} (revised : ∀ {b b' : Broker}, b.Revised b' → P b → P b')
    (storeActor : ∀ {b : Broker} identity, P b → P (b.storeActor identity))
    (createAlias : ∀ {b : Broker} record, P b → P (b.createAlias record))
    (logged : ∀ {b : Broker} entry, (b.userService? entry.owner).isSome → P b →
      P { b with logs := b.logs ++ [entry] }) : backend.Keeps P where
  answer issuer now draws query b h := by
    by_cases henters : query.Enters
    · cases query with
      | storeActor identity => exact storeActor identity h
      | createAlias record => exact createAlias record h
      | _ => exact henters.elim
    · exact revised (answer_revised henters issuer now draws b (.refl b)) h
  recordVersion token version ip := writing_keeps fun b h => revised (recordVersion_revised token version ip b) h
  actorVersion _ := reading_keeps _
  appendLog token level message now := writing_keeps fun b h => by
    change P (b.appendLog token level message now).2
    rcases appendLog_cases token level message now b with heq | ⟨owner, howner, heq⟩
    · rwa [heq]
    · rw [heq]
      exact logged _ howner h

/-! ## Tasks of the administration -/

theorem attempt_revised (id : Uuid) (f : UserService → Provider → Attempt) (b : Broker) :
    b.Revised (attempt id f b).2 := by
  rw [attempt_eq]
  cases b.userServices.get? id with
  | none => exact .refl b
  | some entry => exact ((Revised.refl b).putUserService id _).trans ⟨rfl, rfl⟩

theorem setProvider_revised (b : Broker) (id : Uuid) (provider : Provider) : b.Revised (b.setProvider id provider) := by
  unfold setProvider
  cases he : b.userServices.get? id with
  | none => exact .refl b
  | some entry => exact (Revised.refl b).put he _

theorem withUserService_revised {α : Type} (id : Uuid) (f : UserService → α × UserService) (b : Broker) :
    b.Revised (withUserService id f b).2 := by
  rw [withUserService_eq]
  cases b.userService? id with
  | none => exact .refl b
  | some u => exact (Revised.refl b).putUserService id _

/-- The task changes the record of a user service, or what stands behind it. -/
def Task.Revises : Task → Prop
  | setProvider .. | edit .. | finishPreparation .. | moveToLevel .. | cancel .. | removeOrCancel .. | assign .. => True
  | _ => False

theorem Task.perform_revised {task : Task} (h : task.Revises) (b : Broker) : b.Revised (task.perform b) := by
  cases task with
  | setProvider id provider => exact setProvider_revised b id provider
  | edit id change => exact withUserService_revised id _ b
  | finishPreparation id now => exact attempt_revised id _ b
  | moveToLevel id level now => exact attempt_revised id _ b
  | cancel id now => exact attempt_revised id _ b
  | removeOrCancel id now => exact attempt_revised id _ b
  | assign id user now => exact withUserService_revised id _ b
  | _ => exact h.elim

end Broker

end SessionBroker
