import Mathlib.Logic.Relation
import SessionBroker.Proofs.Broker.Shown
import SessionBroker.Proofs.UserService.Outcome

/-!
# What actors do to user services

The calls of actors reach the records of user services in three ways only. A `Visit` is one of them: the actor
reports its version, it attends to a service that is usable or in preparation, or it has the service released. What
attending comes to is up to the OS manager too, so all that is said of it is that it leaves the `Outline` of the
service as it was. A protocol leaves every user service by a chain of visits, and none comes or goes by it.
-/

namespace SessionBroker

open Effect (Keeps)

variable {γ : Type}

namespace UserService

/-- What is told of a user service names it, and depends on where it stands and whether its removal was put off. -/
structure Outline (g : UserService → γ) : Prop where
  same : ∀ {u v : UserService}, v.uuid = u.uuid → v.state = u.state → v.destroyAfter = u.destroyAfter → g v = g u
  uuid : ∀ {u v : UserService}, g v = g u → v.uuid = u.uuid

theorem Outline.lasting {g : UserService → γ} (hg : Outline g) : Lasting g :=
  fun huuid hstate hdestroy _ _ => hg.same huuid hstate hdestroy

/-- Which user service it is, and its state. -/
def standing (u : UserService) : Uuid × ServiceState := (u.uuid, u.state)

/-- Which user service it is, its state, and whether its removal was put off. -/
def outlook (u : UserService) : Uuid × ServiceState × Bool := (u.uuid, u.state, u.destroyAfter)

theorem uuid_outline : Outline UserService.uuid where
  same huuid _ _ := huuid
  uuid h := h

theorem standing_outline : Outline standing where
  same huuid hstate _ := Prod.ext huuid hstate
  uuid h := congrArg Prod.fst h

theorem outlook_outline : Outline outlook where
  same huuid hstate hdestroy := Prod.ext huuid (Prod.ext hstate hdestroy)
  uuid h := congrArg Prod.fst h

/-- One thing that the call of an actor does to a user service. -/
inductive Visit (g : UserService → γ) (u : UserService) : UserService → Prop
  | reported (version : String) (properties : Dict String) :
      Visit g u { u with actorVersion := version, properties := properties }
  | attended (valid : u.state.isValid) {v : UserService} (h : g v = g u) : Visit g u v
  | released (h : u.state.isTerminal = false) (now : Instant) : Visit g u (u.inState .removable now)

/-- Any number of visits. -/
abbrev Visits (g : UserService → γ) : UserService → UserService → Prop := Relation.ReflTransGen (Visit g)

variable {g : UserService → γ} {u v : UserService}

theorem Visit.visits (h : Visit g u v) : Visits g u v := .single h

/-- What each visit keeps, any number of visits keeps. -/
theorem Visits.keeps {P : UserService → Prop} (step : ∀ {u v : UserService}, Visit g u v → P u → P v)
    (h : Visits g u v) (hu : P u) : P v := by
  induction h with
  | refl => exact hu
  | tail _ visit ih => exact step visit ih

theorem Visit.uuid (hg : Outline g) (h : Visit g u v) : v.uuid = u.uuid := by
  cases h with
  | reported version properties => rfl
  | attended valid h => exact hg.uuid h
  | released hopen now => rfl

theorem Visits.uuid (hg : Outline g) (h : Visits g u v) : v.uuid = u.uuid :=
  h.keeps (P := fun w => w.uuid = u.uuid) (fun visit hv => (visit.uuid hg).trans hv) rfl

end UserService

namespace Broker

open UserService (Outline Visit Visits)

variable {g : UserService → γ} {a b c : Broker}

/-- Every user service has been left by visits, and none has come or gone. -/
def Visited (g : UserService → γ) (b b' : Broker) : Prop :=
  ∀ id, Option.Rel (Visits g) (b.userService? id) (b'.userService? id)

namespace Visited

theorem of_eq (h : ∀ id, c.userService? id = b.userService? id) : Visited g b c := by
  intro id
  rw [h id]
  cases b.userService? id with
  | none => exact .none
  | some u => exact .some .refl

theorem refl (b : Broker) : Visited g b b := of_eq fun _ => rfl

theorem trans (h : Visited g a b) (h' : Visited g b c) : Visited g a c := by
  intro id
  have first := h id
  have second := h' id
  generalize a.userService? id = u, b.userService? id = v, c.userService? id = w at first second
  cases first with
  | none => exact second
  | some huv =>
    cases second with
    | some hvw => exact .some (huv.trans hvw)

/-- Only the user services matter. -/
theorem congr (h : c.userServices = b.userServices) : Visited g b c :=
  of_eq fun id => by unfold userService?; rw [h]

theorem told (h : b.Told c) : Visited g b c := by
  obtain ⟨notices, rfl⟩ := h
  exact congr rfl

theorem put {id : Uuid} {u v : UserService} (hu : b.userService? id = some u) (h : Visits g u v) :
    Visited g b (b.putUserService id v) := by
  intro id'
  rw [userService?_putUserService]
  by_cases hid : id = id'
  · subst hid
    rw [if_pos rfl, hu]
    exact .some h
  · rw [if_neg hid]
    exact refl b id'

/-- A change of a record after collaborators were told something. -/
theorem told_put {id : Uuid} {u v : UserService} (ht : b.Told c) (hu : b.userService? id = some u)
    (h : Visits g u v) : Visited g b (c.putUserService id v) := by
  have hc : c.userService? id = some u := by
    obtain ⟨notices, rfl⟩ := ht
    exact hu
  exact (told ht).trans (put hc h)

/-- User services stay under their own ids. -/
theorem keyed (hg : Outline g) (h : Visited g b c) (hb : b.Keyed) : c.Keyed := by
  intro id v hv
  have hid := h id
  rw [hv] at hid
  generalize hbefore : b.userService? id = before at hid
  cases hid with
  | some hvisits => exact (hvisits.uuid hg).trans (hb id _ hbefore)

end Visited

/-! ## The operations of the backend -/

/-- A change of the record of a user service that is open to actors. -/
theorem revise_attended {α : Type} {id : Uuid} {u : UserService}
    {fn : UserService → Broker → Except StoreError α × UserService × Broker} (hu : b.userService? id = some u)
    (hvalid : u.state.isValid) (hfn : g (fn u b).2.1 = g u ∧ b.Told (fn u b).2.2) :
    Visited g b (revise id fn b).2 := by
  rw [revise_eq hu]
  exact .told_put hfn.2 hu (Visit.attended hvalid hfn.1).visits

theorem prepareActor_visited (hg : Outline g) (h : b.Sparing g) {id : Uuid} {u : UserService}
    (hu : b.userService? id = some u) (hvalid : u.state.isValid) (version : String) :
    Visited g b (prepareActor id version b).2 := by
  obtain ⟨fn, hfn, hshown⟩ := prepareActor_revises hg.lasting id version
  rw [hfn]
  exact revise_attended hu hvalid (hshown u b h.hooks)

theorem commitReady_visited (hg : Outline g) (h : b.Sparing g) {report : ReadyReport} {u : UserService}
    (hu : b.userService? report.userService = some u) (hvalid : u.state.isValid) (now : Instant) :
    Visited g b (commitReady report now b).2 := by
  obtain ⟨fn, hfn, hshown⟩ := commitReady_revises hg.lasting report now
  rw [hfn]
  exact revise_attended hu hvalid (hshown u b h.hooks)

theorem openSession_visited (hg : Outline g) (h : b.Sparing g) (token username sessionId : String)
    (now : Instant) : Visited g b (openSession token username sessionId now b).2 := by
  unfold openSession
  cases hu : b.validUserService? token with
  | none => exact .refl b
  | some u =>
    obtain ⟨hfound, hvalid⟩ := h.kept.validUserService? hu
    have hm : ∀ m, (b.pools.get? u.pool).bind (·.osManager) = some m → m.Spares g :=
      fun m hm => h.hooks.of_pool hm
    refine revise_attended hfound hvalid ⟨?_, enterUse_told u username now b⟩
    have hopened : g ((enterUse u (b.osManager? u.pool) username now b).1.startSession sessionId now) =
        g (enterUse u (b.osManager? u.pool) username now b).1 := hg.same rfl rfl rfl
    exact hopened.trans (enterUse_shown hg.lasting hm u username now b)

theorem closeSession_visited (hg : Outline g) (h : b.Sparing g) (token username sessionId : String)
    (now : Instant) : Visited g b (closeSession token username sessionId now b).2 := by
  unfold closeSession
  cases hu : b.validUserService? token with
  | none => exact .refl b
  | some u =>
    obtain ⟨hfound, hvalid⟩ := h.kept.validUserService? hu
    have hm : ∀ m, b.osManager? u.pool = some m → m.Spares g := fun m hm => h.hooks.of_pool hm
    have hclosed : g (u.endSession sessionId now) = g u := hg.same rfl rfl rfl
    refine revise_attended hfound hvalid ⟨?_, leaveUse_told _ username now b⟩
    exact (leaveUse_shown hg.lasting hm (u.endSession sessionId now) username now b).trans hclosed

theorem release_visited (id : Uuid) (now : Instant) : Visited g b (release id now b).2 := by
  unfold release
  cases hu : b.userService? id with
  | none =>
    unfold revise
    rw [hu]
    exact .refl b
  | some u =>
    rw [revise_eq hu, UserService.release_eq]
    cases ht : u.state.isTerminal with
    | true => exact .put hu .refl
    | false => exact .put hu (Visit.released ht now).visits

theorem recordVersion_visited (token version ip : String) (b : Broker) :
    Visited g b (b.recordVersion token version ip).2 := by
  unfold recordVersion
  cases Uuid.parse? token with
  | none => exact .refl b
  | some id =>
    dsimp only
    cases hu : b.userService? id with
    | none => exact .refl b
    | some u => exact .put hu (Visit.reported version _).visits

/-! ## From one broker on -/

/-- The OS managers of the second broker are sparing, and it has come about from the first one by visits. -/
structure Onward (g : UserService → γ) (a b : Broker) : Prop where
  sparing : b.Sparing g
  visited : Visited g a b

namespace Onward

theorem start (h : a.Sparing g) : Onward g a a := ⟨h, .refl a⟩

theorem congr (h : Onward g a b) (hu : c.userServices = b.userServices) (hp : c.pools = b.pools) :
    Onward g a c where
  sparing := h.sparing.congr hu hp
  visited := h.visited.trans (.congr hu)

/-- An operation that changes records, and these by visits. -/
theorem revised (hg : Outline g) (h : Onward g a b) (hrevised : b.Revised c) (hvisited : Visited g b c) :
    Onward g a c where
  sparing :=
    { distinct := hrevised.distinct h.sparing.distinct
      keyed := hvisited.keyed hg h.sparing.keyed
      hooks := h.sparing.hooks.congr hrevised.pools }
  visited := h.visited.trans hvisited

theorem keeps (hg : Outline g) {α : Type} {m : StoreM Broker α} (hrevised : ∀ b : Broker, Keeps b.Revised m)
    (hvisited : ∀ b : Broker, b.Sparing g → Visited g b (m b).2) : Keeps (Onward g a) m :=
  fun b h => h.revised hg (hrevised b b (.refl b)) (hvisited b h.sparing)

theorem reading {α : Type} (f : Broker → α) : Keeps (Onward g a) (reading f) := reading_keeps f

theorem storeActor (identity : ActorIdentity) : Keeps (Onward g a) (backend.storeActor identity) :=
  writing_keeps fun _ h => h.congr rfl rfl

theorem createAlias (record : ServiceTokenAlias) : Keeps (Onward g a) (backend.createAlias record) :=
  writing_keeps fun _ h => h.congr rfl rfl

theorem notifyService (hg : Outline g) (notification : Notification) :
    Keeps (Onward g a) (notifyService notification) :=
  keeps hg (fun _ => notifyService_revised notification) fun b _ => .told (notifyService_told notification b)

theorem tellService (hg : Outline g) (service : Uuid) (event : ServiceEvent) :
    Keeps (Onward g a) (writing fun b => ((), b.tellService service event)) :=
  keeps hg (fun _ => tellService_revised service event) fun b _ => .told (tellService_told service event b)

theorem openSession (hg : Outline g) (token username sessionId : String) (now : Instant) :
    Keeps (Onward g a) (openSession token username sessionId now) :=
  keeps hg (fun _ => openSession_revised _ _ _ now) fun _ h => openSession_visited hg h _ _ _ now

theorem closeSession (hg : Outline g) (token username sessionId : String) (now : Instant) :
    Keeps (Onward g a) (closeSession token username sessionId now) :=
  keeps hg (fun _ => closeSession_revised _ _ _ now) fun _ h => closeSession_visited hg h _ _ _ now

theorem release (hg : Outline g) (id : Uuid) (now : Instant) : Keeps (Onward g a) (release id now) :=
  keeps hg (fun _ => release_revised id now) fun _ _ => release_visited id now

theorem recordVersion (hg : Outline g) (token version ip : String) :
    Keeps (Onward g a) (backend.recordVersion token version ip) :=
  writing_keeps fun b h => h.revised hg (recordVersion_revised token version ip b) (recordVersion_visited _ _ _ b)

theorem appendLog (token : String) (level : LogLevel) (message : String) (now : Instant) :
    Keeps (Onward g a) (backend.appendLog token level message now) := by
  refine writing_keeps fun b h => ?_
  change Onward g a (b.appendLog token level message now).2
  rcases appendLog_cases token level message now b with heq | ⟨owner, -, heq⟩
  · rwa [heq]
  · rw [heq]
    exact h.congr rfl rfl

end Onward

end Broker

/-! ## The protocols -/

open Broker
open Protocol (ofStore ofStore_keeps)
open UserService (Outline)

variable {g : UserService → γ} {a : Broker} (hg : Outline g) (issuer : Issuer) (now : Instant) (draws : Draws)

theorem Register.run_onward (request : RegisterRequest) (caller : Option StaffUser) (source : String) :
    Keeps (Onward g a) (backend.run issuer (protocol request caller source) now draws) := by
  rw [run_eq_script]
  unfold script
  cases caller.filter (·.isStaff) with
  | none => exact .throw _
  | some user =>
    refine .bind (ofStore_keeps (.reading _)) fun existing => ?_
    exact .bind (ofStore_keeps (.storeActor _)) fun _ => .pure _

include hg

/-- Telling a service about a user. -/
theorem notified_onward {α : Type} (notification : Notification) (told : α) :
    Keeps (Onward g a) (do
      match ← ofStore (notifyService notification) with
      | .ok _ => return told
      | .error reason => throw (.notify reason) : Protocol.RunM Broker α) := by
  refine .bind (ofStore_keeps (.notifyService hg notification)) fun outcome => ?_
  cases outcome with
  | ok _ => exact .pure _
  | error reason => exact .throw _

theorem Login.run_onward (request : LoginRequest) :
    Keeps (Onward g a) (backend.run issuer (protocol request) now draws) := by
  rw [run_eq_script]
  unfold script
  refine .bind (ofStore_keeps (.openSession hg _ _ _ now)) fun opened => ?_
  cases opened with
  | some session => exact .pure _
  | none =>
    dsimp only
    cases request.kind with
    | managed => exact .throw _
    | unmanaged => exact notified_onward hg (notification request) _

theorem Logout.run_onward (request : LogoutRequest) :
    Keeps (Onward g a) (backend.run issuer (protocol request) now draws) := by
  rw [run_eq_script]
  unfold script
  refine .bind (ofStore_keeps (.closeSession hg _ _ _ now)) fun closed => ?_
  cases closed with
  | some closed =>
    dsimp only
    split
    · exact .bind (ofStore_keeps (.release hg _ now)) fun _ => .pure _
    · exact .pure _
  | none =>
    dsimp only
    cases request.kind with
    | managed => exact .throw _
    | unmanaged => exact notified_onward hg (notification request) _

/-- A report of readiness goes to a user service that was found valid right before. -/
theorem Ready.run_onward (request : ReadyRequest) (clearInUse : Bool) (ciphers : Option String) :
    Keeps (Onward g a) (backend.run issuer (protocol request clearInUse ciphers) now draws) := by
  intro b hb
  have hfetch : ofStore (backend.fetchUserService request.token) b =
      (.ok ((b.validUserService? request.token).map UserService.view), b) := rfl
  rw [run_eq_script]
  unfold script
  rw [Effect.run_bind_of_ok hfetch]
  cases hu : b.validUserService? request.token with
  | none => exact hb
  | some u =>
    dsimp only [Option.map_some]
    cases issuer request.ip draws.password with
    | error reason => exact hb
    | ok bundle =>
      obtain ⟨hfound, hvalid⟩ := hb.sparing.kept.validUserService? hu
      have hcommit : Onward g a (commitReady (report request clearInUse u.view bundle) now b).2 :=
        hb.revised hg (commitReady_revised _ now b (.refl b)) (commitReady_visited hg hb.sparing hfound hvalid now)
      exact Keeps.after (P := Onward g a) hcommit fun _ => .pure _

namespace Binding

/-- An actor is prepared for a user service that was found usable or in preparation right before. -/
theorem bindTo_onward (request : BindingRequest) (ids : List String) (service : Option Uuid)
    (aliasToken : Option String) :
    Keeps (Onward g a) (bindTo backend now request ids service aliasToken) := by
  intro b hb
  let filter : UserServiceFilter := ⟨ids, service, [.usable, .preparing]⟩
  have hfind : ofStore (backend.findUserService filter) b =
      (.ok ((b.findUserService filter).map UserService.view), b) := rfl
  unfold bindTo
  rw [Effect.run_bind_of_ok hfind]
  cases hu : b.findUserService filter with
  | none => exact hb
  | some u =>
    dsimp only [Option.map_some]
    obtain ⟨hfound, hadmitted⟩ := hb.sparing.kept.found hu
    have hvalid : u.state.isValid := by
      rw [ServiceState.isValid_iff]
      simp only [Broker.admits, filter, Bool.and_eq_true, List.contains_iff_mem] at hadmitted
      simpa using hadmitted.1.2
    have hprepared : Onward g a (prepareActor u.view.uuid request.version b).2 :=
      hb.revised hg (prepareActor_revised _ _ b (.refl b))
        (prepareActor_visited hg hb.sparing hfound hvalid request.version)
    exact Keeps.after (P := Onward g a) hprepared fun _ => .pure _

omit hg in
theorem ownAlias_onward (service : Uuid) (uniqueId : String) :
    Keeps (Onward g a) (ownAlias backend draws service uniqueId) := by
  refine .bind (ofStore_keeps (.reading fun b => b.findAliasFor service uniqueId)) fun found => ?_
  cases found with
  | some found => exact .pure _
  | none => exact .bind (ofStore_keeps (.createAlias _)) fun _ => .pure _

theorem run_onward (request : BindingRequest) :
    Keeps (Onward g a) (backend.run issuer (protocol request) now draws) := by
  rw [run_eq_script]
  unfold script
  cases request.kind with
  | managed =>
    refine .bind (ofStore_keeps (.reading fun b => b.validateActorToken request.token)) fun valid => ?_
    cases valid with
    | true => exact bindTo_onward hg now request _ _ _
    | false => exact .throw _
  | unmanaged =>
    refine .bind (ofStore_keeps (.reading fun b => b.findAlias request.token)) fun found => ?_
    cases found with
    | some found => exact bindTo_onward hg now request _ _ _
    | none =>
      refine .bind (ofStore_keeps (.reading fun b => b.findService request.token false)) fun record => ?_
      cases record with
      | none => exact .throw _
      | some record =>
        dsimp only
        cases request.ids with
        | nil => exact .throw _
        | cons first rest =>
          exact .bind (ownAlias_onward draws _ _) fun token => bindTo_onward hg now request _ _ _

end Binding

namespace Unmanaged

theorem settle_onward (request : UnmanagedRequest) (service : Uuid) (id : String) :
    Keeps (Onward g a) (settle backend now request service id) := by
  refine .bind (ofStore_keeps (.reading fun b => (b.findUserService _).map UserService.view)) fun view => ?_
  cases view with
  | none => exact ofStore_keeps (.tellService hg _ _)
  | some view =>
    refine .bind (ofStore_keeps (.closeSession hg _ _ _ now)) fun closed => ?_
    cases closed with
    | none => exact .pure _
    | some closed =>
      dsimp only
      split
      · exact ofStore_keeps (.release hg _ now)
      · exact .pure _

theorem run_onward (request : UnmanagedRequest) (ciphers : Option String) :
    Keeps (Onward g a) (backend.run issuer (protocol request ciphers) now draws) := by
  rw [run_eq_script]
  unfold script
  refine .bind (ofStore_keeps (.reading fun b => b.findService request.token true)) fun record => ?_
  cases record with
  | none => exact .pure _
  | some record =>
    refine .bind (ofStore_keeps (.reading fun b => (b.unmanaged? record.id).bind (·.validId _))) fun validId => ?_
    cases inferIp request.ids validId with
    | none => exact .throw _
    | some ip =>
      dsimp only
      cases issuer ip draws.password with
      | error reason => exact .throw _
      | ok bundle =>
        cases validId with
        | none => exact .pure _
        | some id =>
          refine .bind (settle_onward hg now request _ _) fun _ => ?_
          exact .bind (ofStore_keeps (.tellService hg _ _)) fun _ => .pure _

end Unmanaged

end SessionBroker
