import SessionBroker.Crypto.TaggedXor
import SessionBroker.Proofs.Broker.Aliases
import SessionBroker.Proofs.Broker.Search
import SessionBroker.Proofs.Executor.Records
import SessionBroker.Proofs.Text.Case

/-!
# Bindings are exact

A machine is bound to a user service that goes by one of its ids: of those that are open and, if the machine is
unmanaged, belong to its service, to the one that was created first. Where there is none it is told so. Which
one it is depends on the ids that the machine reports as a set, up to the case of their letters, and on the user
services as a set.
-/

namespace SessionBroker

open Broker (backend)
open Protocol (ofStore)

namespace Binding

variable {b b' : Broker} {request request' : BindingRequest} {scope : Option Uuid} {u : UserService}

/-- The user service that the actor is told to belong to. -/
def ownToken? : Binding → Option Uuid
  | .managed own _ _ _ => some own
  | .notManaged _ => none

theorem ownToken?_eq_none {binding : Binding} :
    binding.ownToken? = none ↔ ∃ aliasToken, binding = .notManaged aliasToken := by
  cases binding with
  | managed own uniqueId os aliasToken => simp [ownToken?]
  | notManaged aliasToken => simp [ownToken?]

/-! ## The ids of a machine -/

/-- The machine may be found by the id. -/
def IsCandidate (request : BindingRequest) (id : String) : Prop :=
  id ≠ "" ∧ match request.kind with
    | .managed => ∃ entry ∈ request.ids.take 5, entry.mac = id
    | .unmanaged => (∃ entry ∈ request.ids, entry.ip = id) ∨ ∃ entry ∈ request.ids.take 10, entry.mac = id

/-- The requests name the same ids, in whatever order, however often, and in letters of either case. -/
structure SameCandidates (request request' : BindingRequest) : Prop where
  there : ∀ id, IsCandidate request id → ∃ id', IsCandidate request' id' ∧ Case.Alike id id'
  back : ∀ id', IsCandidate request' id' → ∃ id, IsCandidate request id ∧ Case.Alike id id'

theorem SameCandidates.symm (h : SameCandidates request request') : SameCandidates request' request where
  there id' hid' := (h.back id' hid').imp fun _ hid => ⟨hid.1, hid.2.symm⟩
  back id hid := (h.there id hid).imp fun _ hid' => ⟨hid'.1, hid'.2.symm⟩

/-- The ids that the user service is searched by. -/
def searchIds (request : BindingRequest) : List String :=
  match request.kind with
  | .managed => managedIds request
  | .unmanaged => unmanagedIds request

theorem mem_searchIds {id : String} : id ∈ searchIds request ↔
    ∃ candidate, IsCandidate request candidate ∧ (id = Case.upper candidate ∨ id = Case.lower candidate) := by
  unfold searchIds IsCandidate
  cases request.kind with
  | managed =>
    dsimp only
    unfold managedIds
    simp only [mem_foldCases, managedIdLimit, List.mem_filter, List.mem_map, decide_eq_true_eq,
      and_comm (b := _ ≠ "")]
  | unmanaged =>
    dsimp only
    unfold unmanagedIds candidateIds
    simp only [mem_foldCases, List.mem_filter, List.mem_append, List.mem_map, decide_eq_true_eq,
      and_comm (b := _ ≠ "")]

/-! ## The user services of a request -/

/-- A request is let through to the user services: a managed one to those of all services, an unmanaged one to
those of the service that its alias belongs to. -/
inductive Resolves (b : Broker) (request : BindingRequest) : Option Uuid → Prop
  | managed (hkind : request.kind = .managed) (hvalid : b.validateActorToken request.token = true) :
      Resolves b request none
  /-- The token is an alias. -/
  | known {found} (hkind : request.kind = .unmanaged) (hfound : b.findAlias request.token = some found) :
      Resolves b request (some found.service)
  /-- The token is the master token of a service, which has or gets an alias for the machine. -/
  | master {record} (hkind : request.kind = .unmanaged) (hunknown : b.findAlias request.token = none)
      (hrecord : b.serviceByMaster request.token = some record) (hids : request.ids ≠ []) :
      Resolves b request (some record.id)

/-- A user service that the request may be bound to. -/
structure Eligible (b : Broker) (request : BindingRequest) (scope : Option Uuid) (u : UserService) : Prop where
  kept : b.userService? u.uuid = some u
  usable : u.state = .usable ∨ u.state = .preparing
  named : ∃ id, IsCandidate request id ∧ (u.uniqueId = Case.upper id ∨ u.uniqueId = Case.lower id)
  inScope : ∀ service, scope = some service →
    ∃ entry, b.pools.get? u.pool = some entry ∧ entry.pool.service = service

def search (request : BindingRequest) (scope : Option Uuid) : UserServiceFilter :=
  ⟨searchIds request, scope, [.usable, .preparing]⟩

theorem inScope_iff (pool : Uuid) : b.inScope scope pool = true ↔
    ∀ service, scope = some service → ∃ entry, b.pools.get? pool = some entry ∧ entry.pool.service = service := by
  unfold Broker.inScope
  cases scope with
  | none => simp
  | some service => cases b.pools.get? pool <;> simp

theorem eligible_iff : Eligible b request scope u ↔ b.Admitted (search request scope) u := by
  have hadmits : b.admits (search request scope) u = true ↔
      u.uniqueId ∈ searchIds request ∧ (u.state = .usable ∨ u.state = .preparing) ∧
        b.inScope scope u.pool = true := by
    simp [Broker.admits, search, and_assoc]
  rw [mem_searchIds, inScope_iff] at hadmits
  constructor
  · exact fun h => ⟨h.kept, hadmits.mpr ⟨h.named, h.usable, h.inScope⟩⟩
  · intro h
    obtain ⟨hnamed, husable, hscope⟩ := hadmits.mp h.admits
    exact ⟨h.kept, husable, hnamed, hscope⟩

/-- What may be bound is a matter of the sets of user services and ids. -/
theorem Eligible.reordered (h : b.Kept) (hb : b.Reordered b') (hids : SameCandidates request request')
    (hu : Eligible b request scope u) : Eligible b' request' scope u where
  kept := (h.userService?_reordered hb u).mpr hu.kept
  usable := hu.usable
  named := by
    obtain ⟨id, hid, hcase⟩ := hu.named
    obtain ⟨id', hid', halike⟩ := hids.there id hid
    refine ⟨id', hid', ?_⟩
    rw [← halike.upper, ← halike.lower]
    exact hcase
  inScope := by
    simpa only [hb.pools] using hu.inScope

theorem eligible_reordered (h : b.Kept) (hb : b.Reordered b') (hids : SameCandidates request request') :
    Eligible b request scope u ↔ Eligible b' request' scope u :=
  ⟨.reordered h hb hids, .reordered (h.reordered hb) hb.symm hids.symm⟩

/-! ## What a request is bound to -/

section Run

variable (issuer : Issuer) (now : Instant) (draws : Draws)

theorem bindTo_finds (h : b.Kept) (ids : List String) (scope : Option Uuid) (token : Option String) :
    ∃ binding after, bindTo backend now request ids scope token b = (.ok binding, after) ∧
      binding.ownToken? = (b.findUserService ⟨ids, scope, [.usable, .preparing]⟩).map (·.uuid) := by
  have hfind : ofStore (backend.findUserService ⟨ids, scope, [.usable, .preparing]⟩) b =
      (.ok ((b.findUserService ⟨ids, scope, [.usable, .preparing]⟩).map UserService.view), b) := rfl
  unfold bindTo
  rw [Effect.run_bind_of_ok hfind]
  cases hu : b.findUserService ⟨ids, scope, [.usable, .preparing]⟩ with
  | none => exact ⟨_, _, rfl, rfl⟩
  | some u =>
    obtain ⟨actor, after, hactor⟩ :=
      Broker.prepareActor_ok (h.findUserService_eq_some.mp hu).1.kept request.version
    have hprepare : ofStore (backend.prepareActor u.view.uuid request.version now) b = (.ok actor, after) :=
      Protocol.ofStore_of_ok hactor
    dsimp only [Option.map_some]
    rw [Effect.run_bind_of_ok hprepare]
    exact ⟨_, _, rfl, rfl⟩

/-- The alias of a machine is found or made, and nothing else is changed. -/
theorem ownAlias_ok (service : Uuid) (id : String) (b : Broker) :
    ∃ token aliases, ownAlias backend draws service id b = (.ok token, { b with aliases := aliases }) := by
  have hlook : ofStore (backend.findAliasFor service id) b = (.ok (b.findAliasFor service id), b) := rfl
  unfold ownAlias
  rw [Effect.run_bind_of_ok hlook]
  cases b.findAliasFor service id with
  | some found => exact ⟨found.alias, b.aliases, rfl⟩
  | none => exact ⟨draws.token, _, rfl⟩

/-- A request that is let through gets an answer, and is bound to what the search finds. -/
theorem run_finds (h : b.Kept) (hresolves : Resolves b request scope) :
    ∃ binding after, backend.run issuer (protocol request) now draws b = (.ok binding, after) ∧
      binding.ownToken? = (b.findUserService (search request scope)).map (·.uuid) := by
  rw [run_eq_script]
  unfold script search searchIds
  cases hresolves with
  | managed hkind hvalid =>
    have hlook : ofStore (backend.validateActorToken request.token) b = (.ok true, b) := by
      rw [← hvalid]
      rfl
    simp only [hkind]
    rw [Effect.run_bind_of_ok hlook]
    exact bindTo_finds now h _ _ _
  | known hkind hfound =>
    have hlook : ofStore (backend.findAlias request.token) b = (.ok (b.findAlias request.token), b) := rfl
    simp only [hkind]
    rw [Effect.run_bind_of_ok hlook, hfound]
    exact bindTo_finds now h _ _ _
  | @master record hkind hunknown hrecord hids =>
    have hlook : ofStore (backend.findAlias request.token) b = (.ok (b.findAlias request.token), b) := rfl
    have hservice : ofStore (backend.findService request.token false) b = (.ok (some record), b) := by
      rw [← hrecord, ← b.findService_direct]
      rfl
    obtain ⟨first, rest, hids⟩ := List.exists_cons_of_ne_nil hids
    obtain ⟨token, aliases, halias⟩ := ownAlias_ok draws record.id (aliasId first) b
    -- the search comes after the alias was made, but does not look at aliases
    have hkept : { b with aliases := aliases }.Kept := ⟨h.distinct, h.keyed⟩
    simp only [hkind]
    rw [Effect.run_bind_of_ok hlook, hunknown]
    dsimp only
    rw [Effect.run_bind_of_ok hservice]
    simp only [hids]
    rw [Effect.run_bind_of_ok halias]
    exact bindTo_finds now hkept _ _ _

/-- It is the first of those that it may be bound to. -/
theorem run_binds (h : b.Kept) (hresolves : Resolves b request scope) :
    ∃ binding after, backend.run issuer (protocol request) now draws b = (.ok binding, after) ∧
      (∀ own, binding.ownToken? = some own ↔ ∃ u, Eligible b request scope u ∧ u.uuid = own ∧
        ∀ v, Eligible b request scope v → u.seniority ≤ v.seniority) ∧
      (binding.ownToken? = none ↔ ∀ u, ¬ Eligible b request scope u) := by
  obtain ⟨binding, after, hrun, hown⟩ := run_finds issuer now draws h hresolves
  refine ⟨binding, after, hrun, fun own => ?_, ?_⟩
  · simp only [hown, Option.map_eq_some_iff, eligible_iff]
    exact exists_congr fun u => by rw [h.findUserService_eq_some, and_right_comm, and_assoc]
  · rw [hown, Option.map_eq_none_iff, h.findUserService_eq_none]
    simp only [eligible_iff]

end Run

end Binding

namespace Executor

open Binding (Eligible Resolves SameCandidates)

/-- A request that is let through is answered with the user service that was created first among those that it may
be bound to, the smaller id deciding between two created together, and with none exactly where there is none. The
answer is the same for every request that names the same ids and is let through to the same user services, in
whatever order these are kept, and whatever the time, the alias and the random values. -/
theorem binding_exact {config : BrokerConfig} {cipher : Cipher} {issuer : Issuer} {s : State Broker TicketTable}
    (hs : Attainable (inMemory config cipher issuer) s) {request : BindingRequest} {scope : Option Uuid}
    (hresolves : Resolves s.backend request scope) (now : Instant) (draws : Draws) :
    let answer := fun b request now draws => (Broker.backend.run issuer (Binding.protocol request) now draws b).1
    ∃ binding, answer s.backend request now draws = .ok binding ∧
      (∀ own, binding.ownToken? = some own ↔ ∃ u, Eligible s.backend request scope u ∧ u.uuid = own ∧
        ∀ v, Eligible s.backend request scope v → u.seniority ≤ v.seniority) ∧
      ((∃ aliasToken, binding = .notManaged aliasToken) ↔ ∀ u, ¬ Eligible s.backend request scope u) ∧
      ∀ b' request' now' draws', s.backend.Reordered b' → Resolves b' request' scope →
        SameCandidates request request' →
          ∃ binding', answer b' request' now' draws' = .ok binding' ∧ binding'.ownToken? = binding.ownToken? := by
  intro answer
  have hkept := hs.kept
  obtain ⟨binding, after, hrun, hown, hnone⟩ := Binding.run_binds issuer now draws hkept hresolves
  refine ⟨binding, congrArg Prod.fst hrun, hown, Binding.ownToken?_eq_none.symm.trans hnone, ?_⟩
  intro b' request' now' draws' hb hresolves' hids
  obtain ⟨binding', after', hrun', hown', -⟩ :=
    Binding.run_binds issuer now' draws' (hkept.reordered hb) hresolves'
  refine ⟨binding', congrArg Prod.fst hrun', Option.ext fun own => ?_⟩
  rw [hown, hown']
  simp only [Binding.eligible_reordered hkept hb hids]

def trialOwner : ServiceRecord := ⟨.nil, "lab", some "master"⟩

/-- A service with two user services that go by one id in either case. -/
def trialTwins : List Event :=
  let provider : Provider := ⟨true, fun _ => .finished⟩
  [.administer (.addService trialOwner none),
    .administer (.addPool ⟨.nil, .nil, "pool", none⟩ (some OsPolicy.standard.manager) ⟨.zero, 0⟩),
    .administer (.addUserService (.fresh .nil .nil "AA:BB" "late" .l1 (.ofMs 2000)) provider .epoch),
    .administer (.addUserService
      (.fresh ⟨List.replicate 32 ⟨1, by decide⟩, rfl⟩ .nil "aa:bb" "early" .l1 (.ofMs 1000)) provider .epoch)]

/-- A machine of the service asks for its binding. -/
def trialMachine (macs : List String) : BindingRequest := ⟨.unmanaged, "4.0.0", "master", macs.map (⟨·, ""⟩)⟩

/-- The id in one letter case, and twice in others. -/
theorem trialMachine_same : SameCandidates (trialMachine ["Aa:bB"]) (trialMachine ["AA:bb", "aA:BB"]) := by
  have hcandidate (macs : List String) (id : String) :
      Binding.IsCandidate (trialMachine macs) id ↔ id ≠ "" ∧ id ∈ macs.take 10 := by
    simp only [Binding.IsCandidate, trialMachine, ← List.map_take, List.mem_map]
    grind
  refine ⟨fun id hid => ?_, fun id hid => ?_⟩
  · obtain ⟨-, hid⟩ := (hcandidate _ _).mp hid
    obtain rfl := List.mem_singleton.mp hid
    exact ⟨"AA:bb", (hcandidate _ _).mpr (by decide), by decide⟩
  · refine ⟨"Aa:bB", (hcandidate _ _).mpr (by decide), ?_⟩
    obtain ⟨-, hid⟩ := (hcandidate _ _).mp hid
    rcases List.mem_cons.mp hid with rfl | hid
    · decide
    · obtain rfl := List.mem_singleton.mp hid
      decide

/-- The machine belongs to the earlier of the two. So it does where they are kept the other way round and it names
its id twice and in other letters. -/
theorem binding_exact_twins :
    let x := inMemory .standard TaggedXor.cipher trialIssuer
    let b := (x.after trialTwins .initial).backend
    let once := trialMachine ["Aa:bB"]
    let early : Uuid := ⟨List.replicate 32 1, rfl⟩
    Attainable x (x.after trialTwins .initial) ∧ Resolves b once (some trialOwner.id) ∧
      (∃ u, Eligible b once (some trialOwner.id) u ∧ u.uuid = early ∧
        ∀ v, Eligible b once (some trialOwner.id) v → u.seniority ≤ v.seniority) ∧
      ∃ binding, (Broker.backend.run trialIssuer (Binding.protocol (trialMachine ["AA:bb", "aA:BB"])) .epoch
        ⟨"other", "", ""⟩ { b with userServices := b.userServices.reverse }).1 = .ok binding ∧
          binding.ownToken? = some early := by
  intro x b once early
  have hmanager : OsPolicy.standard.manager.Spares UserService.uuid :=
    OsPolicy.standard.manager_spares UserService.uuid_lasting
  have hs : Attainable x (x.after trialTwins .initial) := by
    refine .after .start ?_
    simp [trialTwins, Event.SparesShown, Broker.Task.Hooks, Broker.Task.Edits, hmanager]
  have hrecord : b.serviceByMaster "master" = some trialOwner := rfl
  have hresolves : Resolves b once (some trialOwner.id) := .master rfl rfl hrecord (List.cons_ne_nil _ _)
  obtain ⟨binding, hrun, hfirst, -, hsame⟩ := binding_exact hs hresolves .epoch ⟨"alias", "", ""⟩
  have hearly : (Broker.backend.run trialIssuer (Binding.protocol once) .epoch ⟨"alias", "", ""⟩ b).1.toOption.bind
      Binding.ownToken? = some early := by decide +kernel
  have hown : binding.ownToken? = some early := by
    rw [← hearly]
    exact congrArg (fun answer => Option.bind (Except.toOption answer) Binding.ownToken?) hrun.symm
  refine ⟨hs, hresolves, (hfirst early).mp hown, ?_⟩
  rw [← hown]
  exact hsame _ (trialMachine _) .epoch ⟨"other", "", ""⟩ ⟨List.reverse_perm _, fun _ => rfl⟩
    (.master rfl rfl hrecord (List.cons_ne_nil _ _)) trialMachine_same

end Executor

end SessionBroker
