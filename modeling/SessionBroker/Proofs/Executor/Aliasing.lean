import SessionBroker.Proofs.Broker.Aliases
import SessionBroker.Proofs.Executor.Direct
import SessionBroker.Proofs.Executor.Entries
import SessionBroker.Proofs.Executor.Guessing

/-!
# Aliases over a run

An unmanaged machine that shows the master token of its service is told one alias, however often it asks and
whatever happens in between, and one that shows an alias is told that alias. `Dealt` follows a run from one broker
to another by the bindings that succeeded; it composes along the run, and needs of each event only that an alias
which it makes is new.
-/

namespace SessionBroker.Executor

open Binding (aliasId Named)

/-! ## One call -/

section Call

variable (config : BrokerConfig) (cipher : Cipher) (issuer : Issuer) (ctx : RequestContext) (draws : Draws)
  {params : Json} (s : State Broker TicketTable)

/-- The call comes to what a binding can come to. What the guard holds back is a refusal like any other. -/
theorem handle_bindActor {request : BindingRequest} (h : (fromJson params : Decoded BindingRequest) = .ok request) :
    let done := (inMemory config cipher issuer).handle ctx draws .bindActor params s
    ∃ outcome, Named s.backend draws request outcome done.2.backend.aliases ∧
      ∀ reply, done.1 = .ok reply → ∃ binding, outcome = .ok binding ∧ reply.result = binding.toJson := by
  have hguarded : Action.bypassesGuard .bindActor = false := rfl
  have hnamed := Binding.run_named issuer ctx.now draws request s.backend
  rw [handle_eq]
  dsimp only
  rw [hguarded, if_neg Bool.false_ne_true]
  split
  · exact ⟨.error .accessDenied, .refused _, fun reply hreply => by cases hreply⟩
  · rw [dispatch_bindActor ctx s draws h]
    cases hrun : Broker.backend.run issuer (Binding.protocol request) ctx.now draws s.backend with
    | mk outcome b =>
      rw [hrun] at hnamed
      refine ⟨outcome, ?_, ?_⟩
      · cases outcome <;> exact hnamed
      · intro reply hreply
        cases outcome with
        | ok binding =>
          cases hreply
          exact ⟨binding, rfl, rfl⟩
        | error e => cases hreply

/-- Parameters that cannot be read bring nothing about. -/
theorem handle_bindActor_unread {e : DecodeError} (h : (fromJson params : Decoded BindingRequest) = .error e) :
    ((inMemory config cipher issuer).handle ctx draws .bindActor params s).2.backend = s.backend := by
  have hguarded : Action.bypassesGuard .bindActor = false := rfl
  have hdispatch : (inMemory config cipher issuer).dispatch ctx draws .bindActor params s =
      (.error (.ofDecode e), s) := Effect.run_bind_of_error (parameters_of_error h s) _
  rw [handle_eq]
  dsimp only
  rw [hguarded, if_neg Bool.false_ne_true, hdispatch]
  split <;> rfl

end Call

/-! ## One event -/

/-- A binding of an unmanaged machine that succeeded. -/
structure Bound where
  request : BindingRequest
  result : Json

namespace Event

/-- The binding that comes about by the event. -/
def bound? (x : Executor Broker TicketTable) (s : State Broker TicketTable) (event : Event) : Option Bound :=
  (event.request? .bindActor).bind fun (ctx, draws, params) =>
    match (fromJson params : Decoded BindingRequest), (x.handle ctx draws .bindActor params s).1 with
    | .ok request, .ok reply => if request.kind = .unmanaged then some ⟨request, reply.result⟩ else none
    | _, _ => none

/-- An ordinary event with which no service comes. -/
def Settled (event : Event) : Prop :=
  event.Ordinary ∧ ∀ record unmanaged, event ≠ .administer (.addService record unmanaged)

/-- An alias that the event makes is none that is there already, and no master token. -/
def MintsNew (x : Executor Broker TicketTable) (s : State Broker TicketTable) (event : Event) : Prop :=
  ∀ parts ∈ event.request? .bindActor, (event.happen x s).backend.aliases ≠ s.backend.aliases →
    s.backend.findAlias parts.2.1.token = none ∧ parts.2.1.token ∉ s.backend.masters

instance (x : Executor Broker TicketTable) (s : State Broker TicketTable) (event : Event) :
    Decidable (event.MintsNew x s) :=
  inferInstanceAs (Decidable (∀ parts ∈ event.request? .bindActor, _))

end Event

/-! ## Runs -/

/-- The bindings of unmanaged machines that come about in a run, in order. -/
def bindings (x : Executor Broker TicketTable) : List Event → State Broker TicketTable → List Bound :=
  x.gather (Event.bound? x)

/-- Who showed the master token of the service was told an alias of that service and of its first id. -/
def Bound.Deals (a b : Broker) (r : Bound) : Prop :=
  ∀ record, a.serviceByMaster r.request.token = some record →
    ∃ first token, r.request.ids.head? = some first ∧ r.result.get? "master_token" = some (.str token) ∧
      b.findAlias token = some ⟨token, record.id, some (aliasId first)⟩

/-- The second broker has come about from the first one by bindings. -/
structure Dealt (a b : Broker) (made : List Bound) : Prop where
  services : b.services = a.services
  aliased : b.Aliased
  kept : ∀ token found, a.findAlias token = some found → b.findAlias token = some found
  answered : ∀ r ∈ made, r.Deals a b

namespace Dealt

variable {a b c : Broker} {made made' : List Bound}

/-- No alias came. -/
theorem refl (h : a.Aliased) (hservices : b.services = a.services) (haliases : b.aliases = a.aliases) :
    Dealt a b [] where
  services := hservices
  aliased := h.congr hservices haliases
  kept token found hfound := by
    unfold Broker.findAlias at hfound ⊢
    rwa [haliases]
  answered r hr := absurd hr List.not_mem_nil

theorem trans (h : Dealt a b made) (h' : Dealt b c made') : Dealt a c (made ++ made') where
  services := h'.services.trans h.services
  aliased := h'.aliased
  kept token found hfound := h'.kept token found (h.kept token found hfound)
  answered r hr record hrecord := by
    rcases List.mem_append.mp hr with hr | hr
    · obtain ⟨first, token, hfirst, hresult, hfound⟩ := h.answered r hr record hrecord
      exact ⟨first, token, hfirst, hresult, h'.kept _ _ hfound⟩
    · refine h'.answered r hr record ?_
      unfold Broker.serviceByMaster at hrecord ⊢
      rwa [h.services]

variable {draws : Draws} {request : BindingRequest} {outcome : Except ProtocolError Binding}

/-- What a binding does to the aliases. -/
theorem of_named (h : a.Aliased) (hservices : b.services = a.services)
    (hnamed : Named a draws request outcome b.aliases)
    (hnew : b.aliases ≠ a.aliases → a.findAlias draws.token = none ∧ draws.token ∉ a.masters) : Dealt a b [] := by
  generalize haliases : b.aliases = aliases at hnamed hnew
  cases hnamed with
  | managed | known | refused | owned => exact refl h hservices haliases
  | @made record first _ hunknown hrecord hfirst hnone htells =>
    obtain ⟨hfree, hmaster⟩ := hnew (Broker.createAlias_ne hnone)
    refine ⟨hservices, (h.createAlias hfree hmaster hnone).congr hservices haliases, fun token found hfound => ?_,
      fun r hr => absurd hr List.not_mem_nil⟩
    have hne : draws.token ≠ token := by
      rintro rfl
      rw [hfree] at hfound
      cases hfound
    have hafter := a.findAlias_createAlias ⟨draws.token, record.id, some (aliasId first)⟩ token
    rw [if_neg hne, hfound] at hafter
    unfold Broker.findAlias at hafter ⊢
    rwa [haliases]

/-- What the machine is told. -/
theorem answer (h : a.Aliased) (hdealt : Dealt a b []) (hkind : request.kind = .unmanaged) {binding : Binding}
    (hnamed : Named a draws request (.ok binding) b.aliases) : Dealt a b [⟨request, binding.toJson⟩] := by
  refine ⟨hdealt.services, hdealt.aliased, hdealt.kept, fun r hr record hrecord => ?_⟩
  rw [List.mem_singleton.mp hr] at hrecord ⊢
  have hmaster := h.apart _ (Broker.mem_masters_of_serviceByMaster hrecord)
  dsimp only at hrecord hmaster ⊢
  rw [Binding.toJson_masterToken]
  generalize haliases : b.aliases = aliases at hnamed
  cases hnamed with
  | managed hmanaged =>
    rw [hkind] at hmanaged
    cases hmanaged
  | known hfound =>
    rw [hmaster] at hfound
    cases hfound
  | @owned record' first found _ hunknown hrecord' hfirst hfound htells =>
    cases hrecord.symm.trans hrecord'
    rw [htells binding rfl]
    exact ⟨first, found.alias, hfirst, rfl, hdealt.kept _ _ (h.findAlias_of_for hfound)⟩
  | @made record' first _ hunknown hrecord' hfirst hnone htells =>
    cases hrecord.symm.trans hrecord'
    rw [htells binding rfl]
    refine ⟨first, draws.token, hfirst, rfl, ?_⟩
    have hafter := a.findAlias_createAlias ⟨draws.token, record.id, some (aliasId first)⟩ draws.token
    rw [if_pos rfl] at hafter
    unfold Broker.findAlias at hafter ⊢
    rwa [haliases]

end Dealt

section Runs

variable {config : BrokerConfig} {cipher : Cipher} {issuer : Issuer} {events : List Event}
  {s : State Broker TicketTable}

theorem Event.happen_dealt {event : Event} (hsettled : event.Settled)
    (hnew : event.MintsNew (inMemory config cipher issuer) s) (h : s.backend.Aliased) :
    Dealt s.backend (event.happen (inMemory config cipher issuer) s).backend
      (event.bound? (inMemory config cipher issuer) s).toList := by
  have hservices : (event.happen (inMemory config cipher issuer) s).backend.services = s.backend.services :=
    happen_services hsettled.1 hsettled.2
  unfold bound?
  cases hrequest : event.request? .bindActor with
  | none => exact .refl h hservices (happen_aliases hsettled.1 hrequest)
  | some parts =>
    obtain ⟨ctx, draws, params⟩ := parts
    have hnew := hnew _ hrequest
    rw [request?_eq_some.mp hrequest] at hservices hnew ⊢
    change Dealt _ ((inMemory config cipher issuer).handle ctx draws .bindActor params s).2.backend _
    rw [Option.bind_some]
    dsimp only
    cases hr : (fromJson params : Decoded BindingRequest) with
    | error e =>
      have hunread := handle_bindActor_unread config cipher issuer ctx draws s hr
      exact .refl h hservices (congrArg Broker.aliases hunread)
    | ok request =>
      obtain ⟨outcome, hnamed, hreply⟩ := handle_bindActor config cipher issuer ctx draws s hr
      have hdealt := Dealt.of_named h hservices hnamed hnew
      cases hdone : ((inMemory config cipher issuer).handle ctx draws .bindActor params s).1 with
      | error e => exact hdealt
      | ok reply =>
        obtain ⟨binding, rfl, hresult⟩ := hreply reply hdone
        dsimp only
        split
        · next hkind =>
          rw [hresult]
          exact hdealt.answer h hkind hnamed
        · exact hdealt

theorem after_dealt (hsettled : ∀ event ∈ events, event.Settled)
    (hnew : Meets (inMemory config cipher issuer) (Event.MintsNew (inMemory config cipher issuer)) events s)
    (h : s.backend.Aliased) :
    let x := inMemory config cipher issuer
    Dealt s.backend (x.after events s).backend (bindings x events s) := by
  intro x
  induction events generalizing s with
  | nil => exact .refl h rfl rfl
  | cons event rest ih =>
    obtain ⟨hfirst, hrest⟩ := List.forall_mem_cons.mp hsettled
    have hevent : Dealt s.backend (event.happen x s).backend (event.bound? x s).toList :=
      event.happen_dealt hfirst hnew.1 h
    exact hevent.trans (ih hrest hnew.2 hevent.aliased)

/-! ## Machines keep their aliases -/

/-- Who shows an alias is told that alias, and none is made. -/
def KeepsAliases (x : Executor Broker TicketTable) (t : State Broker TicketTable) : Prop :=
  ∀ ctx draws params request reply, (fromJson params : Decoded BindingRequest) = .ok request →
    request.kind = .unmanaged → (t.backend.findAlias request.token).isSome →
    (x.handle ctx draws .bindActor params t).1 = .ok reply →
      reply.result.get? "master_token" = some (.str request.token) ∧
      (x.handle ctx draws .bindActor params t).2.backend.aliases = t.backend.aliases

theorem keepsAliases_of_aliased {t : State Broker TicketTable} (h : t.backend.Aliased) :
    KeepsAliases (inMemory config cipher issuer) t := by
  intro ctx draws params request reply hr hkind hshown hreply
  obtain ⟨shown, hshown⟩ := Option.isSome_iff_exists.mp hshown
  obtain ⟨outcome, hnamed, hbound⟩ := handle_bindActor config cipher issuer ctx draws t hr
  obtain ⟨binding, rfl, hresult⟩ := hbound reply hreply
  rw [hresult, Binding.toJson_masterToken]
  generalize ((inMemory config cipher issuer).handle ctx draws .bindActor params t).2.backend.aliases = aliases
    at hnamed ⊢
  cases hnamed with
  | managed hmanaged =>
    rw [hkind] at hmanaged
    cases hmanaged
  | known hfound htells =>
    cases hshown.symm.trans hfound
    rw [htells binding rfl, h.alias_of_find hfound]
    exact ⟨rfl, rfl⟩
  | owned hunknown | made hunknown =>
    rw [hshown] at hunknown
    cases hunknown

/-- The first id of a machine, read off the entries that it sends. -/
theorem head_aliasId_iff {ids : List IdEntry} {id : String} : ids.head?.map aliasId = some id ↔
    ∃ first rest, ids = first :: rest ∧ id = if first.mac = "" then first.ip else first.mac := by
  constructor
  · intro h
    obtain ⟨first, hhead, rfl⟩ := Option.map_eq_some_iff.mp h
    obtain ⟨rest, hids⟩ := List.head?_eq_some_iff.mp hhead
    exact ⟨first, rest, hids, rfl⟩
  · rintro ⟨first, rest, rfl, rfl⟩
    rfl

/-- In a run that starts without aliases, over services with different master tokens, and in which each alias that
is made is new, no two aliases of a service ever go by one id. Machines that show the master token of the service
under one first id, which is the MAC of the first entry that they send or its address where that has no MAC, are all
told one alias, which is an alias of that service and id, and who shows an alias is told the same one. -/
theorem aliases_stable (hstart : s.backend.aliases = []) (hmasters : s.backend.masters.Nodup)
    (hsettled : ∀ event ∈ events, event.Settled)
    (hnew : Meets (inMemory config cipher issuer) (Event.MintsNew (inMemory config cipher issuer)) events s) :
    let x := inMemory config cipher issuer
    Throughout x (fun t => t.backend.aliasOwners.Nodup ∧ KeepsAliases x t) events s ∧
    ∀ entry ∈ s.backend.services.values, ∀ master, entry.record.token = some master → ∀ id, ∃ token,
      ∀ r ∈ bindings x events s, r.request.token = master →
        (∃ first rest, r.request.ids = first :: rest ∧ id = if first.mac = "" then first.ip else first.mac) →
        r.result.get? "master_token" = some (.str token) ∧
        (x.after events s).backend.findAlias token = some ⟨token, entry.record.id, some id⟩ := by
  intro x
  have hempty : s.backend.Aliased := .of_empty hstart
  have hdealt : Dealt s.backend (x.after events s).backend (bindings x events s) :=
    after_dealt hsettled hnew hempty
  constructor
  · have haliased : Throughout x (fun t => t.backend.Aliased) events s :=
      throughout_of_meets (fun t event hsettled hnew h => (event.happen_dealt hsettled hnew h).aliased)
        hempty hsettled hnew
    exact haliased.mono fun t h => ⟨h.single, keepsAliases_of_aliased h⟩
  · intro entry hentry master hmaster id
    simp only [← head_aliasId_iff]
    -- what one such machine is told
    have told (r : Bound) (hr : r ∈ bindings x events s) (hshown : r.request.token = master)
        (hid : r.request.ids.head?.map aliasId = some id) :
        ∃ token, r.result.get? "master_token" = some (.str token) ∧
          (x.after events s).backend.findAlias token = some ⟨token, entry.record.id, some id⟩ := by
      have hrecord := Broker.serviceByMaster_of_mem hmasters hentry hmaster
      obtain ⟨first, token, hfirst, hresult, hfound⟩ := hdealt.answered r hr entry.record (hshown ▸ hrecord)
      rw [hfirst] at hid
      cases hid
      exact ⟨token, hresult, hfound⟩
    by_cases hany : ∃ r ∈ bindings x events s, r.request.token = master ∧ r.request.ids.head?.map aliasId = some id
    · obtain ⟨r, hr, hshown, hid⟩ := hany
      obtain ⟨token, -, hfound⟩ := told r hr hshown hid
      refine ⟨token, fun r' hr' hshown' hid' => ?_⟩
      obtain ⟨token', hresult', hfound'⟩ := told r' hr' hshown' hid'
      cases hdealt.aliased.unique hfound hfound'
      exact ⟨hresult', hfound'⟩
    · exact ⟨"", fun r hr hshown hid => absurd ⟨r, hr, hshown, hid⟩ hany⟩

end Runs

/-- An unmanaged machine asks for its binding, and an alias is drawn in case it needs one. -/
def trialBinding (shown mac drawn : String) : Event :=
  .call (.action ⟨.epoch, "10.1.1.1", none⟩ ⟨drawn, "", ""⟩ .bindActor (.obj
    [("id", .arr [.obj [("ip", .str "10.0.0.2"), ("mac", .str mac)]]), ("token", .str shown),
      ("type", .str "unmanaged"), ("version", .str "4.0.0")]))

/-- Two machines show the master token, the first of them once more, and then its alias. -/
theorem aliases_stable_again :
    let x := inMemory .standard TaggedXor.cipher trialIssuer
    let s := Event.happen x .initial (.administer (.addService ⟨.nil, "lab", some "master"⟩ none))
    let events := [trialBinding "master" "aa" "t1", trialBinding "master" "bb" "t2",
      trialBinding "master" "aa" "t3", trialBinding "t1" "aa" "t4"]
    s.backend.aliases = [] ∧ s.backend.masters.Nodup ∧ (∀ event ∈ events, event.Settled) ∧
      Meets x (Event.MintsNew x) events s ∧
      (bindings x events s).map (fun r => (r.result.get? "master_token").bind Json.text?) =
        [some "t1", some "t2", some "t1", some "t1"] ∧
      Throughout x (fun t => t.backend.aliasOwners.Nodup ∧ KeepsAliases x t) events s := by
  intro x s events
  have hsettled : ∀ event ∈ events, event.Settled := by
    intro event hevent
    simp only [events, List.mem_cons, List.not_mem_nil, or_false] at hevent
    rcases hevent with rfl | rfl | rfl | rfl <;> exact ⟨trivial, fun _ _ h => by cases h⟩
  have hnew : Meets x (Event.MintsNew x) events s := by
    refine ⟨?_, ?_, ?_, ?_, trivial⟩ <;> decide +kernel
  have hmasters : s.backend.masters.Nodup := by decide +kernel
  have hstart : s.backend.aliases = [] := rfl
  refine ⟨hstart, hmasters, hsettled, hnew, ?_, (aliases_stable hstart hmasters hsettled hnew).1⟩
  decide +kernel

end SessionBroker.Executor
