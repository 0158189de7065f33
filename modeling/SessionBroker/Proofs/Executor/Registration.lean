import Mathlib.Data.List.Dedup
import SessionBroker.Proofs.Executor.Entries
import SessionBroker.Proofs.Executor.Guessing
import SessionBroker.Proofs.Protocol.Enrolment

/-!
# Registrations over a run

A machine that is registered keeps the token that it got first, through all calls that may follow. A run is
followed here from one broker to another by the registrations that succeeded and the tokens that were drawn for
machines that had none: `Enrolled` composes along the run, and what is claimed of whole runs is read off it.
-/

namespace SessionBroker.Executor

open Register (Enrolment)

/-! ## One call -/

/-- The registration by staff that a call amounts to. -/
def enrolment? (ctx : RequestContext) (draws : Draws) (params : Json) : Option Enrolment :=
  match (fromJson params : Decoded RegisterRequest), ctx.caller with
  | .ok request, some user =>
    if staff : user.isStaff = true then some ⟨request, user, staff, ctx.source, ctx.now, draws⟩ else none
  | _, _ => none

theorem request_of_enrolment? {ctx : RequestContext} {draws : Draws} {params : Json} {r : Enrolment}
    (h : enrolment? ctx draws params = some r) : (fromJson params : Decoded RegisterRequest) = .ok r.request := by
  unfold enrolment? at h
  split at h
  · next hr _ =>
    split at h
    · cases h
      exact hr
    · cases h
  · cases h

section Call

variable {config : BrokerConfig} {cipher : Cipher} {issuer : Issuer} (ctx : RequestContext) (draws : Draws)
  (params : Json) (s : State Broker TicketTable)

/-- A registration by staff stores an identity and answers with its token, and any other one fails. -/
theorem dispatch_register : (inMemory config cipher issuer).dispatch ctx draws .register params s =
    match enrolment? ctx draws params with
    | some r => (.ok (.ok (.str (r.grants (s.backend.findActorByMac r.mac)))),
        { s with backend := s.backend.storeActor (r.identity (s.backend.findActorByMac r.mac)) })
    | none => (.error (match (fromJson params : Decoded RegisterRequest) with
        | .ok _ => .accessDenied
        | .error e => .ofDecode e), s) := by
  unfold enrolment?
  cases hr : (fromJson params : Decoded RegisterRequest) with
  | error e => exact Effect.run_bind_of_error (parameters_of_error hr s) _
  | ok request =>
    refine (Effect.run_bind_of_ok (parameters_of_ok hr s) _).trans ?_
    -- who is no staff gets no further than the start
    have denied (caller : Option StaffUser) (hstaff : caller.filter (·.isStaff) = none) :
        Broker.backend.run issuer (Register.protocol request caller ctx.source) ctx.now draws s.backend =
          (.error .accessDenied, s.backend) := by
      rw [Register.run_eq_script]
      unfold Register.script
      rw [hstaff]
      rfl
    cases ctx.caller with
    | none =>
      have hrun := denied none rfl
      exact Effect.run_bind_of_error (run_of_backend (x := inMemory config cipher issuer) hrun) _
    | some user =>
      by_cases hstaff : user.isStaff = true
      · have hrun := Enrolment.run_eq ⟨request, user, hstaff, ctx.source, ctx.now, draws⟩ issuer s.backend
        dsimp only
        rw [dif_pos hstaff]
        exact Effect.run_bind_of_ok (run_of_backend (x := inMemory config cipher issuer) hrun) _
      · have hrun := denied (some user) (by simp [hstaff])
        dsimp only
        rw [dif_neg hstaff]
        exact Effect.run_bind_of_error (run_of_backend (x := inMemory config cipher issuer) hrun) _

/-- The guard has no say in it. -/
theorem handle_register : (inMemory config cipher issuer).handle ctx draws .register params s =
    match enrolment? ctx draws params with
    | some r => (.ok (.ok (.str (r.grants (s.backend.findActorByMac r.mac)))),
        { s with backend := s.backend.storeActor (r.identity (s.backend.findActorByMac r.mac)) })
    | none => (.error .accessDenied, s) := by
  have hbypass : Action.bypassesGuard .register = true := rfl
  rw [handle_eq]
  dsimp only
  rw [hbypass, if_pos rfl, dispatch_register]
  cases enrolment? ctx draws params <;> rfl

end Call

/-! ## One event -/

/-- A registration that succeeded: the machine, and the token that the answer brings. -/
structure Registration where
  mac : String
  token : String
deriving DecidableEq

namespace Event

/-- The registration that comes about by the event. -/
def registered? (x : Executor Broker TicketTable) (s : State Broker TicketTable) (event : Event) :
    Option Registration :=
  (event.request? .register).bind fun (ctx, draws, params) =>
    match (fromJson params : Decoded RegisterRequest), (x.handle ctx draws .register params s).1 with
    | .ok request, .ok reply => reply.result.text?.map (⟨request.mac, ·⟩)
    | _, _ => none

/-- The registration by staff that the event asks for. -/
def enrolment? (event : Event) : Option Enrolment :=
  (event.request? .register).bind fun (ctx, draws, params) => Executor.enrolment? ctx draws params

/-- The token that is drawn by the event, for a machine that has none. -/
def minted? (s : State Broker TicketTable) (event : Event) : Option String :=
  event.enrolment?.bind fun r => if (s.backend.findActorByMac r.mac).isSome then none else some r.draws.token

variable {config : BrokerConfig} {cipher : Cipher} {issuer : Issuer} {event : Event}
  {s : State Broker TicketTable}

theorem registered?_eq : event.registered? (inMemory config cipher issuer) s =
    event.enrolment?.map fun r => ⟨r.mac, r.grants (s.backend.findActorByMac r.mac)⟩ := by
  unfold registered? enrolment?
  cases event.request? .register with
  | none => rfl
  | some request =>
    obtain ⟨ctx, draws, params⟩ := request
    simp only [Option.bind_some]
    rw [handle_register]
    cases hr : Executor.enrolment? ctx draws params with
    | none => cases (fromJson params : Decoded RegisterRequest) <;> rfl
    | some r =>
      rw [request_of_enrolment? hr]
      rfl

theorem happen_enrolment {r : Enrolment} (h : event.enrolment? = some r) :
    (event.happen (inMemory config cipher issuer) s).backend =
      s.backend.storeActor (r.identity (s.backend.findActorByMac r.mac)) := by
  obtain ⟨⟨ctx, draws, params⟩, hrequest, hr⟩ := Option.bind_eq_some_iff.mp h
  have hr : Executor.enrolment? ctx draws params = some r := hr
  rw [request?_eq_some.mp hrequest]
  change ((inMemory config cipher issuer).handle ctx draws .register params s).2.backend = _
  rw [handle_register, hr]

/-- Nothing but a registration by staff touches the actors. -/
theorem happen_no_enrolment (hordinary : event.Ordinary) (h : event.enrolment? = none) :
    (event.happen (inMemory config cipher issuer) s).backend.actors = s.backend.actors := by
  cases hrequest : event.request? .register with
  | none => exact happen_actors hordinary hrequest
  | some request =>
    obtain ⟨ctx, draws, params⟩ := request
    have hr : Executor.enrolment? ctx draws params = none := by
      simpa [enrolment?, hrequest] using h
    rw [request?_eq_some.mp hrequest]
    change ((inMemory config cipher issuer).handle ctx draws .register params s).2.backend.actors = _
    rw [handle_register, hr]

end Event

/-! ## Runs -/

/-- The registrations that come about in a run, in order. -/
def registrations (x : Executor Broker TicketTable) : List Event → State Broker TicketTable → List Registration :=
  x.gather (Event.registered? x)

/-- The tokens that are drawn in a run for machines that had none, in order. -/
def minted (x : Executor Broker TicketTable) : List Event → State Broker TicketTable → List String :=
  x.gather Event.minted?

/-- The second broker has come about from the first one by registrations, for some of which a token was drawn. -/
structure Enrolled (a b : Broker) (made : List Registration) (drawn : List String) : Prop where
  listed : b.Listed
  kept : ∀ mac token, a.tokenOf mac = some token → b.tokenOf mac = some token
  answered : ∀ r ∈ made, b.tokenOf r.mac = some r.token
  macs : ∀ mac, mac ∈ b.actors.keys ↔ mac ∈ a.actors.keys ∨ mac ∈ made.map (·.mac)
  tokens : b.tokens = a.tokens ++ drawn

namespace Enrolled

variable {a b c : Broker} {made made' : List Registration} {drawn drawn' : List String}

/-- Nothing was registered. -/
theorem refl (h : a.Listed) (hactors : b.actors = a.actors) : Enrolled a b [] [] where
  listed := by
    constructor
    · rw [hactors]
      exact h.distinct
    · rw [hactors]
      exact h.keyed
  kept mac token htoken := by
    unfold Broker.tokenOf Broker.findActorByMac at htoken ⊢
    rwa [hactors]
  answered r hr := absurd hr List.not_mem_nil
  macs mac := by simp [hactors]
  tokens := by simp [Broker.tokens, hactors]

theorem trans (h : Enrolled a b made drawn) (h' : Enrolled b c made' drawn') :
    Enrolled a c (made ++ made') (drawn ++ drawn') where
  listed := h'.listed
  kept mac token htoken := h'.kept mac token (h.kept mac token htoken)
  answered r hr := by
    rcases List.mem_append.mp hr with hr | hr
    · exact h'.kept _ _ (h.answered r hr)
    · exact h'.answered r hr
  macs mac := by simp only [h'.macs, h.macs, List.map_append, List.mem_append, or_assoc]
  tokens := by rw [h'.tokens, h.tokens, List.append_assoc]

/-- One registration. The token is drawn if the machine had none. -/
theorem one (h : a.Listed) (r : Enrolment) :
    Enrolled a (a.storeActor (r.identity (a.findActorByMac r.mac))) [⟨r.mac, r.grants (a.findActorByMac r.mac)⟩]
      (if (a.findActorByMac r.mac).isSome then [] else [r.draws.token]) where
  listed := h.enrol r
  kept mac token htoken := by
    rw [h.tokenOf_enrol]
    split
    · next hmac =>
      -- the machine was registered under the token that it is given again
      subst hmac
      obtain ⟨known, hknown, rfl⟩ := Option.map_eq_some_iff.mp htoken
      rw [hknown, Enrolment.grants_some]
    · exact htoken
  answered other hother := by
    rw [List.mem_singleton.mp hother, h.tokenOf_enrol, if_pos rfl]
  macs mac := by
    rw [h.mem_keys_enrol, List.map_singleton, List.mem_singleton]
  tokens := h.tokens_enrol r

end Enrolled

section Runs

variable {config : BrokerConfig} {cipher : Cipher} {issuer : Issuer} {events : List Event}
  {s : State Broker TicketTable}

theorem Event.happen_enrolled {event : Event} (hordinary : event.Ordinary) (h : s.backend.Listed) :
    Enrolled s.backend (event.happen (inMemory config cipher issuer) s).backend
      (event.registered? (inMemory config cipher issuer) s).toList (event.minted? s).toList := by
  rw [registered?_eq]
  unfold minted?
  cases hr : event.enrolment? with
  | none => exact .refl h (happen_no_enrolment hordinary hr)
  | some r =>
    rw [happen_enrolment hr]
    have hone := Enrolled.one h r
    cases hfind : s.backend.findActorByMac r.mac with
    | none => simpa [hfind] using hone
    | some known => simpa [hfind] using hone

theorem after_enrolled (hordinary : ∀ event ∈ events, event.Ordinary) (h : s.backend.Listed) :
    let x := inMemory config cipher issuer
    Enrolled s.backend (x.after events s).backend (registrations x events s) (minted x events s) := by
  intro x
  induction events generalizing s with
  | nil => exact .refl h rfl
  | cons event rest ih =>
    obtain ⟨hfirst, hrest⟩ := List.forall_mem_cons.mp hordinary
    have hevent : Enrolled s.backend (event.happen x s).backend (event.registered? x s).toList
        (event.minted? s).toList := event.happen_enrolled hfirst h
    exact hevent.trans (ih hrest hevent.listed)

end Runs

/-! ## Tokens of registered actors -/

/-- The token is valid, and no action that wants the token of a registered actor answers as it answers to a token
that nobody has. -/
structure Accepts (x : Executor Broker TicketTable) (s : State Broker TicketTable) (token : String) : Prop where
  valid : s.backend.validateActorToken token = true
  answered : ∀ ctx draws action params, action = .ticket ∨ action = .test ∨ action = .bindActor →
    presented action params = some (token, .managed) →
      (x.dispatch ctx draws action params s).1 ≠ refusal action .managed

section Accepts

variable {config : BrokerConfig} {cipher : Cipher} {issuer : Issuer} {s : State Broker TicketTable}
  {token : String}

/-- Storage does not tell tokens apart. -/
theorem ofStore_not_blocked {σ γ : Type} (m : StoreM σ γ) (st st' : σ) (reason : String) :
    Protocol.ofStore m st ≠ (.error (.blockAccess reason), st') := by
  intro h
  unfold Protocol.ofStore at h
  cases hm : m st with
  | mk outcome rest =>
    rw [hm] at h
    cases outcome <;> cases h

/-- A binding with a valid token does not fail for the token. -/
theorem binding_not_blocked {request : BindingRequest} (hkind : request.kind = .managed)
    (hvalid : s.backend.validateActorToken request.token = true) (now : Instant) (draws : Draws)
    (reason : String) (b : Broker) :
    Broker.backend.run issuer (Binding.protocol request) now draws s.backend ≠
      (.error (.blockAccess reason), b) := by
  intro hblocked
  have hlook : Protocol.ofStore (Broker.backend.validateActorToken request.token) s.backend =
      (.ok (s.backend.validateActorToken request.token), s.backend) := rfl
  rw [Binding.run_eq_script] at hblocked
  unfold Binding.script at hblocked
  rw [hkind] at hblocked
  dsimp only at hblocked
  rw [Effect.run_bind_of_ok hlook, hvalid, if_pos rfl] at hblocked
  -- what is left is to find the user service and to prepare it
  rcases Effect.bind_error hblocked with hfind | ⟨view, b', -, hprepare⟩
  · exact ofStore_not_blocked _ _ _ _ hfind
  · cases view with
    | none => cases hprepare
    | some view =>
      rcases Effect.bind_error hprepare with hprepare | ⟨actor, b'', -, hdone⟩
      · exact ofStore_not_blocked _ _ _ _ hprepare
      · cases hdone

theorem delivery_not_blocked (outcome : Except TicketError Json) : delivery outcome ≠ .error .blockAccess := by
  rcases outcome with (_ | _ | _ | _) | _ <;> simp [delivery]

theorem accepts_of_valid (hvalid : s.backend.validateActorToken token = true) :
    (inMemory config cipher issuer).Accepts s token := by
  refine ⟨hvalid, fun ctx draws action params haction hpresented hrefused => ?_⟩
  rcases haction with rfl | rfl | rfl
  · obtain ⟨request, hr, ht⟩ := presentedBy_some hpresented
    cases ht
    change ((parameters TicketRequest params >>= (inMemory config cipher issuer).ticket ctx :
      CallM Broker TicketTable ActorReply) s).1 = _ at hrefused
    rw [Effect.run_bind_of_ok (parameters_of_ok hr s), ticket_eq, hvalid] at hrefused
    exact delivery_not_blocked _ hrefused
  · obtain ⟨request, hr, ht⟩ := presentedBy_some hpresented
    obtain ⟨rfl, hkind⟩ := Prod.mk.inj ht
    have hpasses : passes s.backend request = true := by
      unfold passes
      rw [hkind]
      exact hvalid
    change ((parameters TestRequest params >>= (inMemory config cipher issuer).test ctx :
      CallM Broker TicketTable ActorReply) s).1 = _ at hrefused
    rw [Effect.run_bind_of_ok (parameters_of_ok hr s), test_eq, hpasses] at hrefused
    simp [refusal, ActorReply.ok, ActorReply.failed] at hrefused
  · obtain ⟨request, hr, ht⟩ := presentedBy_some hpresented
    obtain ⟨rfl, hkind⟩ := Prod.mk.inj ht
    rw [dispatch_bindActor ctx s draws hr] at hrefused
    cases hrun : Broker.backend.run issuer (Binding.protocol request) ctx.now draws s.backend with
    | mk outcome b =>
      rw [hrun] at hrefused
      cases outcome with
      | ok binding => cases hrefused
      | error e =>
        cases e with
        | blockAccess reason => exact binding_not_blocked hkind hvalid ctx.now draws reason b hrun
        | _ => cases hrefused

end Accepts

/-! ## What is claimed of runs -/

/-- Where no token stands twice, it names one machine. -/
theorem mac_of_token {b : Broker} (h : b.Listed) (hdistinct : b.tokens.Nodup) {mac mac' token : String}
    (hmac : b.tokenOf mac = some token) (hmac' : b.tokenOf mac' = some token) : mac = mac' := by
  obtain ⟨known, hknown, rfl⟩ := Option.map_eq_some_iff.mp hmac
  obtain ⟨known', hknown', htoken⟩ := Option.map_eq_some_iff.mp hmac'
  have hsame : known = known' := List.inj_on_of_nodup_map hdistinct
    (Broker.mem_actors_of_findActorByMac hknown) (Broker.mem_actors_of_findActorByMac hknown') htoken.symm
  rw [← h.mac_of_find hknown, ← h.mac_of_find hknown', hsame]

/-- There are as many actors as machines that were registered. -/
theorem Enrolled.length_actors {a b : Broker} {made : List Registration} {drawn : List String}
    (h : Enrolled a b made drawn) (hstart : a.actors = []) :
    b.actors.length = (made.map (·.mac)).dedup.length := by
  have hmacs (mac : String) : mac ∈ b.actors.keys ↔ mac ∈ (made.map (·.mac)).dedup := by
    rw [h.macs, hstart, List.mem_dedup]
    simp [Table.keys]
  have hperm := (List.perm_ext_iff_of_nodup h.listed.distinct (List.nodup_dedup _)).mpr hmacs
  rw [← hperm.length_eq]
  exact (List.length_map _).symm

/-- In a run that starts without actors, and in which no token is drawn twice, registrations of one machine
bring one token and those of different machines different ones, there is one actor for each machine, and every
token that was given out is accepted from then on. A registration by staff is always answered with a token,
also where its source is blocked. -/
theorem registration_stable {config : BrokerConfig} {cipher : Cipher} {issuer : Issuer} {events : List Event}
    {s : State Broker TicketTable} (hstart : s.backend.actors = [])
    (hordinary : ∀ event ∈ events, event.Ordinary)
    (hminted : (minted (inMemory config cipher issuer) events s).Nodup) :
    let x := inMemory config cipher issuer
    let t := x.after events s
    (∀ r ∈ registrations x events s, ∀ r' ∈ registrations x events s, r.token = r'.token ↔ r.mac = r'.mac) ∧
    t.backend.actors.length = ((registrations x events s).map (·.mac)).dedup.length ∧
    (∀ r ∈ registrations x events s, x.Accepts t r.token) ∧
    ∀ ctx draws params request user, ctx.caller = some user → user.isStaff = true →
      (fromJson params : Decoded RegisterRequest) = .ok request →
      ∃ token, (x.handle ctx draws .register params t).1 = .ok (.ok (.str token)) := by
  intro x t
  have hlisted : s.backend.Listed := .of_empty hstart
  have henrolled : Enrolled s.backend t.backend (registrations x events s) (minted x events s) :=
    after_enrolled hordinary hlisted
  have hdistinct : t.backend.tokens.Nodup := by
    rw [henrolled.tokens, Broker.tokens, hstart]
    exact hminted
  refine ⟨fun r hr r' hr' => ⟨fun htoken => ?_, fun hmac => ?_⟩, henrolled.length_actors hstart, fun r hr => ?_, ?_⟩
  · have hfirst := henrolled.answered r hr
    rw [htoken] at hfirst
    exact mac_of_token henrolled.listed hdistinct hfirst (henrolled.answered r' hr')
  · have hfirst := henrolled.answered r hr
    rw [hmac, henrolled.answered r' hr'] at hfirst
    exact (Option.some.inj hfirst).symm
  · obtain ⟨known, hknown, htoken⟩ := Option.map_eq_some_iff.mp (henrolled.answered r hr)
    refine accepts_of_valid ?_
    rw [← htoken]
    exact Broker.validateActorToken_of_findActorByMac hknown
  · intro ctx draws params request user hcaller hstaff hrequest
    have hr : enrolment? ctx draws params = some ⟨request, user, hstaff, ctx.source, ctx.now, draws⟩ := by
      unfold enrolment?
      rw [hrequest, hcaller]
      exact dif_pos hstaff
    exact ⟨_, congrArg Prod.fst ((handle_register ctx draws params t).trans (by rw [hr]))⟩

/-- A machine is registered by staff, and a token is drawn in case it needs one. -/
def trialRegistration (mac token : String) : Event :=
  .call (.action ⟨.epoch, "10.1.1.1", some ⟨"ann", true⟩⟩ ⟨token, "", ""⟩ .register (.obj
    [("hostname", .str "desk"), ("ip", .str "10.0.0.2"), ("log_level", .int 0), ("mac", .str mac),
      ("post_command", .str ""), ("pre_command", .str ""), ("run_once_command", .str "")]))

/-- One machine is registered twice and another one once. -/
theorem registration_stable_again :
    let x := inMemory .standard TaggedXor.cipher trialIssuer
    let events := [trialRegistration "aa" "t1", trialRegistration "bb" "t2", trialRegistration "aa" "t3"]
    State.initial.backend.actors = [] ∧ (∀ event ∈ events, event.Ordinary) ∧ (minted x events .initial).Nodup ∧
      registrations x events .initial = [⟨"aa", "t1"⟩, ⟨"bb", "t2"⟩, ⟨"aa", "t1"⟩] ∧
      (x.after events .initial).backend.actors.length = 2 ∧
      x.Accepts (x.after events .initial) "t1" := by
  intro x events
  have hordinary : ∀ event ∈ events, event.Ordinary := by
    intro event hevent
    simp only [events, List.mem_cons, List.not_mem_nil, or_false] at hevent
    rcases hevent with rfl | rfl | rfl <;> trivial
  have hminted : (minted x events .initial).Nodup := by decide +kernel
  have hregistrations : registrations x events .initial = [⟨"aa", "t1"⟩, ⟨"bb", "t2"⟩, ⟨"aa", "t1"⟩] := by
    decide +kernel
  obtain ⟨-, hcount, haccepts, -⟩ := registration_stable (s := .initial) rfl hordinary hminted
  refine ⟨rfl, hordinary, hminted, hregistrations, hcount.trans ?_, haccepts ⟨"aa", "t1"⟩ ?_⟩
  · rw [hregistrations]
    rfl
  · rw [hregistrations]
    exact List.mem_cons_self

end SessionBroker.Executor
