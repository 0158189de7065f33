import SessionBroker.Proofs.Executor.Policy
import SessionBroker.Proofs.Protocol.Run

/-!
# What calls leave alone

An action reaches the state of an executor in a few ways only: by a protocol, by an operation of the backend
or of the ticket store, and by the record of a failed test. What none of these disturbs, no action disturbs,
whether it succeeds or not.
-/

namespace SessionBroker

open Effect (Keeps)

/-- Every operation of the backend that a call may use keeps the property. -/
structure Backend.Keeps {σ : Type} (b : Backend σ) (P : σ → Prop) : Prop where
  answer : ∀ issuer now draws query, Effect.Keeps P (b.answer issuer now draws query)
  recordVersion : ∀ token version ip, Effect.Keeps P (b.recordVersion token version ip)
  actorVersion : ∀ token, Effect.Keeps P (b.actorVersion token)
  appendLog : ∀ token level message now, Effect.Keeps P (b.appendLog token level message now)

namespace Backend.Keeps

variable {σ : Type} {b : Backend σ} {P : σ → Prop} (h : b.Keeps P) (now : Instant) (draws : Draws)

include h

theorem run {ς α : Type} (issuer : Issuer) (p : Protocol ς α) :
    Effect.Keeps P (b.run issuer p now draws) :=
  p.run_keeps _ now draws fun query => h.answer issuer now draws query

/-- The operation behind a query, whoever issues certificates. -/
theorem asked {α : Type} {m : StoreM σ α} (query : Query) (f : α → Reply)
    (hm : ∀ issuer now draws, b.answer issuer now draws query = m >>= fun a => pure (f a)) :
    Effect.Keeps P m := by
  let issuer : Issuer := fun _ _ => .error ""
  have kept := h.answer issuer .epoch ⟨"", "", ""⟩ query
  rw [hm] at kept
  exact kept.of_bind_pure

theorem validateActorToken (token : String) : Effect.Keeps P (b.validateActorToken token) :=
  h.asked (.validateActorToken token) .tokenValid fun _ _ _ => rfl

theorem findService (token : String) (throughAlias : Bool) :
    Effect.Keeps P (b.findService token throughAlias) :=
  h.asked (.findService token throughAlias) .service fun _ _ _ => rfl

theorem notifyService (notification : Notification) :
    Effect.Keeps P (b.notifyService notification) :=
  h.asked (.notifyService notification) .notified fun _ _ _ => rfl

end Backend.Keeps

namespace Executor

variable {σ τ : Type}

/-- No part of a call disturbs the property, the record of a failed test and the delivery of a ticket apart. -/
structure Undisturbed (x : Executor σ τ) (ctx : RequestContext) (draws : Draws)
    (Q : State σ τ → Prop) : Prop where
  register : ∀ request, Keeps Q (x.run (Register.protocol request ctx.caller ctx.source) ctx draws)
  bindActor : ∀ request, Keeps Q (x.run (Binding.protocol request) ctx draws)
  login : ∀ request, Keeps Q (x.run (Login.protocol request) ctx draws)
  logout : ∀ request, Keeps Q (x.run (Logout.protocol request) ctx draws)
  ready : ∀ request clearInUse, Keeps Q (x.run (Ready.protocol request clearInUse x.ciphers) ctx draws)
  unmanaged : ∀ request, Keeps Q (x.run (Unmanaged.protocol request x.ciphers) ctx draws)
  validateActorToken : ∀ token, Keeps Q (onBackend (x.backend.validateActorToken token))
  findService : ∀ token, Keeps Q (onBackend (x.backend.findService token true))
  notifyService : ∀ notification, Keeps Q (onBackend (x.backend.notifyService notification))
  recordVersion : ∀ token version ip, Keeps Q (onBackend (x.backend.recordVersion token version ip))
  actorVersion : ∀ token, Keeps Q (onBackend (x.backend.actorVersion token))
  appendLog : ∀ token level message now,
    Keeps Q (onBackend (x.backend.appendLog token level message now))

/-- Nothing that the action runs disturbs the property, with the same exceptions. -/
def Spares (x : Executor σ τ) (ctx : RequestContext) (draws : Draws) (Q : State σ τ → Prop) : Action → Prop
  | .register => ∀ request, Keeps Q (x.run (Register.protocol request ctx.caller ctx.source) ctx draws)
  | .bindActor => ∀ request, Keeps Q (x.run (Binding.protocol request) ctx draws)
  | .login => ∀ request, Keeps Q (x.run (Login.protocol request) ctx draws)
  | .logout => ∀ request, Keeps Q (x.run (Logout.protocol request) ctx draws)
  | .ready | .ipChange =>
    ∀ request clearInUse, Keeps Q (x.run (Ready.protocol request clearInUse x.ciphers) ctx draws)
  | .unmanaged => ∀ request, Keeps Q (x.run (Unmanaged.protocol request x.ciphers) ctx draws)
  | .notify => True
  | .ticket => ∀ token, Keeps Q (onBackend (x.backend.validateActorToken token))
  | .version => ∀ token version ip, Keeps Q (onBackend (x.backend.recordVersion token version ip))
  | .log => (∀ token, Keeps Q (onBackend (x.backend.actorVersion token))) ∧
    ∀ token level message now, Keeps Q (onBackend (x.backend.appendLog token level message now))
  | .test => (∀ token, Keeps Q (onBackend (x.backend.validateActorToken token))) ∧
    ∀ token, Keeps Q (onBackend (x.backend.findService token true))

theorem Undisturbed.spares {x : Executor σ τ} {ctx : RequestContext} {draws : Draws} {Q : State σ τ → Prop}
    (h : x.Undisturbed ctx draws Q) (action : Action) : x.Spares ctx draws Q action := by
  cases action with
  | test => exact ⟨h.validateActorToken, h.findService⟩
  | register => exact h.register
  | bindActor => exact h.bindActor
  | ready => exact h.ready
  | ipChange => exact h.ready
  | login => exact h.login
  | logout => exact h.logout
  | log => exact ⟨h.actorVersion, h.appendLog⟩
  | ticket => exact h.validateActorToken
  | version => exact h.recordVersion
  | unmanaged => exact h.unmanaged
  | notify => trivial

theorem onBackend_keeps {α : Type} {P : σ → Prop} {m : StoreM σ α} (h : Keeps P m) :
    Keeps (fun s : State σ τ => P s.backend) (onBackend m) := fun s hs => h s.backend hs

theorem run_keeps {ς α : Type} {x : Executor σ τ} {p : Protocol ς α} {ctx : RequestContext} {draws : Draws}
    {P : σ → Prop} (h : Keeps P (x.backend.run x.issuer p ctx.now draws)) :
    Keeps (fun s : State σ τ => P s.backend) (x.run p ctx draws) := fun s hs => h s.backend hs

/-- What the backend keeps is not disturbed. -/
theorem undisturbed_backend {x : Executor σ τ} {P : σ → Prop} (h : x.backend.Keeps P)
    (ctx : RequestContext) (draws : Draws) : x.Undisturbed ctx draws fun s => P s.backend where
  register _ := run_keeps (h.run ctx.now draws x.issuer _)
  bindActor _ := run_keeps (h.run ctx.now draws x.issuer _)
  login _ := run_keeps (h.run ctx.now draws x.issuer _)
  logout _ := run_keeps (h.run ctx.now draws x.issuer _)
  ready _ _ := run_keeps (h.run ctx.now draws x.issuer _)
  unmanaged _ := run_keeps (h.run ctx.now draws x.issuer _)
  validateActorToken token := onBackend_keeps (h.validateActorToken token)
  findService token := onBackend_keeps (h.findService token true)
  notifyService notification := onBackend_keeps (h.notifyService notification)
  recordVersion token version ip := onBackend_keeps (h.recordVersion token version ip)
  actorVersion token := onBackend_keeps (h.actorVersion token)
  appendLog token level message now := onBackend_keeps (h.appendLog token level message now)

/-- The tickets and the counters are not disturbed. -/
theorem undisturbed_besides (x : Executor σ τ) (ctx : RequestContext) (draws : Draws)
    (P : τ → Counters → Prop) : x.Undisturbed ctx draws fun s => P s.tickets s.counters where
  register _ := fun _ h => h
  bindActor _ := fun _ h => h
  login _ := fun _ h => h
  logout _ := fun _ h => h
  ready _ _ := fun _ h => h
  unmanaged _ := fun _ h => h
  validateActorToken _ := fun _ h => h
  findService _ := fun _ h => h
  notifyService _ := fun _ h => h
  recordVersion _ _ _ := fun _ h => h
  actorVersion _ := fun _ h => h
  appendLog _ _ _ _ := fun _ h => h

theorem parameters_of_ok {ρ : Type} [FromJson ρ] {params : Json} {request : ρ}
    (h : (fromJson params : Decoded ρ) = .ok request) (s : State σ τ) :
    parameters ρ params s = (.ok request, s) := by
  unfold parameters
  rw [h]
  rfl

theorem parameters_of_error {ρ : Type} [FromJson ρ] {params : Json} {e : DecodeError}
    (h : (fromJson params : Decoded ρ) = .error e) (s : State σ τ) :
    parameters ρ params s = (.error (.ofDecode e), s) := by
  unfold parameters
  rw [h]
  rfl

theorem parameters_looks {ρ : Type} [FromJson ρ] (params : Json) :
    Effect.Looks (parameters ρ params : CallM σ τ ρ) := by
  intro s
  cases h : (fromJson params : Decoded ρ) with
  | ok request => rw [parameters_of_ok h]
  | error e => rw [parameters_of_error h]

theorem parameters_keeps {ρ : Type} [FromJson ρ] (params : Json) {Q : State σ τ → Prop} :
    Keeps Q (parameters ρ params) := by
  intro s hs
  rw [parameters_looks params s]
  exact hs

theorem run_of_backend {ς α : Type} {x : Executor σ τ} {p : Protocol ς α} {ctx : RequestContext}
    {draws : Draws} {s : State σ τ} {outcome : Except ProtocolError α} {b : σ}
    (h : x.backend.run x.issuer p ctx.now draws s.backend = (outcome, b)) :
    x.run p ctx draws s = (outcome.mapError .ofProtocol, { s with backend := b }) := by
  unfold run
  rw [h]

variable {x : Executor σ τ} {ctx : RequestContext} {draws : Draws} {Q : State σ τ → Prop}

/-- The delivery of a ticket changes the tickets. -/
theorem ticket_keeps (h : x.Spares ctx draws Q .ticket)
    (htickets : ∀ s tickets, Q s → Q { s with tickets := tickets }) (request : TicketRequest) :
    Keeps Q (x.ticket ctx request) := by
  refine .bind (h request.token) fun valid => ?_
  cases valid with
  | false => exact .throw _
  | true =>
    have fetch : Keeps Q (liftM (m := StateM (State σ τ)) (n := CallM σ τ) (onTickets
        (Ticket.fetch x.repository x.cipher request.ticket true none false ctx.now))) :=
      fun s hs => htickets s _ hs
    refine .bind fetch fun outcome => ?_
    match outcome with
    | .ok _ | .error (.invalidTicket _) => exact .pure _
    | .error .missingOwner | .error (.cipher _) | .error (.store _) => exact .throw _

/-- A test records a failure where the token is not valid. -/
theorem test_keeps (h : x.Spares ctx draws Q .test) (hrecord : ∀ s, Q s → Q (x.recordFailure ctx s))
    (request : TestRequest) : Keeps Q (x.test ctx request) := by
  obtain ⟨hvalidate, hfind⟩ := h
  have answer : ∀ valid : Bool, Keeps Q (do
      if valid then return .ok (.str "ok")
      modify (x.recordFailure ctx)
      return .failed (.str "invalid token") "invalid token" : CallM σ τ ActorReply) := by
    intro valid s hs
    cases valid with
    | true => exact hs
    | false => exact hrecord s hs
  unfold test
  cases request.kind with
  | managed => exact .bind (hvalidate _) answer
  | unmanaged => exact .bind (.map (hfind _) _) answer

theorem dispatch_keeps {action : Action} (h : x.Spares ctx draws Q action) (params : Json)
    (hrecord : action = .test → ∀ s, Q s → Q (x.recordFailure ctx s))
    (htickets : action = .ticket → ∀ s tickets, Q s → Q { s with tickets := tickets }) :
    Keeps Q (x.dispatch ctx draws action params) := by
  cases action with
  | register => exact .bind (parameters_keeps _) fun _ => .bind (h _) fun _ => .pure _
  | bindActor => exact .bind (parameters_keeps _) fun _ => .bind (h _) fun _ => .pure _
  | login => exact .bind (parameters_keeps _) fun _ => .bind (h _) fun _ => .pure _
  | logout => exact .bind (parameters_keeps _) fun _ => .bind (h _) fun _ => .pure _
  | ready => exact .bind (parameters_keeps _) fun _ => .bind (h _ _) fun _ => .pure _
  | ipChange => exact .bind (parameters_keeps _) fun _ => .bind (h _ _) fun _ => .pure _
  | unmanaged =>
    refine .bind (parameters_keeps _) fun _ => .bind (h _) fun outcome => ?_
    cases outcome <;> exact .pure _
  | notify => exact .throw _
  | ticket => exact .bind (parameters_keeps _) fun request => ticket_keeps h (htickets rfl) request
  | version =>
    refine .bind (parameters_keeps _) fun _ => .bind (h _ _ _) fun known => ?_
    cases known with
    | true => exact .pure _
    | false => exact .throw _
  | log =>
    obtain ⟨hversion, happend⟩ := h
    refine .bind (parameters_keeps _) fun _ => .bind (hversion _) fun version => ?_
    cases version with
    | none => exact .throw _
    | some version => exact .bind (happend _ _ _ _) fun _ => .pure _
  | test => exact .bind (parameters_keeps _) fun request => test_keeps h (hrecord rfl) request

theorem dispatchNotice_keeps (hlogin : x.Spares ctx draws Q .login) (hlogout : x.Spares ctx draws Q .logout)
    (hnotify : ∀ notification, Keeps Q (onBackend (x.backend.notifyService notification)))
    (action : NotifyAction) (token : String) (params : Json) :
    Keeps Q (x.dispatchNotice ctx draws action token params) := by
  cases action with
  | login => exact .bind (parameters_keeps _) fun _ => .bind (hlogin _) fun _ => .pure _
  | logout => exact .bind (parameters_keeps _) fun _ => .bind (hlogout _) fun _ => .pure _
  | data =>
    have entries : Keeps Q (liftM (Notification.entriesOf params) : CallM σ τ (List IdEntry)) := by
      intro s hs
      cases Notification.entriesOf params <;> exact hs
    refine .bind entries fun ids => .bind (hnotify _) fun outcome => ?_
    cases outcome with
    | ok _ => exact .pure _
    | error _ => exact .throw _

/-- What also the guard's own records do not disturb, a call keeps. -/
theorem handle_keeps {action : Action} (h : x.Spares ctx draws Q action) (params : Json)
    (hcounters : ∀ s counters, Q s → Q { s with counters := counters })
    (htickets : action = .ticket → ∀ s tickets, Q s → Q { s with tickets := tickets }) :
    Keeps Q (x.handle ctx draws action params) := by
  intro s hs
  have ht : Q (x.dispatch ctx draws action params s).2 :=
    dispatch_keeps h params (fun _ t ht => hcounters t _ ht) htickets s hs
  rw [handle_eq]
  dsimp only
  split
  · exact ht
  · split
    · exact hcounters s _ hs
    · exact hcounters _ _ ht

theorem notify_keeps (hlogin : x.Spares ctx draws Q .login) (hlogout : x.Spares ctx draws Q .logout)
    (hnotify : ∀ notification, Keeps Q (onBackend (x.backend.notifyService notification)))
    (hcounters : ∀ s counters, Q s → Q { s with counters := counters }) (params : Json) :
    Keeps Q (x.notify ctx draws params) := by
  intro s hs
  rw [notify_eq]
  cases header params with
  | error e => exact hs
  | ok head =>
    obtain ⟨action, token⟩ := head
    have ht : Q (x.dispatchNotice ctx draws action token params s).2 :=
      dispatchNotice_keeps hlogin hlogout hnotify action token params s hs
    dsimp only
    split
    · exact hcounters s _ hs
    · exact hcounters _ _ ht

end Executor

end SessionBroker
