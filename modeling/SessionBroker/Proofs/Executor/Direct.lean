import SessionBroker.Executor.Memory
import SessionBroker.Proofs.Executor.Keeps

/-!
# Actions one by one

What the smaller actions come to on the broker in memory: tickets, tests, versions and log entries. The
others are runs of protocols.
-/

namespace SessionBroker

theorem Broker.recordVersion_none {b : Broker} {token : String} (h : b.tokenUserService? token = none)
    (version ip : String) : b.recordVersion token version ip = (false, b) := by
  unfold tokenUserService? at h
  unfold recordVersion
  cases hid : Uuid.parse? token with
  | none => rfl
  | some id =>
    rw [hid] at h
    dsimp only
    rw [show b.userService? id = none from h]

theorem Broker.recordVersion_some {b : Broker} {token : String} {u : UserService}
    (h : b.tokenUserService? token = some u) (version ip : String) :
    (b.recordVersion token version ip).1 = true := by
  obtain ⟨id, hid, hu⟩ := Option.bind_eq_some_iff.mp h
  unfold recordVersion
  rw [hid]
  dsimp only
  rw [hu]

namespace Executor

variable {config : BrokerConfig} {cipher : Cipher} {issuer : Issuer} (ctx : RequestContext)
  (s : State Broker TicketTable)

section

variable {s}

/-- A request that can be read is answered by the run of its protocol. -/
theorem request_answered (draws : Draws) (params : Json) {ρ ς α β : Type} [FromJson ρ] {p : ρ → Protocol ς α}
    {request : ρ} {a : α} {b : Broker} (hread : (fromJson params : Decoded ρ) = .ok request)
    (hrun : Broker.backend.run issuer (p request) ctx.now draws s.backend = (.ok a, b))
    (f : α → CallM Broker TicketTable β) :
    (parameters ρ params >>= fun request =>
      (inMemory config cipher issuer).run (p request) ctx draws >>= f) s = f a { s with backend := b } := by
  rw [Effect.run_bind_of_ok (parameters_of_ok hread s)]
  exact Effect.run_bind_of_ok (run_of_backend (x := inMemory config cipher issuer) hrun) f

/-- A call whose action runs a protocol passes its answer on, unless the guard turns it away. -/
theorem handle_answered {draws : Draws} {params : Json} {action : Action} {ρ ς α : Type} [FromJson ρ]
    {p : ρ → Protocol ς α} {f : α → CallM Broker TicketTable ActorReply}
    (hdispatch : (inMemory config cipher issuer).dispatch ctx draws action params =
      parameters ρ params >>= fun request => (inMemory config cipher issuer).run (p request) ctx draws >>= f)
    (hguarded : action.bypassesGuard = false) (hpassed : (inMemory config cipher issuer).isBlocked ctx s = false)
    {request : ρ} (hread : (fromJson params : Decoded ρ) = .ok request) {a : α} {b : Broker}
    (hrun : Broker.backend.run issuer (p request) ctx.now draws s.backend = (.ok a, b)) {reply : Json}
    (hreply : ∀ t, f a t = (.ok (.ok reply), t)) :
    (inMemory config cipher issuer).handle ctx draws action params s =
      (.ok (.ok reply), { s with backend := b, counters := Guard.clear s.counters ctx.source }) := by
  have hdone : (inMemory config cipher issuer).dispatch ctx draws action params s =
      (.ok (.ok reply), { s with backend := b }) := by
    rw [hdispatch, request_answered ctx draws params hread hrun, hreply]
  exact handle_ok _ ctx draws s hguarded hpassed hdone rfl

end

/-- The answer to a call for a ticket. -/
def delivery : Except TicketError Json → Except ActorError ActorReply
  | .ok payload => .ok (.ok payload)
  | .error (.invalidTicket _) => .ok (.failed .null "Invalid ticket")
  | .error (.store e) => .error (.store e)
  | .error e => .error (.invalidTicket e.message)

theorem ticket_eq (request : TicketRequest) : (inMemory config cipher issuer).ticket ctx request s =
    if s.backend.validateActorToken request.token then
      let fetched := Ticket.fetch memoryRepository cipher request.ticket true none false ctx.now s.tickets
      (delivery fetched.1, { s with tickets := fetched.2 })
    else (.error .blockAccess, s) := by
  have hvalid : onBackend (Broker.backend.validateActorToken request.token) s =
      (.ok (s.backend.validateActorToken request.token), s) := rfl
  refine (Effect.run_bind_of_ok hvalid _).trans ?_
  cases s.backend.validateActorToken request.token with
  | false => rfl
  | true =>
    let fetch : StateM (State Broker TicketTable) (Except TicketError Json) :=
      onTickets (Ticket.fetch memoryRepository cipher request.ticket true none false ctx.now)
    have hfetch : (liftM fetch : CallM Broker TicketTable _) s = (.ok (fetch s).1, (fetch s).2) := rfl
    refine (Effect.run_bind_of_ok hfetch _).trans ?_
    cases hresult : Ticket.fetch memoryRepository cipher request.ticket true none false ctx.now s.tickets with
    | mk outcome tickets =>
      have hrun : fetch s = (outcome, { s with tickets := tickets }) := by
        change onTickets _ s = _
        unfold onTickets
        rw [hresult]
      rw [hrun]
      rcases outcome with (_ | _ | _ | _) | _ <;> rfl

/-- The token of a test is one that the broker knows. -/
def passes (b : Broker) (request : TestRequest) : Bool :=
  match request.kind with
  | .unmanaged => (b.findService request.token true).isSome
  | .managed => b.validateActorToken request.token

theorem test_eq (request : TestRequest) : (inMemory config cipher issuer).test ctx request s =
    if passes s.backend request then (.ok (.ok (.str "ok")), s)
    else (.ok (.failed (.str "invalid token") "invalid token"),
      (inMemory config cipher issuer).recordFailure ctx s) := by
  unfold test passes
  cases request.kind with
  | managed =>
    have hvalid : onBackend (Broker.backend.validateActorToken request.token) s =
        (.ok (s.backend.validateActorToken request.token), s) := rfl
    refine (Effect.run_bind_of_ok hvalid _).trans ?_
    cases s.backend.validateActorToken request.token <;> rfl
  | unmanaged =>
    have hfind : (Option.isSome <$> onBackend (Broker.backend.findService request.token true) :
        CallM Broker TicketTable Bool) s =
        (.ok (s.backend.findService request.token true).isSome, s) := rfl
    refine (Effect.run_bind_of_ok hfind _).trans ?_
    cases (s.backend.findService request.token true).isSome <;> rfl

theorem dispatch_version (draws : Draws) {params : Json} {request : VersionRequest}
    (h : (fromJson params : Decoded VersionRequest) = .ok request) :
    (inMemory config cipher issuer).dispatch ctx draws .version params s =
      match s.backend.tokenUserService? request.token with
      | none => (.error .blockAccess, s)
      | some _ => (.ok (.ok (.str "ok")), { s with
        backend := (s.backend.recordVersion request.token request.version request.ip).2 }) := by
  have hrecord : onBackend (Broker.backend.recordVersion request.token request.version request.ip) s =
      (.ok (s.backend.recordVersion request.token request.version request.ip).1,
        { s with backend := (s.backend.recordVersion request.token request.version request.ip).2 }) := rfl
  refine (Effect.run_bind_of_ok (parameters_of_ok h s) _).trans ?_
  refine (Effect.run_bind_of_ok hrecord _).trans ?_
  cases hu : s.backend.tokenUserService? request.token with
  | none =>
    rw [Broker.recordVersion_none hu]
    rfl
  | some u =>
    rw [Broker.recordVersion_some hu]
    rfl

theorem dispatch_log (draws : Draws) {params : Json} {request : LogRequest}
    (h : (fromJson params : Decoded LogRequest) = .ok request) :
    (inMemory config cipher issuer).dispatch ctx draws .log params s =
      match s.backend.tokenUserService? request.token with
      | none => (.error .blockAccess, s)
      | some u => (.ok (.ok (.str "ok")), { s with
        backend := (s.backend.appendLog request.token (LogLevel.ofActor request.level u.actorVersion)
          request.message ctx.now).2 }) := by
  have hversion : onBackend (Broker.backend.actorVersion request.token) s =
      (.ok ((s.backend.tokenUserService? request.token).map (·.actorVersion)), s) := rfl
  refine (Effect.run_bind_of_ok (parameters_of_ok h s) _).trans ?_
  refine (Effect.run_bind_of_ok hversion _).trans ?_
  cases s.backend.tokenUserService? request.token <;> rfl

theorem dispatch_bindActor (draws : Draws) {params : Json} {request : BindingRequest}
    (h : (fromJson params : Decoded BindingRequest) = .ok request) :
    (inMemory config cipher issuer).dispatch ctx draws .bindActor params s =
      match Broker.backend.run issuer (Binding.protocol request) ctx.now draws s.backend with
      | (.ok binding, b) => (.ok (.ok binding.toJson), { s with backend := b })
      | (.error e, b) => (.error (.ofProtocol e), { s with backend := b }) := by
  refine (Effect.run_bind_of_ok (parameters_of_ok h s) _).trans ?_
  cases hrun : Broker.backend.run issuer (Binding.protocol request) ctx.now draws s.backend with
  | mk outcome b =>
    have hcall := run_of_backend (x := inMemory config cipher issuer) hrun
    cases outcome with
    | ok binding => exact Effect.run_bind_of_ok hcall _
    | error e => exact Effect.run_bind_of_error hcall _

end Executor

end SessionBroker
