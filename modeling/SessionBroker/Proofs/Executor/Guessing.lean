import SessionBroker.Proofs.Broker.Unknown
import SessionBroker.Proofs.Executor.Counting
import SessionBroker.Proofs.Executor.Direct
import SessionBroker.Proofs.Executor.Reach

/-!
# Guesses

A call that presents a token which the broker does not know is refused whatever it asks for. Whether the
refusal counts as a guess is a matter of how the action finds the token out. A start of an unmanaged machine
answers with a reply, and the sessions of unmanaged machines end as a notification that failed: neither is an
error that counts. `unknown_token_counted_iff` says exactly where the count of the source goes up.
-/

namespace SessionBroker.Executor

/-- What a request presents, if it can be read. -/
def presentedBy (ρ : Type) [FromJson ρ] (f : ρ → String × ActorKind) (params : Json) :
    Option (String × ActorKind) :=
  match (fromJson params : Decoded ρ) with
  | .ok request => some (f request)
  | .error _ => none

/-- The token that a well-formed call presents, and the kind of actor that it presents it for. Actions that
leave the kind open have one kind. -/
def presented (action : Action) (params : Json) : Option (String × ActorKind) :=
  match action with
  | .test => presentedBy TestRequest (fun r => (r.token, r.kind)) params
  | .bindActor => presentedBy BindingRequest (fun r => (r.token, r.kind)) params
  | .login => presentedBy LoginRequest (fun r => (r.token, r.kind)) params
  | .logout => presentedBy LogoutRequest (fun r => (r.token, r.kind)) params
  | .ready | .ipChange => presentedBy ReadyRequest (fun r => (r.token, .managed)) params
  | .log => presentedBy LogRequest (fun r => (r.token, .managed)) params
  | .ticket => presentedBy TicketRequest (fun r => (r.token, .managed)) params
  | .version => presentedBy VersionRequest (fun r => (r.token, .managed)) params
  | .unmanaged => presentedBy UnmanagedRequest (fun r => (r.token, .unmanaged)) params
  | .register | .notify => none

/-- What comes of an unknown token. -/
def refusal : Action → ActorKind → Except ActorError ActorReply
  | .test, _ => .ok (.failed (.str "invalid token") "invalid token")
  | .unmanaged, _ => .ok (.failed .null "Invalid token")
  | .login, kind | .logout, kind => .error (.ofProtocol (sessionRefusal kind))
  | .bindActor, kind => .error (.ofProtocol (bindingRefusal kind))
  | _, _ => .error .blockAccess

/-- The action counts an unknown token as a guess. -/
def countsUnknown : Action → ActorKind → Bool
  | .unmanaged, _ | .login, .unmanaged | .logout, .unmanaged => false
  | _, _ => true

theorem actionVerdict_refusal (action : Action) (kind : ActorKind) :
    actionVerdict action (refusal action kind) = if countsUnknown action kind then .counts else .leaves := by
  cases action <;> cases kind <;> rfl

theorem presentedBy_some {ρ : Type} [FromJson ρ] {f : ρ → String × ActorKind} {params : Json}
    {token : String} {kind : ActorKind} (h : presentedBy ρ f params = some (token, kind)) :
    ∃ request, (fromJson params : Decoded ρ) = .ok request ∧ f request = (token, kind) := by
  unfold presentedBy at h
  cases hr : (fromJson params : Decoded ρ) with
  | ok request =>
    rw [hr] at h
    exact ⟨request, rfl, Option.some.inj h⟩
  | error e =>
    rw [hr] at h
    cases h

variable {config : BrokerConfig} {cipher : Cipher} {issuer : Issuer} {ctx : RequestContext}
  (draws : Draws) {s : State Broker TicketTable} {action : Action} {params : Json} {token : String}
  {kind : ActorKind}

/-- An action that is a run of a protocol fails as the protocol does. -/
theorem protocol_refused {ρ ς α β : Type} [FromJson ρ] {request : ρ} {p : ρ → Protocol ς α}
    {e : ProtocolError} (f : α → CallM Broker TicketTable β)
    (hr : (fromJson params : Decoded ρ) = .ok request)
    (h : Broker.backend.run issuer (p request) ctx.now draws s.backend = (.error e, s.backend)) :
    ((do f (← (inMemory config cipher issuer).run (p (← parameters ρ params)) ctx draws) :
      CallM Broker TicketTable β) s).1 = .error (.ofProtocol e) := by
  rw [Effect.run_bind_of_ok (parameters_of_ok hr s),
    Effect.run_bind_of_error (run_of_backend (x := inMemory config cipher issuer) h)]

theorem dispatch_unknown (h : presented action params = some (token, kind))
    (hunknown : s.backend.Unknown token) :
    ((inMemory config cipher issuer).dispatch ctx draws action params s).1 = refusal action kind := by
  cases action with
  | register => cases h
  | notify => cases h
  | test =>
    obtain ⟨request, hr, ht⟩ := presentedBy_some h
    cases ht
    -- A test fails without an error, and has recorded the failure by itself.
    have hfails : passes s.backend request = false := by
      unfold passes
      cases request.kind with
      | managed => exact hunknown.actor
      | unmanaged => rw [hunknown.findService true]; rfl
    change ((parameters TestRequest params >>= (inMemory config cipher issuer).test ctx :
      CallM Broker TicketTable ActorReply) s).1 = _
    rw [Effect.run_bind_of_ok (parameters_of_ok hr s), test_eq, hfails]
    rfl
  | bindActor =>
    obtain ⟨request, hr, ht⟩ := presentedBy_some h
    cases ht
    exact protocol_refused draws _ hr (Binding.run_unknown issuer ctx.now draws hunknown)
  | login =>
    obtain ⟨request, hr, ht⟩ := presentedBy_some h
    cases ht
    exact protocol_refused draws _ hr (Login.run_unknown issuer ctx.now draws hunknown)
  | logout =>
    obtain ⟨request, hr, ht⟩ := presentedBy_some h
    cases ht
    exact protocol_refused draws _ hr (Logout.run_unknown issuer ctx.now draws hunknown)
  | ready =>
    obtain ⟨request, hr, ht⟩ := presentedBy_some h
    cases ht
    exact protocol_refused (p := fun r => Ready.protocol r true config.server.secureCiphers) draws _ hr
      (Ready.run_closed issuer ctx.now draws hunknown.validUserService? _ _)
  | ipChange =>
    obtain ⟨request, hr, ht⟩ := presentedBy_some h
    cases ht
    exact protocol_refused (p := fun r => Ready.protocol r false config.server.secureCiphers) draws _ hr
      (Ready.run_closed issuer ctx.now draws hunknown.validUserService? _ _)
  | unmanaged =>
    obtain ⟨request, hr, ht⟩ := presentedBy_some h
    cases ht
    have hrun := run_of_backend (x := inMemory config cipher issuer)
      (Unmanaged.run_unknown issuer ctx.now draws hunknown (inMemory config cipher issuer).ciphers)
    unfold dispatch
    dsimp only
    rw [Effect.run_bind_of_ok (parameters_of_ok hr s), Effect.run_bind_of_ok hrun]
    rfl
  | ticket =>
    obtain ⟨request, hr, ht⟩ := presentedBy_some h
    cases ht
    change ((parameters TicketRequest params >>= (inMemory config cipher issuer).ticket ctx :
      CallM Broker TicketTable ActorReply) s).1 = _
    rw [Effect.run_bind_of_ok (parameters_of_ok hr s), ticket_eq, hunknown.actor]
    rfl
  | version =>
    obtain ⟨request, hr, ht⟩ := presentedBy_some h
    cases ht
    rw [dispatch_version ctx s draws hr, hunknown.userService]
    rfl
  | log =>
    obtain ⟨request, hr, ht⟩ := presentedBy_some h
    cases ht
    rw [dispatch_log ctx s draws hr, hunknown.userService]
    rfl

/-- The call of a source that is not blocked is refused, and what the refusal leaves in the counters is the
record of one failure or nothing. -/
theorem handle_unknown_counters (h : presented action params = some (token, kind))
    (hunknown : s.backend.Unknown token) (hb : (inMemory config cipher issuer).isBlocked ctx s = false) :
    ((inMemory config cipher issuer).handle ctx draws action params s).2.counters =
      if countsUnknown action kind then ((inMemory config cipher issuer).recordFailure ctx s).counters
      else s.counters := by
  have hguarded : (Call.action ctx draws action params).guarded = true := by
    cases action with
    | register => cases h
    | _ => rfl
  have hverdict : (inMemory config cipher issuer).verdict s (.action ctx draws action params) =
      if countsUnknown action kind then .counts else .leaves := by
    change actionVerdict action ((inMemory config cipher issuer).dispatch ctx draws action params s).1 = _
    rw [dispatch_unknown draws h hunknown, actionVerdict_refusal]
  have hentered := take_carriedOut (inMemory config cipher issuer) s hguarded hb
  rw [hverdict] at hentered
  rw [← take_action, hentered]
  split <;> rfl

/-- An unknown token adds one to the count of the source exactly where the action counts it, and where a
record is remembered at all. -/
theorem unknown_token_counted_iff (h : presented action params = some (token, kind))
    (hunknown : s.backend.Unknown token) (hb : (inMemory config cipher issuer).isBlocked ctx s = false) :
    failures ((inMemory config cipher issuer).handle ctx draws action params s).2 ctx.source ctx.now =
        failures s ctx.source ctx.now + 1 ↔
      countsUnknown action kind ∧ ctx.now < ctx.now.after config.guard.blockWindow := by
  have hcounters := handle_unknown_counters draws h hunknown hb
  unfold failures
  rw [hcounters]
  cases countsUnknown action kind with
  | false => simp
  | true =>
    have hrecorded : Guard.failures ((inMemory config cipher issuer).recordFailure ctx s).counters
        ctx.source ctx.now =
          if ctx.now < ctx.now.after config.guard.blockWindow then
            Guard.failures s.counters ctx.source ctx.now + 1
          else 0 := Guard.failures_recordFailure_self
    rw [if_pos rfl, hrecorded]
    by_cases hremembered : ctx.now < ctx.now.after config.guard.blockWindow <;> simp [hremembered]

/-- The report of a version by nobody counts. -/
theorem unknown_token_counted_iff_version :
    let x := inMemory .standard TaggedXor.cipher trialIssuer
    let ctx : RequestContext := ⟨.epoch, "10.1.1.1", none⟩
    let params := Json.obj [("ip", .str "10.0.0.2"), ("token", .str "nope"), ("version", .str "4.0.0")]
    presented .version params = some ("nope", .managed) ∧ State.initial.backend.Unknown "nope" ∧
      x.isBlocked ctx .initial = false ∧
      failures (x.handle ctx ⟨"", "", ""⟩ .version params .initial).2 ctx.source ctx.now =
        failures State.initial ctx.source ctx.now + 1 := by
  intro x ctx params
  have hpresented : presented .version params = some ("nope", .managed) := by decide +kernel
  have hunknown : State.initial.backend.Unknown "nope" := ⟨rfl, by decide +kernel, rfl, rfl⟩
  have hwindow : ctx.now < ctx.now.after BrokerConfig.standard.guard.blockWindow := by decide
  have hb : x.isBlocked ctx .initial = false := rfl
  have hcounted := unknown_token_counted_iff ⟨"", "", ""⟩ hpresented hunknown hb
  exact ⟨hpresented, hunknown, hb, hcounted.mpr ⟨rfl, hwindow⟩⟩

/-- An unmanaged machine that starts with nobody's token is refused, and nothing is counted. -/
theorem unmanaged_guess_not_counted :
    let x := inMemory .standard TaggedXor.cipher trialIssuer
    let ctx : RequestContext := ⟨.epoch, "10.1.1.1", none⟩
    let params := Json.obj
      [("id", .arr []), ("port", .int 1), ("secret", .str ""), ("token", .str "nope")]
    presented .unmanaged params = some ("nope", .unmanaged) ∧ State.initial.backend.Unknown "nope" ∧
      Reachable x .initial ∧ x.isBlocked ctx .initial = false ∧
      failures (x.handle ctx ⟨"", "", ""⟩ .unmanaged params .initial).2 ctx.source ctx.now ≠
        failures State.initial ctx.source ctx.now + 1 := by
  intro x ctx params
  have hpresented : presented .unmanaged params = some ("nope", .unmanaged) := by decide +kernel
  have hunknown : State.initial.backend.Unknown "nope" := ⟨rfl, by decide +kernel, rfl, rfl⟩
  have hcounters : (x.handle ctx ⟨"", "", ""⟩ .unmanaged params .initial).2.counters = [] :=
    handle_unknown_counters ⟨"", "", ""⟩ hpresented hunknown rfl
  refine ⟨hpresented, hunknown, .start, rfl, ?_⟩
  unfold failures
  rw [hcounters]
  decide

end SessionBroker.Executor
