import SessionBroker.Proofs.Executor.Course
import SessionBroker.Proofs.Executor.Guessing

/-!
# Services in a final state

A user service that has come to a final state stays as it is until it is deleted. The operations refuse it or
leave everything alone but who owns it and in which cache it is kept, and the calls of its actor are refused.
-/

namespace SessionBroker

namespace UserService

/-- Nothing has happened to the life and the use of the service in between. -/
structure Unmoved (u v : UserService) : Prop where
  state : v.state = u.state
  osState : v.osState = u.osState
  inUse : v.inUse = u.inUse
  inUseDate : v.inUseDate = u.inUseDate
  sessions : v.sessions = u.sessions
  destroyAfter : v.destroyAfter = u.destroyAfter

theorem Unmoved.refl (u : UserService) : u.Unmoved u := ⟨rfl, rfl, rfl, rfl, rfl, rfl⟩

theorem Unmoved.trans {u v w : UserService} (h : u.Unmoved v) (h' : v.Unmoved w) : u.Unmoved w where
  state := h'.state.trans h.state
  osState := h'.osState.trans h.osState
  inUse := h'.inUse.trans h.inUse
  inUseDate := h'.inUseDate.trans h.inUseDate
  sessions := h'.sessions.trans h.sessions
  destroyAfter := h'.destroyAfter.trans h.destroyAfter

end UserService

namespace UserService

variable {u v : UserService} (provider : Provider) (now : Instant)

theorem Visit.unmoved {γ : Type} {g : UserService → γ} (h : Visit g u v) (ht : u.state.isTerminal) :
    u.Unmoved v := by
  cases h with
  | reported version properties => exact ⟨rfl, rfl, rfl, rfl, rfl, rfl⟩
  | attended valid h => exact absurd valid (by simp [ServiceState.not_valid_of_terminal ht])
  | released hopen now => exact absurd ht (by simp [hopen])

theorem finishPreparation_unmoved (ht : u.state.isTerminal) :
    u.Unmoved (u.finishPreparation provider now).service := by
  rw [finishPreparation_eq, if_pos ht]
  exact .refl u

theorem cancel_unmoved (ht : u.state.isTerminal) : u.Unmoved (u.cancel provider now).service := by
  rw [cancel_eq, remove_eq]
  cases hs : u.state with
  | removed | canceled => exact .refl u
  | _ =>
    rw [hs] at ht
    cases ht

/-- A move changes the cache level of a service in a final state and nothing else. -/
theorem moveToLevel_unmoved (level : CacheLevel) (ht : u.state.isTerminal) :
    u.Unmoved (u.moveToLevel level provider now).service := by
  have hstate (task : TaskState) : u.movedState task = u.state := by
    rcases u.movedState_cases task with h | ⟨husable, -⟩ | ⟨hopen, -⟩
    · exact h
    · rw [husable] at ht
      cases ht
    · exact absurd ht (by simp [hopen])
  rw [moveToLevel_eq]
  split
  · exact .refl u
  · exact ⟨hstate _, rfl, rfl, rfl, rfl, rfl⟩

end UserService

namespace Executor

variable {config : BrokerConfig} {cipher : Cipher} {issuer : Issuer} {s : State Broker TicketTable}
  {id : Uuid} {event : Event} {events : List Event} {u : UserService} {token : String}

theorem Turn.unmoved {provider : Provider} {v : UserService} (h : Turn UserService.uuid id provider u event v)
    (ht : u.state.isTerminal) : u.Unmoved v := by
  cases h with
  | visited event h =>
    refine h.keeps (P := u.Unmoved) (fun {v w} visit hv => ?_) (.refl u)
    have hv' : v.state.isTerminal := by rw [hv.state]; exact ht
    exact hv.trans (visit.unmoved hv')
  | finished now => exact UserService.finishPreparation_unmoved provider now ht
  | moved level now => exact UserService.moveToLevel_unmoved provider now level ht
  | cancelled _ now => exact UserService.cancel_unmoved provider now ht
  | assigned user now => exact ⟨rfl, rfl, rfl, rfl, rfl, rfl⟩

/-- An event that does not replace a service in a final state leaves it as it is. -/
theorem Event.happen_unmoved (hs : s.backend.Sparing UserService.uuid) (hr : event.Regular UserService.uuid)
    (hkept : ¬ event.Replaces id) (hu : s.backend.userService? id = some u) (ht : u.state.isTerminal) :
    ∃ v, (event.happen (inMemory config cipher issuer) s).backend.userService? id = some v ∧ u.Unmoved v := by
  obtain ⟨entry, hentry, rfl⟩ := Option.map_eq_some_iff.mp hu
  obtain ⟨v, hv, hturn⟩ := Event.happen_turn UserService.uuid_outline hr hs hkept hentry
  exact ⟨v, hv, hturn.unmoved ht⟩

/-! ## The calls of its actor -/

/-- The token that a call about a session or the readiness of a machine presents, and the kind of actor. -/
def Call.presents : Call → Option (String × ActorKind)
  | action _ _ .login params => presented .login params
  | action _ _ .logout params => presented .logout params
  | action _ _ .ready params => presented .ready params
  | action _ _ .ipChange params => presented .ipChange params
  | notice _ _ params => match header params with
    | .ok (.login, _) => presented .login params
    | .ok (.logout, _) => presented .logout params
    | _ => none
  | _ => none

theorem login_refused {ρ : Type} {f : LoginInfo → CallM Broker TicketTable ρ} {ctx : RequestContext}
    {draws : Draws} {params : Json} (h : presented .login params = some (token, .managed))
    (hclosed : s.backend.validUserService? token = none) :
    ((do f (← (inMemory config cipher issuer).run (Login.protocol (← parameters LoginRequest params)) ctx
      draws) : CallM Broker TicketTable ρ) s).1 = .error .blockAccess := by
  obtain ⟨request, hr, ht⟩ := presentedBy_some h
  obtain ⟨rfl, hkind⟩ := Prod.mk.inj ht
  exact protocol_refused draws f hr (Login.run_closed issuer ctx.now draws hkind hclosed)

theorem logout_refused {ρ : Type} {f : LogoutOutcome → CallM Broker TicketTable ρ} {ctx : RequestContext}
    {draws : Draws} {params : Json} (h : presented .logout params = some (token, .managed))
    (hclosed : s.backend.validUserService? token = none) :
    ((do f (← (inMemory config cipher issuer).run (Logout.protocol (← parameters LogoutRequest params)) ctx
      draws) : CallM Broker TicketTable ρ) s).1 = .error .blockAccess := by
  obtain ⟨request, hr, ht⟩ := presentedBy_some h
  obtain ⟨rfl, hkind⟩ := Prod.mk.inj ht
  exact protocol_refused draws f hr (Logout.run_closed issuer ctx.now draws hkind hclosed)

theorem ready_refused {f : CertificateReply → CallM Broker TicketTable ActorReply} {ctx : RequestContext}
    {draws : Draws} {params : Json} (h : presented .ready params = some (token, .managed))
    (hclosed : s.backend.validUserService? token = none) (clearInUse : Bool) :
    ((do f (← (inMemory config cipher issuer).run (Ready.protocol (← parameters ReadyRequest params)
      clearInUse config.server.secureCiphers) ctx draws) : CallM Broker TicketTable ActorReply) s).1 =
        .error .blockAccess := by
  obtain ⟨request, hr, ht⟩ := presentedBy_some h
  obtain ⟨rfl, -⟩ := Prod.mk.inj ht
  exact protocol_refused (p := fun r => Ready.protocol r clearInUse config.server.secureCiphers) draws f hr
    (Ready.run_closed issuer ctx.now draws hclosed clearInUse _)

/-- An action of a managed actor whose token names no user service that is open to actors. -/
theorem dispatch_closed {ctx : RequestContext} {draws : Draws} {action : Action} {params : Json}
    (h : (Call.action ctx draws action params).presents = some (token, .managed))
    (hclosed : s.backend.validUserService? token = none) :
    ((inMemory config cipher issuer).dispatch ctx draws action params s).1 = .error .blockAccess := by
  cases action with
  | login => exact login_refused h hclosed
  | logout => exact logout_refused h hclosed
  | ready => exact ready_refused h hclosed true
  | ipChange => exact ready_refused h hclosed false
  | _ => cases h

theorem dispatchNotice_closed {ctx : RequestContext} {draws : Draws} {action : NotifyAction} {params : Json}
    {named : String} (hheader : header params = .ok (action, named))
    (h : (Call.notice ctx draws params).presents = some (token, .managed))
    (hclosed : s.backend.validUserService? token = none) :
    ((inMemory config cipher issuer).dispatchNotice ctx draws action named params s).1 =
      .error .blockAccess := by
  simp only [Call.presents, hheader] at h
  cases action with
  | login => exact login_refused h hclosed
  | logout => exact logout_refused h hclosed
  | data => cases h

/-- An action that blocks the access is refused, as it is where the guard turns it away. -/
theorem handle_refused {ctx : RequestContext} {draws : Draws} {action : Action} {params : Json}
    (hguarded : action.bypassesGuard = false)
    (h : ((inMemory config cipher issuer).dispatch ctx draws action params s).1 = .error .blockAccess) :
    ((inMemory config cipher issuer).handle ctx draws action params s).1 =
      .error (if (inMemory config cipher issuer).isBlocked ctx s then .blocked else .accessDenied) := by
  rw [handle_eq, hguarded, if_neg Bool.false_ne_true, h, apply_ite Prod.fst, apply_ite Except.error]
  rfl

/-- A managed actor whose token names no user service that is open to actors is refused. -/
theorem take_closed {call : Call} (h : call.presents = some (token, .managed))
    (hclosed : s.backend.validUserService? token = none) :
    ((inMemory config cipher issuer).take call s).1 =
      .error (if (inMemory config cipher issuer).isBlocked call.ctx s then .blocked else .accessDenied) := by
  cases call with
  | action ctx draws action params =>
    have hguarded : action.bypassesGuard = false := by
      cases action with
      | register => cases h
      | _ => rfl
    exact handle_refused hguarded (dispatch_closed h hclosed)
  | notice ctx draws params =>
    change _ = Except.error (if (inMemory config cipher issuer).isBlocked ctx s then _ else _)
    rw [take_notice, notify_eq]
    cases hheader : header params with
    | error e => simp [Call.presents, hheader] at h
    | ok head =>
      obtain ⟨action, named⟩ := head
      dsimp only
      rw [dispatchNotice_closed hheader h hclosed, apply_ite Prod.fst, apply_ite Except.error]
      rfl

/-- Where no OS manager touches the ids of user services, and whatever happens to one in a final state, unless it is
deleted or replaced by another one: its states, its use, its sessions and its mark for removal stay, and its actor is
refused. -/
theorem final_frozen (hs : Attainable (inMemory config cipher issuer) s)
    (hu : s.backend.userService? id = some u) (ht : u.state.isTerminal)
    (hevents : ∀ event ∈ events, event.Regular UserService.uuid ∧ ¬ event.Replaces id) :
    Throughout (inMemory config cipher issuer) (fun t =>
      (∃ v, t.backend.userService? id = some v ∧ v.state = u.state ∧ v.osState = u.osState ∧
        v.inUse = u.inUse ∧ v.inUseDate = u.inUseDate ∧ v.sessions = u.sessions ∧
        v.destroyAfter = u.destroyAfter) ∧
      ∀ call token, Call.presents call = some (token, .managed) → Uuid.parse? token = some id →
        ((inMemory config cipher issuer).take call t).1 = .error
          (if (inMemory config cipher issuer).isBlocked call.ctx t then .blocked else .accessDenied))
      events s := by
  have hunmoved : Throughout (inMemory config cipher issuer)
      (fun t => ∃ v, t.backend.userService? id = some v ∧ u.Unmoved v) events s := by
    refine throughout_of_keeps (I := fun t => t.backend.Sparing UserService.uuid)
      (fun _ _ ht h => Event.happen_sparing UserService.uuid_outline h.1 ht) ?_ hs.sparing ⟨u, hu, .refl u⟩ hevents
    rintro t event hs ⟨hr, hkept⟩ ⟨v, hv, huv⟩
    have hvt : v.state.isTerminal := by rw [huv.state]; exact ht
    obtain ⟨w, hw, hvw⟩ := Event.happen_unmoved hs hr hkept hv hvt
    exact ⟨w, hw, huv.trans hvw⟩
  refine hunmoved.mono fun t ⟨v, hv, huv⟩ => ⟨⟨v, hv, huv.state, huv.osState, huv.inUse, huv.inUseDate,
    huv.sessions, huv.destroyAfter⟩, fun call token hcall hid => take_closed hcall ?_⟩
  have hclosed : v.state.isValid = false := by
    rw [huv.state]
    exact ServiceState.not_valid_of_terminal ht
  unfold Broker.validUserService? Broker.tokenUserService?
  rw [hid, Option.bind_some, hv]
  simp [hclosed]

/-- A service that a user has logged on to is cancelled. Neither the end of its preparation nor another login nor a
release changes it any more, and the login is refused. -/
theorem final_frozen_cancelled :
    let x := inMemory .standard TaggedXor.cipher trialIssuer
    let s := x.after (trialArrival notingManager ⟨true, fun _ => .finished⟩ ++
      [.call (trialLogin "ann"), .administer (.cancel .nil .epoch)]) .initial
    let events : List Event := [.administer (.finishPreparation .nil .epoch), .call (trialLogin "bob"),
      .query (.release .nil) .epoch ⟨"", "", ""⟩]
    Attainable x s ∧ (s.backend.userService? .nil).map (fun u => (u.state, u.property "user")) =
        some (.canceled, some "ann") ∧
      (∀ event ∈ events, event.Regular UserService.uuid ∧ ¬ event.Replaces .nil) ∧
      ((x.after events s).backend.userService? .nil).map (fun u => (u.state, u.inUse)) = some (.canceled, true) ∧
      (x.take (trialLogin "bob") s).1 = .error .accessDenied := by
  intro x s events
  have hregular : ∀ event ∈ events, event.Regular UserService.uuid ∧ ¬ event.Replaces .nil := by
    simp [events, Event.Regular, Event.Replaces, Broker.Task.Regular, Broker.Task.Replaces]
  have hs : Attainable x s := by
    refine .arrival (notingManager_spares UserService.uuid_outline) _ ?_
    simp [Event.SparesShown, Broker.Task.Hooks, Broker.Task.Edits]
  have hpresents : (trialLogin "bob").presents = some (Uuid.nil.text, .managed) := by decide +kernel
  have hpassed : x.isBlocked (trialLogin "bob").ctx s = false := by decide +kernel
  have hnoted : (s.backend.userService? .nil).map (fun u => (u.state, u.inUse, u.property "user")) =
      some (.canceled, true, some "ann") := by decide +kernel
  obtain ⟨u, hu, hcancelled⟩ := Option.map_eq_some_iff.mp hnoted
  simp only [Prod.mk.injEq] at hcancelled
  obtain ⟨hstate, huse, huser⟩ := hcancelled
  have hfrozen := final_frozen hs hu (by rw [hstate]; rfl) hregular
  obtain ⟨-, hrefused⟩ := hfrozen.start
  obtain ⟨⟨v, hafter, hvstate, -, hvuse, -⟩, -⟩ := hfrozen.last
  refine ⟨hs, ?_, hregular, ?_, (hrefused (trialLogin "bob") _ hpresents (by decide +kernel)).trans ?_⟩
  · rw [hu, Option.map_some, hstate, huser]
  · rw [hafter, Option.map_some, hvstate, hvuse, hstate, huse]
  · rw [hpassed]
    rfl

end Executor

end SessionBroker
