import SessionBroker.Proofs.Executor.Reach
import SessionBroker.Proofs.Protocol.SessionLists

/-!
# Errands

What an actor says about its users comes in four ways: by a login, by a logout, by a notification of either,
and by the start of an unmanaged machine. Each of them is an `Errand`, and so is a query that somebody puts to
the backend directly. Which user service an errand is about is told by the broker that it meets. An errand
leaves its mark on the sessions of that user service, unless the guard turns it away, and nothing else that
happens to an executor touches any sessions.
-/

namespace SessionBroker.Executor

open Effect (Keeps)
open Broker (Lists Shows changeAt)

/-- Something to be done about the sessions of a user service. -/
inductive Errand
  /-- With the id that was drawn for the session. -/
  | login (token session : String) (now : Instant)
  | logout (token named : String) (now : Instant)
  /-- With the password that was drawn for the certificate of the machine. -/
  | restart (request : UnmanagedRequest) (password : String) (now : Instant)

namespace Errand

/-- The user service that the errand is about, if it is one that an actor may use. -/
def target? (issuer : Issuer) (b : Broker) : Errand → Option Uuid
  | login token _ _ | logout token _ _ => b.seat? token
  | restart request password _ => Unmanaged.loggedOut? b issuer password request

/-- What the errand does to the sessions there. -/
def mark : Errand → SessionMark
  | login _ session now => .opened session now
  | logout _ named now => .closed named now
  | restart _ _ now => .closed "" now

variable (ctx : RequestContext) (draws : Draws)

def ofLogin (request : LoginRequest) : Errand := login request.token draws.session ctx.now

def ofLogout (request : LogoutRequest) : Errand := logout request.token request.sessionId ctx.now

def ofRestart (request : UnmanagedRequest) : Errand := restart request draws.password ctx.now

/-- The errand of a request, if the request can be read. -/
def read? {ρ : Type} [FromJson ρ] (params : Json) (errand : ρ → Errand) : Option Errand :=
  (fromJson params : Decoded ρ).toOption.map errand

def ofAction? (action : Action) (params : Json) : Option Errand :=
  match action with
  | .login => read? params (ofLogin ctx draws)
  | .logout => read? params (ofLogout ctx)
  | .unmanaged => read? params (ofRestart ctx draws)
  | _ => none

def ofNotice? (action : NotifyAction) (params : Json) : Option Errand :=
  match action with
  | .login => read? params (ofLogin ctx draws)
  | .logout => read? params (ofLogout ctx)
  | .data => none

end Errand

def Call.errand? : Call → Option Errand
  | action ctx draws which params => Errand.ofAction? ctx draws which params
  | notice ctx draws params => (header params).toOption.bind fun head => Errand.ofNotice? ctx draws head.1 params

namespace Event

def errand? : Event → Option Errand
  | call c => c.errand?
  | query (.openSession token _) now draws => some (.login token draws.session now)
  | query (.closeSession token _ named) now _ => some (.logout token named now)
  | _ => none

/-- The guard turns the event away. -/
def isTurnedAway (x : Executor Broker TicketTable) (s : State Broker TicketTable) : Event → Bool
  | call c => x.isBlocked c.ctx s
  | _ => false

/-- The errand of the event, if it is one about the user service. -/
def errandOn? (x : Executor Broker TicketTable) (id : Uuid) (s : State Broker TicketTable) (event : Event) :
    Option Errand :=
  event.errand?.filter fun errand => errand.target? x.issuer s.backend = some id

/-- What the event does to the sessions of the user service. -/
def mark? (x : Executor Broker TicketTable) (id : Uuid) (s : State Broker TicketTable) (event : Event) :
    Option SessionMark :=
  if event.isTurnedAway x s then none else (event.errandOn? x id s).map Errand.mark

/-- The OS manager that the event brings, if it brings one, has a property. -/
def Hooks (H : OsManager → Prop) : Event → Prop
  | administer task => task.Hooks H
  | _ => True

/-- The event brings no OS manager that touches what is shown of a user service, and is no change behind the
back of the broker that does. -/
def SparesShown {γ : Type} (g : UserService → γ) : Event → Prop
  | administer task => task.Hooks (OsManager.Spares g) ∧ task.Edits g
  | _ => True

/-- The event deletes the user service, or has another one admitted under its id. -/
def Supplants (id : Uuid) (s : State Broker TicketTable) : Event → Prop
  | administer task => task.Supplants id s.backend
  | _ => False

end Event

/-! ## What is done on an errand -/

/-- The lists of sessions after an errand, if there is one. -/
def relisted (issuer : Issuer) (b : Broker) (errand : Option Errand) (view : Uuid → Option (List Session)) :
    Uuid → Option (List Session) :=
  errand.elim view fun errand => changeAt (errand.target? issuer b) errand.mark.apply view

section Calls

variable {config : BrokerConfig} {cipher : Cipher} {issuer : Issuer} {s : State Broker TicketTable}
  {view : Uuid → Option (List Session)} (ctx : RequestContext) (draws : Draws) (params : Json)

/-- A protocol is run as soon as its request has been read. -/
theorem request_lists {ρ ς α β : Type} [FromJson ρ] {p : ρ → Protocol ς α} {f : α → CallM Broker TicketTable β}
    (errand : ρ → Errand)
    (hf : ∀ a view, Keeps (fun s : State Broker TicketTable => s.backend.Lists view) (f a))
    (hrun : ∀ request, (Broker.backend.run issuer (p request) ctx.now draws s.backend).2.Lists
      (relisted issuer s.backend (some (errand request)) view)) (h : s.backend.Lists view) :
    ((parameters ρ params >>= fun request =>
      (inMemory config cipher issuer).run (p request) ctx draws >>= f) s).2.backend.Lists
        (relisted issuer s.backend (Errand.read? params errand) view) := by
  unfold Errand.read?
  cases hread : (fromJson params : Decoded ρ) with
  | error e =>
    rw [Effect.run_bind_of_error (parameters_of_error hread s)]
    exact h
  | ok request =>
    rw [Effect.run_bind_of_ok (parameters_of_ok hread s)]
    exact Keeps.after (P := fun s : State Broker TicketTable => s.backend.Lists _) (hrun request) fun a => hf a _

/-- What is no errand spares the lists. -/
theorem spares_lists {action : Action} (hlogin : action ≠ .login) (hlogout : action ≠ .logout)
    (hunmanaged : action ≠ .unmanaged) :
    (inMemory config cipher issuer).Spares ctx draws (fun s => s.backend.Lists view) action := by
  have reading {α : Type} (f : Broker → α) :
      Keeps (fun s : State Broker TicketTable => s.backend.Lists view) (onBackend (Broker.reading f)) :=
    onBackend_keeps (P := Lists view) (Broker.reading_keeps f)
  cases action with
  | login => exact absurd rfl hlogin
  | logout => exact absurd rfl hlogout
  | unmanaged => exact absurd rfl hunmanaged
  | test =>
    exact ⟨fun token => reading (·.validateActorToken token), fun token => reading (·.findService token true)⟩
  | register =>
    exact fun request => run_keeps (Protocol.run_lists issuer ctx.now draws (Register.protocol_quiet request _ _))
  | bindActor =>
    exact fun request => run_keeps (Protocol.run_lists issuer ctx.now draws (Binding.protocol_quiet request))
  | ready =>
    exact fun request clearInUse =>
      run_keeps (Protocol.run_lists issuer ctx.now draws (Ready.protocol_quiet request clearInUse _))
  | ipChange =>
    exact fun request clearInUse =>
      run_keeps (Protocol.run_lists issuer ctx.now draws (Ready.protocol_quiet request clearInUse _))
  | log =>
    refine ⟨fun token => reading fun b => (b.tokenUserService? token).map (·.actorVersion), ?_⟩
    exact fun token level message now s h => Broker.appendLog_shows token level message now h
  | ticket => exact fun token => reading (·.validateActorToken token)
  | version =>
    exact fun token version ip s h => Broker.recordVersion_shows UserService.sessions_plain.steady token version ip h
  | notify => trivial

theorem dispatch_lists (action : Action) (h : s.backend.Lists view) :
    ((inMemory config cipher issuer).dispatch ctx draws action params s).2.backend.Lists
      (relisted issuer s.backend (Errand.ofAction? ctx draws action params) view) := by
  have quiet {action : Action} (hlogin : action ≠ .login) (hlogout : action ≠ .logout)
      (hunmanaged : action ≠ .unmanaged) :
      ((inMemory config cipher issuer).dispatch ctx draws action params s).2.backend.Lists view :=
    dispatch_keeps (spares_lists ctx draws hlogin hlogout hunmanaged) params (fun _ _ h => h) (fun _ _ _ h => h) s h
  cases action with
  | login =>
    exact request_lists ctx draws params (.ofLogin ctx draws) (fun _ _ => .pure _)
      (fun request => Login.run_lists issuer ctx.now draws h request) h
  | logout =>
    exact request_lists ctx draws params (.ofLogout ctx) (fun _ _ => .pure _)
      (fun request => Logout.run_lists issuer ctx.now draws h request) h
  | unmanaged =>
    refine request_lists ctx draws params (.ofRestart ctx draws) (fun outcome view => ?_)
      (fun request => Unmanaged.run_lists issuer ctx.now draws h request _) h
    cases outcome <;> exact .pure _
  | _ => refine quiet ?_ ?_ ?_ <;> simp

theorem dispatchNotice_lists (action : NotifyAction) (token : String) (h : s.backend.Lists view) :
    ((inMemory config cipher issuer).dispatchNotice ctx draws action token params s).2.backend.Lists
      (relisted issuer s.backend (Errand.ofNotice? ctx draws action params) view) := by
  cases action with
  | login =>
    exact request_lists ctx draws params (.ofLogin ctx draws) (fun _ _ => .pure _)
      (fun request => Login.run_lists issuer ctx.now draws h request) h
  | logout =>
    exact request_lists ctx draws params (.ofLogout ctx) (fun _ _ => .pure _)
      (fun request => Logout.run_lists issuer ctx.now draws h request) h
  | data =>
    have hnotify (notification : Notification) :
        Keeps (fun s : State Broker TicketTable => s.backend.Lists view)
          (onBackend (Broker.backend.notifyService notification)) :=
      onBackend_keeps (P := Lists view) (Broker.notifyService_shows notification)
    have entries : Keeps (fun s : State Broker TicketTable => s.backend.Lists view)
        (liftM (Notification.entriesOf params) : CallM Broker TicketTable (List IdEntry)) := by
      intro s hs
      cases Notification.entriesOf params <;> exact hs
    refine Keeps.bind entries (fun ids => .bind (hnotify _) fun outcome => ?_) s h
    cases outcome with
    | ok _ => exact .pure _
    | error _ => exact .throw _

theorem handle_lists (action : Action) (h : s.backend.Lists view) :
    ((inMemory config cipher issuer).handle ctx draws action params s).2.backend.Lists
      (relisted issuer s.backend (if (inMemory config cipher issuer).isBlocked ctx s then none
        else Errand.ofAction? ctx draws action params) view) := by
  have hdone : ((inMemory config cipher issuer).dispatch ctx draws action params s).2.backend.Lists
      (relisted issuer s.backend (Errand.ofAction? ctx draws action params) view) :=
    dispatch_lists ctx draws params action h
  rw [handle_eq]
  dsimp only
  cases hbypass : action.bypassesGuard with
  | true =>
    -- a registration is no errand
    have hnone : Errand.ofAction? ctx draws action params = none := by
      rw [of_decide_eq_true hbypass]
      rfl
    rw [hnone] at hdone ⊢
    rwa [ite_self]
  | false =>
    cases (inMemory config cipher issuer).isBlocked ctx s with
    | true => exact h
    | false => exact hdone

theorem notify_lists (h : s.backend.Lists view) :
    ((inMemory config cipher issuer).notify ctx draws params s).2.backend.Lists
      (relisted issuer s.backend (if (inMemory config cipher issuer).isBlocked ctx s then none
        else (Call.notice ctx draws params).errand?) view) := by
  rw [notify_eq]
  simp only [Call.errand?]
  cases header params with
  | error e => split <;> exact h
  | ok head =>
    dsimp only
    cases (inMemory config cipher issuer).isBlocked ctx s with
    | true => exact h
    | false => exact dispatchNotice_lists ctx draws params head.1 head.2 h

/-- A call leaves the lists as its errand has it, if the guard lets it pass. -/
theorem take_lists (call : Call) (h : s.backend.Lists view) :
    ((inMemory config cipher issuer).take call s).2.backend.Lists
      (relisted issuer s.backend
        (if (inMemory config cipher issuer).isBlocked call.ctx s then none else call.errand?) view) := by
  cases call with
  | action ctx draws action params => exact handle_lists ctx draws params action h
  | notice ctx draws params => exact notify_lists ctx draws params h

end Calls

/-! ## What happens to an executor -/

/-- The sessions of a user service, if it is there. -/
def sessionsOf (id : Uuid) (s : State Broker TicketTable) : Option (List Session) :=
  (s.backend.userService? id).map UserService.sessions

/-- No OS manager touches any sessions. -/
abbrev SparesSessions (s : State Broker TicketTable) : Prop :=
  s.backend.Hooks (OsManager.Spares UserService.sessions)

section Events

variable {config : BrokerConfig} {cipher : Cipher} {issuer : Issuer} {s : State Broker TicketTable} {id : Uuid}
  {event : Event}

/-- What is no task of the administration leaves the lists as its errand has it. -/
theorem Event.happen_lists {view : Uuid → Option (List Session)} (hevent : ∀ task, event ≠ .administer task)
    (h : s.backend.Lists view) :
    (event.happen (inMemory config cipher issuer) s).backend.Lists
      (relisted issuer s.backend
        (if event.isTurnedAway (inMemory config cipher issuer) s then none else event.errand?) view) := by
  cases event with
  | call call => exact take_lists call h
  | administer task => exact absurd rfl (hevent task)
  | ticket task => exact h
  | query q now draws =>
    cases q with
    | openSession token user =>
      exact Keeps.after (P := Lists _) (Broker.openSession_lists h token user draws.session now) fun _ => .pure _
    | closeSession token user named =>
      exact Keeps.after (P := Lists _) (Broker.closeSession_lists h token user named now) fun _ => .pure _
    | _ =>
      exact Broker.answer_shows UserService.sessions_plain.steady (fun _ hm => hm) (by trivial) issuer now draws _ h
  | recordVersion token version ip =>
    exact Broker.recordVersion_shows UserService.sessions_plain.steady token version ip h
  | appendLog token level message now => exact Broker.appendLog_shows token level message now h
  | recordFailure source now => exact h
  | clearFailures source => exact h

theorem Event.SparesShown.hooks {γ : Type} {g : UserService → γ} (h : event.SparesShown g) :
    event.Hooks (OsManager.Spares g) := by
  cases event with
  | administer task => exact h.1
  | _ => trivial

/-- OS managers come by tasks of the administration only, and stay as they are. -/
theorem Event.happen_hooks {H : OsManager → Prop} (hhooks : event.Hooks H) (hs : s.backend.Hooks H) :
    (event.happen (inMemory config cipher issuer) s).backend.Hooks H := by
  refine Event.happen_keeps Broker.backend_hooks ?_ hs
  rintro task rfl
  exact Broker.Task.perform_hooks hhooks hs

theorem relisted_eq (b : Broker) (errand : Option Errand) (view : Uuid → Option (List Session)) (id : Uuid) :
    relisted issuer b errand view id = (view id).map fun sessions =>
      ((errand.filter fun errand => errand.target? issuer b = some id).map Errand.mark).elim sessions
        (·.apply sessions) := by
  cases errand with
  | none => simp [relisted]
  | some errand =>
    by_cases htarget : errand.target? issuer b = some id <;>
      simp [relisted, changeAt, htarget, Option.filter_some]

/-- An event leaves its mark on the sessions of a user service that it does not supplant. -/
theorem Event.happen_sessions {sessions : List Session} (hspares : event.SparesShown UserService.sessions)
    (hs : SparesSessions s) (hkept : ¬ event.Supplants id s) (hsessions : sessionsOf id s = some sessions) :
    sessionsOf id (event.happen (inMemory config cipher issuer) s) =
      some ((event.mark? (inMemory config cipher issuer) id s).elim sessions (·.apply sessions)) := by
  have hlists : s.backend.Lists fun id => sessionsOf id s := ⟨hs, fun _ => rfl⟩
  have other (hevent : ∀ task, event ≠ .administer task) :
      sessionsOf id (event.happen (inMemory config cipher issuer) s) =
        some ((event.mark? (inMemory config cipher issuer) id s).elim sessions (·.apply sessions)) := by
    refine ((Event.happen_lists hevent hlists).shown id).trans ?_
    rw [relisted_eq, hsessions, Option.map_some]
    unfold Event.mark? Event.errandOn?
    split <;> rfl
  cases event with
  | administer task =>
    exact (Broker.Task.perform_shown UserService.sessions_plain hspares.2 hkept).trans hsessions
  | _ => exact other (by simp)

end Events

end SessionBroker.Executor
