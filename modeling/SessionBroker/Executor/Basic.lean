import SessionBroker.Broker.Backend
import SessionBroker.Executor.Request
import SessionBroker.Guard.Basic
import SessionBroker.Protocol.Binding
import SessionBroker.Protocol.Login
import SessionBroker.Protocol.Logout
import SessionBroker.Protocol.Register
import SessionBroker.Protocol.Unmanaged
import SessionBroker.Ticket.Store

/-!
# Calls of actors

The executor takes the calls of actors, runs the action that each asks for, and applies the policy for
failures. Every failure leaves it as a refusal that tells nothing. What looks like guessing counts
against the source of the call, and a call that succeeds clears the count of its source.
-/

namespace SessionBroker

/-- What is known about a call besides its parameters. -/
structure RequestContext where
  now : Instant
  /-- The address that failures count against. -/
  source : String
  caller : Option StaffUser
deriving Repr

/-- The answer to a call that was carried out. -/
structure ActorReply where
  result : Json
  error : Option String
deriving Repr

namespace ActorReply

def ok (result : Json) : ActorReply := ⟨result, none⟩

def failed (result : Json) (error : String) : ActorReply := ⟨result, some error⟩

end ActorReply

/-- The parts of an executor that stay the same from call to call. -/
structure Executor (σ τ : Type) where
  backend : Backend σ
  repository : Repository τ
  cipher : Cipher
  issuer : Issuer
  guard : GuardConfig
  tickets : TicketConfig
  version : String
  /-- The ciphers that actors are told to use. -/
  ciphers : Option String

namespace Executor

/-- What an executor keeps from call to call. -/
structure State (σ τ : Type) where
  backend : σ
  tickets : τ
  counters : Counters

variable {σ τ : Type}

/-- A piece of a call. -/
abbrev CallM (σ τ α : Type) := ExceptT ActorError (StateM (State σ τ)) α

/-- The parameters of an action. -/
def parameters (ρ : Type) [FromJson ρ] (params : Json) : CallM σ τ ρ :=
  match (fromJson params : Decoded ρ) with
  | .ok request => pure request
  | .error e => throw (.ofDecode e)

def onBackend {α : Type} (m : StoreM σ α) : CallM σ τ α := fun s =>
  let (a, backend) := m s.backend
  (a.mapError .store, { s with backend := backend })

def onTickets {α : Type} (m : TicketM τ α) : StateM (State σ τ) (Except TicketError α) := fun s =>
  let (a, tickets) := m s.tickets
  (a, { s with tickets := tickets })

def recordFailure (x : Executor σ τ) (ctx : RequestContext) (s : State σ τ) : State σ τ :=
  { s with counters := Guard.recordFailure x.guard s.counters ctx.source ctx.now }

def clearFailures (ctx : RequestContext) (s : State σ τ) : State σ τ :=
  { s with counters := Guard.clear s.counters ctx.source }

def isBlocked (x : Executor σ τ) (ctx : RequestContext) (s : State σ τ) : Bool :=
  Guard.isBlocked x.guard s.counters ctx.source ctx.now

/-- The failures that are remembered of a source. -/
def failures (s : State σ τ) (source : String) (now : Instant) : Nat :=
  Guard.failures s.counters source now

def run {ς α : Type} (x : Executor σ τ) (p : Protocol ς α) (ctx : RequestContext) (draws : Draws) :
    CallM σ τ α := fun s =>
  let (a, backend) := x.backend.run x.issuer p ctx.now draws s.backend
  (a.mapError .ofProtocol, { s with backend := backend })

/-- Delivers a ticket, which is used up by it. A ticket that cannot be read is an answer, not a failure. -/
def ticket (x : Executor σ τ) (ctx : RequestContext) (request : TicketRequest) :
    CallM σ τ ActorReply := do
  if !(← onBackend (x.backend.validateActorToken request.token)) then throw .blockAccess
  let fetch : StateM (State σ τ) (Except TicketError Json) :=
    onTickets (Ticket.fetch x.repository x.cipher request.ticket true none false ctx.now)
  match ← fetch with
  | .ok payload => return .ok payload
  | .error (.invalidTicket _) => return .failed .null "Invalid ticket"
  | .error (.store e) => throw (.store e)
  | .error e => throw (.invalidTicket e.message)

/-- Says whether a token is valid. One that is not counts as a failure, though the call succeeds. -/
def test (x : Executor σ τ) (ctx : RequestContext) (request : TestRequest) : CallM σ τ ActorReply := do
  let valid ← match request.kind with
    | .unmanaged => Option.isSome <$> onBackend (x.backend.findService request.token true)
    | .managed => onBackend (x.backend.validateActorToken request.token)
  if valid then return .ok (.str "ok")
  modify (x.recordFailure ctx)
  return .failed (.str "invalid token") "invalid token"

/-- Carries out an action. -/
def dispatch (x : Executor σ τ) (ctx : RequestContext) (draws : Draws) (action : Action)
    (params : Json) : CallM σ τ ActorReply := do
  match action with
  | .register =>
    let request ← parameters RegisterRequest params
    let token ← x.run (Register.protocol request ctx.caller ctx.source) ctx draws
    return .ok (.str token)
  | .bindActor =>
    let request ← parameters BindingRequest params
    let binding ← x.run (Binding.protocol request) ctx draws
    return .ok binding.toJson
  | .login =>
    let request ← parameters LoginRequest params
    let info ← x.run (Login.protocol request) ctx draws
    return .ok (toJson info)
  | .logout =>
    let request ← parameters LogoutRequest params
    let outcome ← x.run (Logout.protocol request) ctx draws
    return .ok (.str outcome.result)
  | .ready =>
    let request ← parameters ReadyRequest params
    let reply ← x.run (Ready.protocol request true x.ciphers) ctx draws
    return .ok (toJson reply)
  | .ipChange =>
    let request ← parameters ReadyRequest params
    let reply ← x.run (Ready.protocol request false x.ciphers) ctx draws
    return .ok (toJson reply)
  | .unmanaged =>
    let request ← parameters UnmanagedRequest params
    match ← x.run (Unmanaged.protocol request x.ciphers) ctx draws with
    | .invalidToken => return .failed .null "Invalid token"
    | .certificate reply => return .ok (toJson reply)
  -- Notifications come in by `notify` alone.
  | .notify => throw .accessDenied
  | .ticket => x.ticket ctx (← parameters TicketRequest params)
  | .version =>
    let request ← parameters VersionRequest params
    if ← onBackend (x.backend.recordVersion request.token request.version request.ip) then
      return .ok (.str "ok")
    throw .blockAccess
  | .log =>
    let request ← parameters LogRequest params
    match ← onBackend (x.backend.actorVersion request.token) with
    | none => throw .blockAccess
    | some version =>
      let level := LogLevel.ofActor request.level version
      let _ ← onBackend (x.backend.appendLog request.token level request.message ctx.now)
      return .ok (.str "ok")
  | .test => x.test ctx (← parameters TestRequest params)

/-- The failure looks like guessing. -/
def countsAsGuess : ActorError → Bool
  | .blockAccess | .missingField _ => true
  | _ => false

/-- Takes one call. Whatever went wrong, the caller is only refused. -/
def handle (x : Executor σ τ) (ctx : RequestContext) (draws : Draws) (action : Action) (params : Json) :
    CallM σ τ ActorReply := fun s =>
  if action.bypassesGuard then
    match x.dispatch ctx draws action params s with
    | (.ok reply, s) => (.ok reply, s)
    | (.error _, s) => (.error .accessDenied, s)
  else if x.isBlocked ctx s then (.error .blocked, x.recordFailure ctx s)
  else match x.dispatch ctx draws action params s with
    | (.ok reply, s) => (.ok reply, if reply.error.isNone then clearFailures ctx s else s)
    | (.error e, s) => (.error .accessDenied, if countsAsGuess e then x.recordFailure ctx s else s)

/-- Carries out a notification. -/
def dispatchNotice (x : Executor σ τ) (ctx : RequestContext) (draws : Draws) (action : NotifyAction)
    (token : String) (params : Json) : CallM σ τ Unit := do
  match action with
  | .login =>
    let request ← parameters LoginRequest params
    let _ ← x.run (Login.protocol request) ctx draws
  | .logout =>
    let request ← parameters LogoutRequest params
    let _ ← x.run (Logout.protocol request) ctx draws
  | .data =>
    let ids ← Notification.entriesOf params
    let sessionType := Notification.textOf params "session_type"
    match ← onBackend (x.backend.notifyService ⟨token, action, ids, sessionType, params.get? "data"⟩) with
    | .ok () => return
    | .error reason => throw (.ofProtocol (.notify reason))

/-- Takes a notification, whose parameters say what it is. Every failure past that counts against the
source. -/
def notify (x : Executor σ τ) (ctx : RequestContext) (draws : Draws) (params : Json) :
    CallM σ τ ActorReply := fun s =>
  match (params.get? "action").bind Json.text?, (params.get? "token").bind Json.text? with
  | some action, some token => match NotifyAction.parse action with
    | .error e => (.error (.requestError e.message), s)
    | .ok action =>
      if x.isBlocked ctx s then (.error .blocked, x.recordFailure ctx s)
      else match x.dispatchNotice ctx draws action token params s with
        | (.ok _, s) => (.ok (.ok (.str "ok")), clearFailures ctx s)
        | (.error _, s) => (.error .accessDenied, x.recordFailure ctx s)
  | _, _ => (.error (.requestError "Invalid parameters"), s)

def authenticate (x : Executor σ τ) (bearer : String) (s : State σ τ) : Option StaffUser :=
  x.backend.authenticate bearer s.backend

def cleanupTickets (x : Executor σ τ) (now : Instant) :
    StateM (State σ τ) (Except TicketError Nat) :=
  onTickets (Ticket.cleanup x.repository x.tickets now)

end Executor

end SessionBroker
