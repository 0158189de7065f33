import SessionBroker.Executor.Memory
import SessionBroker.Http.Exchange

/-!
# The server

A server answers requests one after the other. It draws the random values that each of them may need,
and sweeps the tickets before a request when the last sweep lies long enough in the past.
-/

namespace SessionBroker

structure Server where
  router : Router Broker TicketTable
  sweepEvery : Duration

namespace Server

/-- The least time between two sweeps. -/
def leastSweep : Duration := .ofSeconds 1

def ofConfig (config : BrokerConfig) (cipher : Cipher) (issuer : Issuer) : Server where
  router := ⟨Executor.inMemory config cipher issuer, config.server.trustedProxies⟩
  sweepEvery := ⟨max config.tickets.cleanupInterval.ms leastSweep.ms⟩

/-- What a server keeps from request to request. -/
structure State where
  router : Router.State Broker TicketTable
  entropy : Entropy
  lastSweep : Option Instant

/-- The holders of the configured tokens are staff. -/
def State.initial (config : BrokerConfig) (entropy : Entropy) : State where
  router :=
    let broker := config.server.staff.foldl (fun b s => b.addStaff s.token ⟨s.name, true⟩) Broker.empty
    ⟨⟨broker, [], []⟩, 0⟩
  entropy := entropy
  lastSweep := none

def sweepDue (server : Server) (now : Instant) (s : State) : Bool :=
  match s.lastSweep with
  | none => true
  | some last => last.after server.sweepEvery ≤ now

/-- Sweeps the tickets if it is time. A sweep that fails is tried again at the next turn. -/
def sweep (server : Server) (now : Instant) : StateM State Unit := fun s =>
  if server.sweepDue now s then
    let (_, executor) := server.router.executor.cleanupTickets now s.router.executor
    ((), { s with router := { s.router with executor := executor }, lastSweep := some now })
  else ((), s)

def serve (server : Server) (now : Instant) (request : HttpRequest) : StateM State HttpResponse := do
  server.sweep now
  let s ← get
  let (draws, entropy) := Draws.draw s.entropy
  let (response, router) := server.router.serve now draws request s.router
  set { s with router := router, entropy := entropy }
  return response

/-- Answers a request in its JSON form, which names the instant at which it came under `now`. -/
def answer (server : Server) (j : Json) : StateM State Json := do
  return (← server.serve (j.instantAt "now") (.ofJson j)).toJson

end Server

end SessionBroker
