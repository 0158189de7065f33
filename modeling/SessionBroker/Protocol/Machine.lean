import SessionBroker.Error
import SessionBroker.Protocol.Query

/-!
# Protocols as machines

A protocol is a first move and a way to go on with the reply to its last query. Every query brings it
nearer to its end: `rank` bounds how many more can follow, so a run ends by the type of the protocol.

`Machine` is a protocol under way that is driven from outside: `recv` delivers a reply, `pollTransmit`
takes the next query and `pollResult` takes the result, once. `Protocol.run` lets a function answer the
queries.
-/

namespace SessionBroker

/-- The random values that one call may need. -/
structure Draws where
  /-- The token of an actor or an alias. -/
  token : String
  session : String
  password : String
deriving Repr

/-- What a protocol does next. -/
inductive Move (σ α : Type)
  | ask (query : Query) (next : σ)
  | finish (result : α)
  | fail (error : ProtocolError)

namespace Move

variable {σ α : Type}

/-- The move that a reply of the wrong kind leads to. -/
def unexpected (state : String) : Move σ α := .fail (.unexpectedReply state)

/-- If the protocol goes on, then to a state of a lower rank. -/
def Below (rank : σ → Nat) (bound : Nat) : Move σ α → Prop
  | .ask _ next => rank next < bound
  | .finish _ | .fail _ => True

variable {rank : σ → Nat} {bound : Nat}

@[simp] theorem below_ask {query : Query} {next : σ} :
    (ask query next : Move σ α).Below rank bound ↔ rank next < bound := Iff.rfl

@[simp] theorem below_finish {result : α} : (finish result : Move σ α).Below rank bound := trivial

@[simp] theorem below_fail {error : ProtocolError} : (fail error : Move σ α).Below rank bound := trivial

@[simp] theorem below_unexpected {state : String} : (unexpected state : Move σ α).Below rank bound :=
  trivial

end Move

structure Protocol (σ α : Type) where
  start : Move σ α
  resume : Instant → Draws → σ → Reply → Move σ α
  rank : σ → Nat
  resume_below (now : Instant) (draws : Draws) (s : σ) (reply : Reply) :
    (resume now draws s reply).Below rank (rank s)

/-- How far a machine has come. -/
inductive Stage (σ α : Type)
  | idle
  | waiting (state : σ)
  | failed (error : ProtocolError)
  | finished (result : α)
  /-- The result has been taken. -/
  | drained

/-- A protocol under way, with the queries that nobody has taken yet. -/
structure Machine (σ α : Type) where
  stage : Stage σ α
  queue : List Query

namespace Machine

variable {σ α : Type}

def start : Machine σ α := ⟨.idle, []⟩

def take (m : Machine σ α) : Move σ α → Machine σ α
  | .ask query next => ⟨.waiting next, m.queue ++ [query]⟩
  | .finish result => { m with stage := .finished result }
  | .fail error => { m with stage := .failed error }

/-- The first call starts the machine, whatever it brings. Later ones without a reply do nothing. -/
def recv (p : Protocol σ α) (now : Instant) (draws : Draws) (reply : Option Reply) (m : Machine σ α) :
    Machine σ α :=
  match m.stage with
  | .idle => m.take p.start
  | .waiting s => match reply with
    | none => m
    | some r => m.take (p.resume now draws s r)
  | _ => m

/-- Takes the oldest query. -/
def pollTransmit (m : Machine σ α) : Option Query × Machine σ α :=
  match m.queue with
  | [] => (none, m)
  | query :: rest => (some query, { m with queue := rest })

/-- Takes the result, if there is one that has not been taken yet. -/
def pollResult (m : Machine σ α) : Option (Except ProtocolError α) × Machine σ α :=
  match m.stage with
  | .failed error => (some (.error error), { m with stage := .drained })
  | .finished result => (some (.ok result), { m with stage := .drained })
  | _ => (none, m)

end Machine

namespace Protocol

variable {σ α β : Type}

/-- The outcome of a run over stored state. -/
abbrev RunM (β α : Type) := ExceptT ProtocolError (StateM β) α

/-- Goes on from a state whose query has not been answered yet. A failure of storage ends the run. -/
def runFrom (p : Protocol σ α) (answer : Query → StoreM β Reply) (now : Instant) (draws : Draws) (s : σ)
    (query : Query) : RunM β α := fun b =>
  match answer query b with
  | (.error e, b) => (.error (.store e), b)
  | (.ok reply, b) => match _h : p.resume now draws s reply with
    | .ask query next => runFrom p answer now draws next query b
    | .finish result => (.ok result, b)
    | .fail error => (.error error, b)
termination_by p.rank s
decreasing_by
  have below := p.resume_below now draws s reply
  rw [_h] at below
  exact below

/-- Runs a protocol to its end. -/
def run (p : Protocol σ α) (answer : Query → StoreM β Reply) (now : Instant) (draws : Draws) : RunM β α :=
  match p.start with
  | .ask query next => p.runFrom answer now draws next query
  | .finish result => fun b => (.ok result, b)
  | .fail error => fun b => (.error error, b)

end Protocol

end SessionBroker
