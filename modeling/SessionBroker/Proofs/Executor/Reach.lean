import SessionBroker.Executor.Memory
import SessionBroker.Proofs.Broker.Task
import SessionBroker.Proofs.Ticket.Task

/-!
# What an executor can come to

An executor in memory starts with nothing and is changed by the calls of actors, by tasks of the
administration and of the ticket store, and by whoever uses its backend or its guard directly. Every state
that it comes to has a sound broker.
-/

namespace SessionBroker.Executor

open Effect (Keeps)

/-- Something that happens to an executor in memory. -/
inductive Event
  | call (call : Call)
  | administer (task : Broker.Task)
  | ticket (task : Ticket.Task)
  | query (query : Query) (now : Instant) (draws : Draws)
  | recordVersion (token version ip : String)
  | appendLog (token : String) (level : LogLevel) (message : String) (now : Instant)
  | recordFailure (source : String) (now : Instant)
  | clearFailures (source : String)

namespace Event

/-- The state after an event, whatever came of it. -/
def happen (x : Executor Broker TicketTable) (s : State Broker TicketTable) :
    Event → State Broker TicketTable
  | call c => (x.take c s).2
  | administer task => { s with backend := task.perform s.backend }
  | ticket task => { s with tickets := task.perform x.repository x.cipher x.tickets s.tickets }
  | query q now draws => { s with backend := (x.backend.answer x.issuer now draws q s.backend).2 }
  | recordVersion token version ip =>
    { s with backend := (x.backend.recordVersion token version ip s.backend).2 }
  | appendLog token level message now =>
    { s with backend := (x.backend.appendLog token level message now s.backend).2 }
  | recordFailure source now =>
    { s with counters := Guard.recordFailure x.guard s.counters source now }
  | clearFailures source => { s with counters := Guard.clear s.counters source }

def Admissible : Event → Prop
  | administer task => task.Admissible
  | _ => True

end Event

/-- The state can come about by admissible events. -/
inductive Reachable (x : Executor Broker TicketTable) : State Broker TicketTable → Prop
  | start : Reachable x .initial
  | next {s} (before : Reachable x s) (event : Event) (h : event.Admissible) :
      Reachable x (event.happen x s)

theorem take_keeps {σ τ : Type} {x : Executor σ τ} {Q : State σ τ → Prop}
    (h : ∀ ctx draws, x.Undisturbed ctx draws Q)
    (hcounters : ∀ s counters, Q s → Q { s with counters := counters })
    (htickets : ∀ s tickets, Q s → Q { s with tickets := tickets }) (call : Call) :
    Keeps Q (x.take call) := by
  cases call with
  | action ctx draws action params =>
    exact handle_keeps ((h ctx draws).spares action) params hcounters fun _ => htickets
  | notice ctx draws params =>
    have spared := h ctx draws
    exact notify_keeps spared.login spared.logout spared.notifyService hcounters params

variable {config : BrokerConfig} {cipher : Cipher} {issuer : Issuer} {s : State Broker TicketTable}

/-- What every operation of the backend keeps, every event keeps, tasks of the administration apart. -/
theorem Event.happen_keeps {P : Broker → Prop} {event : Event} (hkeeps : Broker.backend.Keeps P)
    (htask : ∀ task, event = .administer task → P (task.perform s.backend)) (hs : P s.backend) :
    P (event.happen (inMemory config cipher issuer) s).backend := by
  cases event with
  | call c =>
    exact take_keeps (fun ctx draws => undisturbed_backend hkeeps ctx draws) (fun _ _ h => h) (fun _ _ h => h) c s hs
  | administer task => exact htask task rfl
  | ticket task => exact hs
  | query q now draws => exact hkeeps.answer issuer now draws q _ hs
  | recordVersion token version ip => exact hkeeps.recordVersion token version ip _ hs
  | appendLog token level message now => exact hkeeps.appendLog token level message now _ hs
  | recordFailure source now => exact hs
  | clearFailures source => exact hs

theorem Event.happen_sound {event : Event} (h : event.Admissible) (hs : s.backend.Sound) :
    (event.happen (inMemory config cipher issuer) s).backend.Sound := by
  refine Event.happen_keeps Broker.backend_keeps ?_ hs
  rintro task rfl
  exact Broker.Task.perform_sound hs h

theorem Reachable.sound (h : Reachable (inMemory config cipher issuer) s) : s.backend.Sound := by
  induction h with
  | start => exact Broker.Sound.empty
  | next _ event h ih => exact event.happen_sound h ih

/-! ## Runs -/

section Runs

/-- The state that a run of events leads to. -/
def after (x : Executor Broker TicketTable) (events : List Event) (s : State Broker TicketTable) :
    State Broker TicketTable := events.foldl (Event.happen x) s

/-- What the events of a run bring about, in order. -/
def gather {α : Type} (x : Executor Broker TicketTable) (f : State Broker TicketTable → Event → Option α) :
    List Event → State Broker TicketTable → List α
  | [], _ => []
  | event :: rest, s => (f s event).toList ++ gather x f rest (event.happen x s)

/-- Something holds of every state that a run of events goes through, the first and the last included. -/
def Throughout (x : Executor Broker TicketTable) (Q : State Broker TicketTable → Prop) :
    List Event → State Broker TicketTable → Prop
  | [], s => Q s
  | event :: rest, s => Q s ∧ Throughout x Q rest (event.happen x s)

/-- Something holds of every event of a run and the state that it meets. -/
def Meets (x : Executor Broker TicketTable) (R : State Broker TicketTable → Event → Prop) :
    List Event → State Broker TicketTable → Prop
  | [], _ => True
  | event :: rest, s => R s event ∧ Meets x R rest (event.happen x s)

variable {x : Executor Broker TicketTable} {I Q : State Broker TicketTable → Prop} {A : Event → Prop}
  {R : State Broker TicketTable → Event → Prop} {events : List Event}

theorem Meets.of_forall (h : ∀ s event, R s event) (events : List Event) (s : State Broker TicketTable) :
    Meets x R events s := by
  induction events generalizing s with
  | nil => trivial
  | cons event rest ih => exact ⟨h s event, ih _⟩

theorem Throughout.start (h : Throughout x Q events s) : Q s := by
  cases events with
  | nil => exact h
  | cons event rest => exact h.1

theorem Throughout.last (h : Throughout x Q events s) : Q (x.after events s) := by
  induction events generalizing s with
  | nil => exact h
  | cons event rest ih => exact ih h.2

/-- Where each event leads on exactly if it is of one kind, a run never leaves what holds at its start exactly
if all its events are of that kind. An invariant of the run may be used on the way. -/
theorem throughout_iff (hinv : ∀ s event, I s → A event → I (event.happen x s))
    (hstep : ∀ s event, I s → A event → Q s → (Q (event.happen x s) ↔ R s event))
    (hI : I s) (hQ : Q s) (hA : ∀ event ∈ events, A event) :
    Throughout x Q events s ↔ Meets x R events s := by
  induction events generalizing s with
  | nil => exact ⟨fun _ => trivial, fun _ => hQ⟩
  | cons event rest ih =>
    obtain ⟨hfirst, hrest⟩ := List.forall_mem_cons.mp hA
    have hstep := hstep s event hI hfirst hQ
    have hI := hinv s event hI hfirst
    constructor
    · rintro ⟨-, hthroughout⟩
      have hQ : Q (event.happen x s) := hthroughout.start
      exact ⟨hstep.mp hQ, (ih hI hQ hrest).mp hthroughout⟩
    · rintro ⟨hR, hmeets⟩
      exact ⟨hQ, (ih hI (hstep.mpr hR) hrest).mpr hmeets⟩

/-- What each event of a run keeps holds throughout the run. -/
theorem throughout_of_keeps (hinv : ∀ s event, I s → A event → I (event.happen x s))
    (hstep : ∀ s event, I s → A event → Q s → Q (event.happen x s)) (hI : I s) (hQ : Q s)
    (hA : ∀ event ∈ events, A event) : Throughout x Q events s :=
  (throughout_iff hinv (R := fun _ _ => True)
    (fun s event hI hA hQ => iff_true_intro (hstep s event hI hA hQ)) hI hQ hA).mpr
    (.of_forall (fun _ _ => trivial) events s)

/-- What each event keeps that meets what is wanted of it holds throughout the run. -/
theorem throughout_of_meets (hstep : ∀ s event, A event → R s event → Q s → Q (event.happen x s)) (hQ : Q s)
    (hA : ∀ event ∈ events, A event) (hmeets : Meets x R events s) : Throughout x Q events s := by
  induction events generalizing s with
  | nil => exact hQ
  | cons event rest ih =>
    obtain ⟨hfirst, hrest⟩ := List.forall_mem_cons.mp hA
    exact ⟨hQ, ih (hstep s event hfirst hmeets.1 hQ) hrest hmeets.2⟩

theorem Throughout.mono {Q' : State Broker TicketTable → Prop} (h : Throughout x Q events s)
    (hmono : ∀ s, Q s → Q' s) : Throughout x Q' events s := by
  induction events generalizing s with
  | nil => exact hmono s h
  | cons event rest ih => exact ⟨hmono s h.1, ih h.2⟩

/-- A user service comes to a pool that takes every one and that has an OS manager. -/
def trialArrival (manager : OsManager) (provider : Provider) : List Event :=
  [.administer (.addPool ⟨.nil, .nil, "pool", none⟩ (some manager) ⟨.zero, 0⟩),
    .administer (.addUserService (.fresh .nil .nil "desktop" "desktop" .l1 .epoch) provider .epoch)]

end Runs

end SessionBroker.Executor
