import SessionBroker.Proofs.Executor.Atomic
import SessionBroker.Proofs.Ticket.Final

/-!
# Tickets are delivered once

The tickets of an executor change by tasks of the ticket store and by calls for a ticket, which use it up. So
along a run whose calls come at instants that do not decrease, a ticket is delivered at most once, unless
somebody revalidates it or creates another one under its id.
-/

namespace SessionBroker.Executor

open Ticket (Spent handleId performAll)

/-! ## Calls and tickets -/

/-- The ticket that a call asks for. -/
def Call.wanted : Call → Option String
  | .action _ _ .ticket params => match (fromJson params : Decoded TicketRequest) with
    | .ok request => some request.ticket
    | .error _ => none
  | _ => none

/-- The call hands the ticket out: it asks for it and is answered without an error. -/
def delivers (id : String) (call : Call) (outcome : Except ActorError ActorReply) : Bool :=
  call.wanted = some id && !failed outcome

variable {config : BrokerConfig} {cipher : Cipher} {issuer : Issuer} {s : State Broker TicketTable}
  {id : String} {now : Instant}

/-- An action that is not a call for a ticket leaves the tickets alone. -/
theorem handle_tickets_of_ne {σ τ : Type} (x : Executor σ τ) (ctx : RequestContext) (draws : Draws)
    {action : Action} (params : Json) (s : State σ τ) (h : action ≠ .ticket) :
    (x.handle ctx draws action params s).2.tickets = s.tickets :=
  handle_keeps ((x.undisturbed_besides ctx draws fun tickets _ => tickets = s.tickets).spares action) params
    (fun _ _ h => h) (fun ht => absurd ht h) s rfl

/-- A call for a ticket is turned away, or it reads the ticket and uses it up. -/
theorem handle_ticket (config : BrokerConfig) (cipher : Cipher) (issuer : Issuer)
    (s : State Broker TicketTable) (ctx : RequestContext) (draws : Draws) (params : Json) :
    let done := (inMemory config cipher issuer).handle ctx draws .ticket params s
    (failed done.1 ∧ done.2.tickets = s.tickets) ∨
      ∃ request, (fromJson params : Decoded TicketRequest) = .ok request ∧
        (∀ e, (Ticket.fetch memoryRepository cipher request.ticket true none false ctx.now s.tickets).1 =
          .error e → failed done.1) ∧
        done.2.tickets =
          (Ticket.fetch memoryRepository cipher request.ticket true none false ctx.now s.tickets).2 := by
  dsimp only
  rw [handle_eq]
  dsimp only
  rw [if_neg (by decide)]
  split
  · exact .inl ⟨rfl, rfl⟩
  · have hdispatch : (inMemory config cipher issuer).dispatch ctx draws .ticket params s =
        (parameters TicketRequest params >>= (inMemory config cipher issuer).ticket ctx :
          CallM Broker TicketTable ActorReply) s := rfl
    rw [hdispatch]
    cases hr : (fromJson params : Decoded TicketRequest) with
    | error e =>
      rw [Effect.run_bind_of_error (parameters_of_error hr s)]
      exact .inl ⟨rfl, rfl⟩
    | ok request =>
      rw [Effect.run_bind_of_ok (parameters_of_ok hr s), ticket_eq]
      split
      · refine .inr ⟨request, rfl, fun e he => ?_, rfl⟩
        dsimp only
        rw [he]
        cases e <;> rfl
      · exact .inl ⟨rfl, rfl⟩

/-! ## Runs -/

namespace Event

/-- The event is a call that hands the ticket out. -/
def delivers (x : Executor Broker TicketTable) (id : String) (s : State Broker TicketTable) : Event → Bool
  | .call c => Executor.delivers id c (x.take c s).1
  | _ => false

/-- When a call is made. -/
def calledAt : Event → Option Instant
  | .call c => some c.ctx.now
  | _ => none

/-- The event neither creates a ticket of that id nor revalidates it. -/
def Spares (id : String) : Event → Prop
  | .ticket task => task.Spares id
  | _ => True

end Event

/-- The calls among the events come at instants that do not decrease, from the given one on. -/
def Timely (now : Instant) : List Event → Prop
  | [] => True
  | event :: rest => match event.calledAt with
    | some instant => now ≤ instant ∧ Timely instant rest
    | none => Timely now rest

/-- How often the ticket is handed out while the events happen one after the other. -/
def deliveries (x : Executor Broker TicketTable) (id : String) : List Event → State Broker TicketTable → Nat
  | [], _ => 0
  | event :: rest, s =>
    (if event.delivers x id s then 1 else 0) + deliveries x id rest (event.happen x s)

theorem Event.happen_tickets (event : Event) (s : State Broker TicketTable) :
    (event.happen (inMemory config cipher issuer) s).tickets = s.tickets ∨
      ∃ task : Ticket.Task, (∀ id, event.Spares id → task.Spares id) ∧
        (event.happen (inMemory config cipher issuer) s).tickets =
          task.perform memoryRepository cipher config.tickets s.tickets := by
  cases event with
  | call c =>
    cases c with
    | notice ctx draws params =>
      have besides := (inMemory config cipher issuer).undisturbed_besides ctx draws fun tickets _ =>
        tickets = s.tickets
      exact .inl (notify_keeps besides.login besides.logout besides.notifyService (fun _ _ h => h) params s rfl)
    | action ctx draws action params =>
      by_cases h : action = .ticket
      · subst h
        rcases handle_ticket config cipher issuer s ctx draws params with
          ⟨-, hsame⟩ | ⟨request, -, -, hfetch⟩
        · exact .inl hsame
        · refine .inr ⟨.fetch request.ticket true none false ctx.now, fun _ _ => ⟨nofun, nofun⟩, hfetch⟩
      · exact .inl (handle_tickets_of_ne _ ctx draws params s h)
  | ticket task => exact .inr ⟨task, fun _ h => h, rfl⟩
  | _ => exact .inl rfl

theorem Event.happen_tickets_sound (event : Event) (h : Ticket.Sound s.tickets) :
    Ticket.Sound (event.happen (inMemory config cipher issuer) s).tickets := by
  rcases event.happen_tickets s with hsame | ⟨task, -, htask⟩
  · rw [hsame]
    exact h
  · rw [htask]
    exact (task.perform_change cipher config.tickets s.tickets).sound h

theorem after_tickets_sound (h : Ticket.Sound s.tickets) (events : List Event) :
    Ticket.Sound ((inMemory config cipher issuer).after events s).tickets := by
  induction events generalizing s with
  | nil => exact h
  | cons event rest ih => exact ih (event.happen_tickets_sound h)

theorem Event.happen_spent {event : Event} (h : event.Spares id) (hsound : Ticket.Sound s.tickets)
    (hs : Spent id now s.tickets) :
    Spent id now (event.happen (inMemory config cipher issuer) s).tickets := by
  rcases event.happen_tickets s with hsame | ⟨task, hspares, htask⟩
  · rw [hsame]
    exact hs
  · obtain ⟨hminted, hrevalidated⟩ := hspares id h
    rw [htask]
    exact (task.perform_change cipher config.tickets s.tickets).spent hsound hs hminted hrevalidated

/-- A delivery has read the ticket and used it up. -/
theorem fetched_of_delivers {call : Call}
    (h : delivers id call ((inMemory config cipher issuer).take call s).1) :
    ∃ payload,
      (Ticket.fetch memoryRepository cipher id true none false call.ctx.now s.tickets).1 = .ok payload ∧
      ((inMemory config cipher issuer).take call s).2.tickets =
        (Ticket.fetch memoryRepository cipher id true none false call.ctx.now s.tickets).2 := by
  obtain ⟨hwanted, hfailed⟩ := (Bool.and_eq_true _ _).mp h
  have hwanted : call.wanted = some id := of_decide_eq_true hwanted
  have hfailed : failed ((inMemory config cipher issuer).take call s).1 = false := by simpa using hfailed
  cases call with
  | notice ctx draws params => cases hwanted
  | action ctx draws action params =>
    cases action with
    | ticket =>
      rcases handle_ticket config cipher issuer s ctx draws params with
        ⟨hrefused, -⟩ | ⟨request, hr, herror, htickets⟩
      · exact absurd (hrefused.symm.trans hfailed) (by decide)
      · have hid : request.ticket = id := by simpa [Call.wanted, hr] using hwanted
        subst hid
        cases hfetch : (Ticket.fetch memoryRepository cipher request.ticket true none false ctx.now
            s.tickets).1 with
        | error e => exact absurd ((herror e hfetch).symm.trans hfailed) (by decide)
        | ok payload => exact ⟨payload, hfetch, htickets⟩
    | _ => cases hwanted

/-- A ticket that is spent is not delivered from then on. -/
theorem deliveries_of_spent {events : List Event} (hsound : Ticket.Sound s.tickets)
    (hs : Spent id now s.tickets) (hspares : ∀ event ∈ events, event.Spares id)
    (htimely : Timely now events) :
    deliveries (inMemory config cipher issuer) id events s = 0 := by
  induction events generalizing s now with
  | nil => rfl
  | cons event rest ih =>
    have hspared := hspares event List.mem_cons_self
    have hrest := fun e he => hspares e (List.mem_cons_of_mem event he)
    have hafter : Ticket.Sound (event.happen (inMemory config cipher issuer) s).tickets :=
      event.happen_tickets_sound hsound
    have hspent : Spent id now (event.happen (inMemory config cipher issuer) s).tickets :=
      Event.happen_spent hspared hsound hs
    cases event with
    | call c =>
      obtain ⟨hnow, htimely⟩ : now ≤ c.ctx.now ∧ Timely c.ctx.now rest := htimely
      have hnone : Event.delivers (inMemory config cipher issuer) id s (.call c) = false := by
        refine Bool.eq_false_iff.mpr fun hd => ?_
        obtain ⟨payload, hfetch, -⟩ := fetched_of_delivers hd
        obtain ⟨e, he⟩ := hs.fetch_fails cipher hnow true none false
        exact absurd (hfetch.symm.trans he) nofun
      rw [deliveries, hnone, ih hafter (hspent.mono hnow) hrest htimely]
      rfl
    | _ =>
      rw [deliveries, ih hafter hspent hrest htimely]
      rfl

/-- Along a run whose calls come at instants that do not decrease a ticket is delivered once at most. -/
theorem deliveries_le_one {events : List Event} (hsound : Ticket.Sound s.tickets) (hepoch : 0 ≤ now.ms)
    (htimely : Timely now events) (hspares : ∀ event ∈ events, event.Spares id) :
    deliveries (inMemory config cipher issuer) id events s ≤ 1 := by
  induction events generalizing s now with
  | nil => exact Nat.zero_le 1
  | cons event rest ih =>
    have hrest := fun e he => hspares e (List.mem_cons_of_mem event he)
    have hafter : Ticket.Sound (event.happen (inMemory config cipher issuer) s).tickets :=
      event.happen_tickets_sound hsound
    cases event with
    | call c =>
      obtain ⟨hnow, htimely⟩ : now ≤ c.ctx.now ∧ Timely c.ctx.now rest := htimely
      have hcall : 0 ≤ c.ctx.now.ms := Int.le_trans hepoch hnow
      cases hd : Event.delivers (inMemory config cipher issuer) id s (.call c) with
      | false =>
        rw [deliveries, hd, if_neg Bool.false_ne_true, Nat.zero_add]
        exact ih hafter hcall htimely hrest
      | true =>
        -- the first delivery leaves the ticket spent, so the rest of the run delivers it no more
        obtain ⟨payload, hfetch, htickets⟩ := fetched_of_delivers hd
        have hspent : Spent id c.ctx.now
            ((Event.call c).happen (inMemory config cipher issuer) s).tickets := by
          change Spent id c.ctx.now ((inMemory config cipher issuer).take c s).2.tickets
          rw [htickets]
          exact Ticket.fetch_spent hsound hcall hfetch
        rw [deliveries, hd, deliveries_of_spent hafter hspent hrest htimely]
        exact Nat.le_refl 1
    | _ =>
      rw [deliveries, show Event.delivers _ id s _ = false from rfl, if_neg Bool.false_ne_true, Nat.zero_add]
      exact ih hafter hepoch htimely hrest

/-! ## Reads that use a ticket up -/

/-- A read that uses a ticket up is final. Whatever tasks follow it, as long as none of them revalidates the
ticket or creates another one under its id, nobody reads it from then on, neither by its id nor by a handle.
And along a run of an executor whose calls come at instants that do not decrease, each ticket is delivered once
at most. -/
theorem invalidating_fetch_final (cipher : Cipher) :
    (∀ (config : TicketConfig) (t : TicketTable) (id : String) (owner : Option String) (secure : Bool)
      (now : Instant) (payload : Json), Ticket.Reachable cipher config t → 0 ≤ now.ms →
      (Ticket.fetch memoryRepository cipher id true owner secure now t).1 = .ok payload →
      ∀ tasks : List Ticket.Task, (∀ task ∈ tasks, task.Spares id) → ∀ later, now ≤ later →
        let t' := performAll cipher config tasks
          (Ticket.fetch memoryRepository cipher id true owner secure now t).2
        (∀ invalidate owner secure,
          ∃ e, (Ticket.fetch memoryRepository cipher id invalidate owner secure later t').1 = .error e) ∧
        ∀ handle, handleId handle = id →
          ∃ e, (Ticket.fetchForTunnel memoryRepository cipher handle later t').1 = .error e) ∧
    (∀ (config : BrokerConfig) (issuer : Issuer) (s : State Broker TicketTable) (id : String)
      (events : List Event), Ticket.Sound s.tickets → Timely .epoch events →
      (∀ event ∈ events, event.Spares id) →
      deliveries (inMemory config cipher issuer) id events s ≤ 1) := by
  refine ⟨fun config t id owner secure now payload ht hnow hfetch tasks htasks later hlater => ?_,
    fun config issuer s id events hs htimely hspares => ?_⟩
  · have hsound : Ticket.Sound (Ticket.fetch memoryRepository cipher id true owner secure now t).2 :=
      (Ticket.Reachable.task ht (.fetch id true owner secure now)).sound
    have hspent := Ticket.fetch_spent ht.sound hnow hfetch
    have hstill : Spent id now (performAll cipher config tasks
        (Ticket.fetch memoryRepository cipher id true owner secure now t).2) :=
      Ticket.performAll_spent hsound hspent htasks
    refine ⟨fun invalidate owner secure => hstill.fetch_fails cipher hlater invalidate owner secure, ?_⟩
    rintro handle rfl
    exact hstill.fetchForTunnel_fails hlater
  · exact deliveries_le_one hs (Int.le_refl _) htimely hspares

/-- A ticket that would outlast the range of instants is gone after one read, though it is written to and
swept in between. Of two calls for it that a registered actor makes one is served. -/
theorem invalidating_fetch_final_endless :
    let cipher := TaggedXor.cipher
    let endless : Duration := .ofSeconds 18446744073709551615
    let create : Ticket.Task :=
      .create ⟨"a", "", []⟩ (.obj [("n", .int 1)]) none (some endless) none false .epoch
    let t := create.perform memoryRepository cipher .standard []
    let tasks : List Ticket.Task := [.update [] "a" none false (fun _ => true) [("n", .int 2)],
      .revalidate "b" none none .epoch, .cleanup .epoch]
    let x := inMemory .standard cipher trialIssuer
    let actor : ActorIdentity := ⟨"k", "", "", "", "", 0, "", "", .empty, "", .epoch⟩
    let s := x.after [.query (.storeActor actor) .epoch ⟨"", "", ""⟩, .ticket create] .initial
    let call := Event.call (.action ⟨.epoch, "10.1.1.1", none⟩ ⟨"", "", ""⟩ .ticket
      (.obj [("ticket", .str "a"), ("token", .str "k")]))
    (Ticket.fetch memoryRepository cipher "a" true none false .epoch t).1 = .ok (.obj [("n", .int 1)]) ∧
      (∃ e, (Ticket.fetch memoryRepository cipher "a" false none false .epoch
        (performAll cipher .standard tasks
          (Ticket.fetch memoryRepository cipher "a" true none false .epoch t).2)).1 = .error e) ∧
      call.delivers x "a" s ∧ deliveries x "a" [call, .ticket (.cleanup .epoch), call] s ≤ 1 := by
  intro cipher endless create t tasks x actor s call
  have hread : (Ticket.fetch memoryRepository cipher "a" true none false .epoch t).1 =
      .ok (.obj [("n", .int 1)]) := rfl
  have hspared : ∀ task ∈ tasks, task.Spares "a" := by
    simp [tasks, Ticket.Task.Spares, Ticket.Task.minted, Ticket.Task.revalidated]
  have hevents : ∀ event ∈ [call, .ticket (.cleanup .epoch), call], event.Spares "a" := by
    simp [call, Event.Spares, Ticket.Task.Spares, Ticket.Task.minted, Ticket.Task.revalidated]
  have htimely : Timely .epoch [call, .ticket (.cleanup .epoch), call] :=
    ⟨Int.le_refl _, Int.le_refl _, trivial⟩
  have hsound : Ticket.Sound s.tickets := after_tickets_sound .empty _
  obtain ⟨final, once⟩ := invalidating_fetch_final cipher
  exact ⟨hread, (final .standard t "a" none false .epoch _ (.task .start create) (Int.le_refl _) hread tasks
    hspared .epoch (Int.le_refl _)).1 false none false, by decide +kernel,
    once .standard trialIssuer s "a" _ hsound htimely hevents⟩

end SessionBroker.Executor
