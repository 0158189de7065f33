import SessionBroker.Proofs.Broker.Tokens
import SessionBroker.Proofs.Executor.Reach
import SessionBroker.Proofs.Protocol.Asks

/-!
# What calls enter

Actors are entered by calls that register and aliases by calls that bind, and no call touches the services.
What is not a query from somebody who uses the backend directly leaves the tables of tokens alone but for that.
-/

namespace SessionBroker

open Effect (Keeps)

namespace Broker

variable {query : Query} {action : Action} (issuer : Issuer) (now : Instant) (draws : Draws)

/-- Where an operation keeps all tables of tokens, it keeps each of them. -/
theorem directory_keeps {α : Type} {m : StoreM Broker α} {P : Directory → Prop}
    (h : ∀ d, Keeps (·.directory = d) m) : Keeps (fun b => P b.directory) m := by
  intro b hb
  have hsame : (m b).2.directory = b.directory := h b.directory b rfl
  rw [hsame]
  exact hb

/-- Only registrations ask for an actor to be entered. -/
theorem answer_actors (h : query.Suits action) (hne : action ≠ .register) (actors : Table String ActorIdentity) :
    Keeps (fun b => b.directory.actors = actors) (backend.answer issuer now draws query) := by
  by_cases henters : query.Enters
  · cases query with
    | storeActor identity => exact absurd h hne
    | createAlias record => exact .bind (writing_keeps fun _ hb => hb) fun _ => .pure _
    | _ => exact henters.elim
  · exact directory_keeps (P := fun d => d.actors = actors) (answer_directory henters issuer now draws)

/-- Only bindings ask for an alias to be made. -/
theorem answer_aliases (h : query.Suits action) (hne : action ≠ .bindActor)
    (aliases : Table String ServiceTokenAlias) :
    Keeps (fun b => b.directory.aliases = aliases) (backend.answer issuer now draws query) := by
  by_cases henters : query.Enters
  · cases query with
    | storeActor identity => exact .bind (writing_keeps fun _ hb => hb) fun _ => .pure _
    | createAlias record => exact absurd h hne
    | _ => exact henters.elim
  · exact directory_keeps (P := fun d => d.aliases = aliases) (answer_directory henters issuer now draws)

/-- Nobody asks for a service to come or to change. -/
theorem answer_services (query : Query) (services : Table Uuid ServiceEntry) :
    Keeps (fun b => b.directory.services = services) (backend.answer issuer now draws query) := by
  by_cases henters : query.Enters
  · cases query with
    | storeActor identity => exact .bind (writing_keeps fun _ hb => hb) fun _ => .pure _
    | createAlias record => exact .bind (writing_keeps fun _ hb => hb) fun _ => .pure _
    | _ => exact henters.elim
  · exact directory_keeps (P := fun d => d.services = services) (answer_directory henters issuer now draws)

end Broker

namespace Executor

variable {config : BrokerConfig} {cipher : Cipher} {issuer : Issuer} {action : Action} {P : Directory → Prop}
  (ctx : RequestContext) (draws : Draws) (params : Json) (s : State Broker TicketTable)

/-- An action spares what the queries that suit it keep. -/
theorem spares_of_suits (h : ∀ query : Query, query.Suits action →
      Keeps (fun b : Broker => P b.directory) (Broker.backend.answer issuer ctx.now draws query)) :
    (inMemory config cipher issuer).Spares ctx draws (fun s => P s.backend.directory) action := by
  have run {ς α : Type} {p : Protocol ς α} (hp : p.Asks (Query.Suits action)) :
      Keeps (fun s => P s.backend.directory) ((inMemory config cipher issuer).run p ctx draws) :=
    run_keeps (P := fun b : Broker => P b.directory) (p.run_keeps_of_asks _ ctx.now draws hp h)
  have reading {α : Type} (f : Broker → α) :
      Keeps (fun s : State Broker TicketTable => P s.backend.directory) (onBackend (Broker.reading f)) :=
    onBackend_keeps (P := fun b => P b.directory) (Broker.reading_keeps f)
  cases action with
  | test =>
    exact ⟨fun token => reading (·.validateActorToken token), fun token => reading (·.findService token true)⟩
  | register => exact fun request => run (Register.protocol_asks request _ _)
  | bindActor => exact fun request => run (Binding.protocol_asks request)
  | ready => exact fun request clearInUse => run (Ready.protocol_asks _ request clearInUse _)
  | ipChange => exact fun request clearInUse => run (Ready.protocol_asks _ request clearInUse _)
  | login => exact fun request => run (Login.protocol_asks _ request)
  | logout => exact fun request => run (Logout.protocol_asks _ request)
  | log =>
    refine ⟨fun token => reading fun b => (b.tokenUserService? token).map (·.actorVersion), ?_⟩
    intro token level message now s hs
    change P (s.backend.appendLog token level message now).2.directory
    rwa [Broker.appendLog_directory]
  | ticket => exact fun token => reading (·.validateActorToken token)
  | version =>
    intro token version ip s hs
    change P (s.backend.recordVersion token version ip).2.directory
    rwa [(Broker.recordVersion_revised token version ip s.backend).directory]
  | unmanaged => exact fun request => run (Unmanaged.protocol_asks _ request _)
  | notify => trivial

/-- What the queries that suit an action keep, its calls keep. -/
theorem handle_directory (h : ∀ query : Query, query.Suits action →
      Keeps (fun b : Broker => P b.directory) (Broker.backend.answer issuer ctx.now draws query))
    (hs : P s.backend.directory) :
    P ((inMemory config cipher issuer).handle ctx draws action params s).2.backend.directory :=
  handle_keeps (spares_of_suits ctx draws h) params (fun _ _ h => h) (fun _ _ _ h => h) s hs

theorem handle_actors (hne : action ≠ .register) :
    ((inMemory config cipher issuer).handle ctx draws action params s).2.backend.actors = s.backend.actors :=
  handle_directory (P := fun d => d.actors = s.backend.actors) ctx draws params s
    (fun _ hquery => Broker.answer_actors issuer ctx.now draws hquery hne s.backend.actors) rfl

theorem handle_aliases (hne : action ≠ .bindActor) :
    ((inMemory config cipher issuer).handle ctx draws action params s).2.backend.aliases = s.backend.aliases :=
  handle_directory (P := fun d => d.aliases = s.backend.aliases) ctx draws params s
    (fun _ hquery => Broker.answer_aliases issuer ctx.now draws hquery hne s.backend.aliases) rfl

theorem handle_services :
    ((inMemory config cipher issuer).handle ctx draws action params s).2.backend.services = s.backend.services :=
  handle_directory (P := fun d => d.services = s.backend.services) ctx draws params s
    (fun query _ => Broker.answer_services issuer ctx.now draws query s.backend.services) rfl

theorem notify_directory :
    ((inMemory config cipher issuer).notify ctx draws params s).2.backend.directory = s.backend.directory := by
  have spares (action : Action) (hregister : action ≠ .register) (hbind : action ≠ .bindActor) :
      (inMemory config cipher issuer).Spares ctx draws (fun t => t.backend.directory = s.backend.directory)
        action := by
    refine spares_of_suits (P := fun d => d = s.backend.directory) ctx draws fun query hquery => ?_
    have hplain : ¬ query.Enters := by
      cases query with
      | storeActor identity => exact fun _ => hregister hquery
      | createAlias record => exact fun _ => hbind hquery
      | _ => exact id
    exact Broker.answer_directory hplain issuer ctx.now draws s.backend.directory
  refine notify_keeps (spares .login (by decide) (by decide)) (spares .logout (by decide) (by decide)) ?_
    (fun _ _ h => h) params s rfl
  exact fun notification => onBackend_keeps fun b hb =>
    (Broker.notifyService_revised notification b (.refl b)).directory.trans hb

/-! ## Events -/

namespace Event

/-- Nobody uses the backend directly but by what has an operation of its own. -/
def Ordinary : Event → Prop
  | query _ _ _ => False
  | _ => True

/-- The call for the action that the event is. -/
def request? (wanted : Action) : Event → Option (RequestContext × Draws × Json)
  | call (.action ctx draws action params) => if action = wanted then some (ctx, draws, params) else none
  | _ => none

variable {event : Event} {wanted : Action} {ctx : RequestContext} {draws : Draws} {params : Json}

theorem request?_eq_some : event.request? wanted = some (ctx, draws, params) ↔
    event = call (.action ctx draws wanted params) := by
  constructor
  · intro h
    unfold request? at h
    split at h
    · split at h
      · next haction =>
        subst haction
        cases h
        rfl
      · cases h
    · cases h
  · rintro rfl
    exact if_pos rfl

variable {config : BrokerConfig} {cipher : Cipher} {issuer : Issuer} {s : State Broker TicketTable}

/-- What is no call leaves the tables of tokens alone, but for a service that comes. -/
theorem happen_directory (h : event.Ordinary) (hcall : ∀ call, event ≠ .call call) :
    (event.happen (inMemory config cipher issuer) s).backend.directory = match event with
      | .administer (.addService record unmanaged) =>
        { s.backend.directory with services := s.backend.services.put record.id ⟨record, unmanaged⟩ }
      | _ => s.backend.directory := by
  cases event with
  | call call => exact absurd rfl (hcall call)
  | administer task =>
    refine (task.perform_directory s.backend).trans ?_
    cases task <;> rfl
  | ticket task => rfl
  | query q now draws => exact h.elim
  | recordVersion token version ip => exact (Broker.recordVersion_revised token version ip s.backend).directory
  | appendLog token level message now => exact s.backend.appendLog_directory token level message now
  | recordFailure source now => rfl
  | clearFailures source => rfl

/-- Nothing but a call that registers touches the actors. -/
theorem happen_actors (hordinary : event.Ordinary) (h : event.request? .register = none) :
    (event.happen (inMemory config cipher issuer) s).backend.actors = s.backend.actors := by
  cases event with
  | call call =>
    cases call with
    | notice ctx draws params => exact congrArg Directory.actors (notify_directory ctx draws params s)
    | action ctx draws action params =>
      refine handle_actors ctx draws params s fun haction => ?_
      subst haction
      cases h
  | _ =>
    refine (congrArg Directory.actors (happen_directory hordinary (by simp))).trans ?_
    split <;> rfl

/-- Nothing but a call that binds touches the aliases. -/
theorem happen_aliases (hordinary : event.Ordinary) (h : event.request? .bindActor = none) :
    (event.happen (inMemory config cipher issuer) s).backend.aliases = s.backend.aliases := by
  cases event with
  | call call =>
    cases call with
    | notice ctx draws params => exact congrArg Directory.aliases (notify_directory ctx draws params s)
    | action ctx draws action params =>
      refine handle_aliases ctx draws params s fun haction => ?_
      subst haction
      cases h
  | _ =>
    refine (congrArg Directory.aliases (happen_directory hordinary (by simp))).trans ?_
    split <;> rfl

/-- Services come by the administration alone. -/
theorem happen_services (hordinary : event.Ordinary)
    (h : ∀ record unmanaged, event ≠ .administer (.addService record unmanaged)) :
    (event.happen (inMemory config cipher issuer) s).backend.services = s.backend.services := by
  cases event with
  | call call =>
    cases call with
    | notice ctx draws params => exact congrArg Directory.services (notify_directory ctx draws params s)
    | action ctx draws action params => exact handle_services ctx draws params s
  | administer task =>
    refine (congrArg Directory.services (happen_directory hordinary (by simp))).trans ?_
    cases task with
    | addService record unmanaged => exact absurd rfl (h record unmanaged)
    | _ => rfl
  | _ => exact congrArg Directory.services (happen_directory hordinary (by simp))

end Event

end Executor

end SessionBroker
