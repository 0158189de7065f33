import SessionBroker.Crypto.Certificate
import SessionBroker.Crypto.TaggedXor
import SessionBroker.Proofs.Executor.Direct
import SessionBroker.Proofs.Executor.Records

/-!
# Session lists are histories

The list of sessions that a user service has is the history of what was done on errands since it came as new.
The errands that count are those that the guard lets pass and that find a user service which an actor may use
(`history`). Those that are answered with success (`successes`) are among them, all logins are, and where the OS
managers leave the ids and the states of user services alone they all are.
-/

namespace SessionBroker

/-! ## Steady managers -/

/-- The manager touches no ids, and no states when users come and go. -/
structure OsManager.Steady (m : OsManager) : Prop where
  ids : m.Spares UserService.uuid
  states : m.KeepsState

namespace Executor

variable {config : BrokerConfig} {cipher : Cipher} {issuer : Issuer} {s : State Broker TicketTable} {id : Uuid}
  {event : Event} {events : List Event}

/-- User services are kept under their own ids, and the OS managers are steady. -/
structure Orderly (s : State Broker TicketTable) : Prop where
  hooks : s.backend.Hooks OsManager.Steady
  keyed : s.backend.Keyed

theorem Orderly.keepsState (hs : Orderly s) : s.backend.Hooks OsManager.KeepsState :=
  fun row hr m hm => (hs.hooks row hr m hm).states

theorem Event.happen_orderly (huuid : event.SparesShown UserService.uuid)
    (hstate : event.Hooks OsManager.KeepsState) (hs : Orderly s) :
    Orderly (event.happen (inMemory config cipher issuer) s) := by
  have hsteady : event.Hooks OsManager.Steady := by
    cases event with
    | administer task =>
      cases task with
      | addPool pool osManager restraint => exact fun m hm => ⟨huuid.1 m hm, hstate m hm⟩
      | _ => trivial
    | _ => trivial
  exact ⟨event.happen_hooks hsteady hs.hooks, event.happen_keyed (fun _ hm => hm.ids) huuid hs.hooks hs.keyed⟩

/-! ## Errands that succeed -/

namespace Event

/-- The event is answered with success. -/
def succeeds (x : Executor Broker TicketTable) (s : State Broker TicketTable) : Event → Bool
  | call c => match (x.take c s).1 with
    | .ok reply => reply.error.isNone
    | .error _ => false
  | query q now draws => (x.backend.answer x.issuer now draws q s.backend).1.isOk
  | _ => true

/-- The id of a session that the answer shows. -/
def returned? (x : Executor Broker TicketTable) (s : State Broker TicketTable) : Event → Option String
  | call c => match (x.take c s).1 with
    | .ok reply => (reply.result.get? "session_id").bind Json.text?
    | .error _ => none
  | query q now draws => match (x.backend.answer x.issuer now draws q s.backend).1 with
    | .ok (.sessionOpened (some opened)) => some opened.sessionId
    | _ => none
  | _ => none

end Event

namespace Errand

/-- The errand with the id of the session as the answer has it. The answer to a notification has none. -/
def confirmed (returned : Option String) : Errand → Errand
  | login token session now => login token (returned.getD session) now
  | errand => errand

def isLogin : Errand → Bool
  | login .. => true
  | _ => false

theorem confirmed_of_not_login {errand : Errand} (h : errand.isLogin = false) (returned : Option String) :
    errand.confirmed returned = errand := by
  cases errand with
  | login token session now => cases h
  | _ => rfl

theorem opens_mark (errand : Errand) : errand.mark.opens = errand.isLogin := by
  cases errand <;> rfl

end Errand

/-- What the event does to the sessions of the user service, by its answer. -/
def Event.success? (x : Executor Broker TicketTable) (id : Uuid) (s : State Broker TicketTable) (event : Event) :
    Option SessionMark :=
  if event.succeeds x s then
    (event.errandOn? x id s).map fun errand => (errand.confirmed (event.returned? x s)).mark
  else none

section Answers

variable (ctx : RequestContext) (draws : Draws) (params : Json) {errand : Errand}

theorem Errand.of_read {ρ : Type} [FromJson ρ] {make : ρ → Errand} {params : Json}
    (h : read? params make = some errand) : ∃ request, (fromJson params : Decoded ρ) = .ok request ∧
      make request = errand := by
  unfold read? at h
  cases hread : (fromJson params : Decoded ρ) with
  | error e =>
    rw [hread] at h
    cases h
  | ok request =>
    rw [hread] at h
    exact ⟨request, rfl, Option.some.inj h⟩

-- A close of sessions may be followed by a release, which fails if the manager has changed the state before.
variable (hsure : errand.isLogin = true ∨ Orderly s) (hthere : (s.backend.userService? id).isSome)
  (htarget : errand.target? issuer s.backend = some id)

include hsure hthere htarget

theorem dispatch_answered {action : Action} (herrand : Errand.ofAction? ctx draws action params = some errand) :
    ∃ reply t, (inMemory config cipher issuer).dispatch ctx draws action params s = (.ok reply, t) ∧
      reply.error = none ∧ errand.confirmed ((reply.result.get? "session_id").bind Json.text?) = errand := by
  cases action with
  | login =>
    obtain ⟨request, hread, rfl⟩ := Errand.of_read herrand
    obtain ⟨opened, b, hrun, hid⟩ := Login.run_seated issuer ctx.now draws htarget hthere
    refine ⟨_, _, request_answered ctx draws params hread hrun _, rfl, ?_⟩
    have hshown : ((toJson (LoginInfo.ofSession opened ctx.now)).get? "session_id").bind Json.text? =
        some opened.sessionId := rfl
    rw [hid] at hshown
    exact congrArg (fun returned => Errand.confirmed returned (.ofLogin ctx draws request)) hshown
  | logout =>
    obtain ⟨request, hread, rfl⟩ := Errand.of_read herrand
    have hs : Orderly s := hsure.resolve_left Bool.false_ne_true
    obtain ⟨removed, b, hrun⟩ := Logout.run_seated issuer ctx.now draws hs.keyed hs.keepsState htarget
    exact ⟨_, _, request_answered ctx draws params hread hrun _, rfl, rfl⟩
  | unmanaged =>
    obtain ⟨request, hread, rfl⟩ := Errand.of_read herrand
    have hs : Orderly s := hsure.resolve_left Bool.false_ne_true
    obtain ⟨reply, b, hrun⟩ := Unmanaged.run_seated issuer ctx.now draws hs.keyed hs.keepsState htarget
      (inMemory config cipher issuer).ciphers
    refine ⟨_, _, request_answered (p := fun request => Unmanaged.protocol request _) ctx draws params hread hrun _,
      rfl, rfl⟩
  | _ => cases herrand

theorem dispatchNotice_answered {action : NotifyAction}
    (herrand : Errand.ofNotice? ctx draws action params = some errand) (token : String) :
    ∃ t, (inMemory config cipher issuer).dispatchNotice ctx draws action token params s = (.ok (), t) := by
  cases action with
  | login =>
    obtain ⟨request, hread, rfl⟩ := Errand.of_read herrand
    obtain ⟨opened, b, hrun, -⟩ := Login.run_seated issuer ctx.now draws htarget hthere
    exact ⟨_, request_answered ctx draws params hread hrun _⟩
  | logout =>
    obtain ⟨request, hread, rfl⟩ := Errand.of_read herrand
    have hs : Orderly s := hsure.resolve_left Bool.false_ne_true
    obtain ⟨removed, b, hrun⟩ := Logout.run_seated issuer ctx.now draws hs.keyed hs.keepsState htarget
    exact ⟨_, request_answered ctx draws params hread hrun _⟩
  | data => cases herrand

theorem take_answered {call : Call} (hpassed : (inMemory config cipher issuer).isBlocked call.ctx s = false)
    (herrand : call.errand? = some errand) :
    ∃ reply, ((inMemory config cipher issuer).take call s).1 = .ok reply ∧ reply.error = none ∧
      errand.confirmed ((reply.result.get? "session_id").bind Json.text?) = errand := by
  cases call with
  | action ctx draws action params =>
    have hpassed : (inMemory config cipher issuer).isBlocked ctx s = false := hpassed
    obtain ⟨reply, t, hdone, herror, hconfirmed⟩ : ∃ reply t,
        (inMemory config cipher issuer).dispatch ctx draws action params s = (.ok reply, t) ∧
          reply.error = none ∧ errand.confirmed ((reply.result.get? "session_id").bind Json.text?) = errand :=
      dispatch_answered ctx draws params hsure hthere htarget herrand
    refine ⟨reply, ?_, herror, hconfirmed⟩
    simp only [take_action, handle_eq, hdone, hpassed, Bool.false_eq_true, if_false]
    split <;> rfl
  | notice ctx draws params =>
    have hpassed : (inMemory config cipher issuer).isBlocked ctx s = false := hpassed
    obtain ⟨head, hhead, herrand⟩ := Option.bind_eq_some_iff.mp herrand
    cases hheader : header params with
    | error e =>
      rw [hheader] at hhead
      cases hhead
    | ok known =>
      rw [hheader] at hhead
      cases hhead
      obtain ⟨t, hdone⟩ : ∃ t,
          (inMemory config cipher issuer).dispatchNotice ctx draws head.1 head.2 params s = (.ok (), t) :=
        dispatchNotice_answered ctx draws params hsure hthere htarget herrand head.2
      refine ⟨.ok (.str "ok"), ?_, rfl, ?_⟩
      · simp only [take_notice, notify_eq, hheader, hdone, hpassed, Bool.false_eq_true, if_false]
        rfl
      · cases errand <;> rfl

omit hsure hthere htarget in
theorem take_refused {call : Call} (hblocked : (inMemory config cipher issuer).isBlocked call.ctx s = true)
    (herrand : call.errand? = some errand) :
    ((inMemory config cipher issuer).take call s).1 = .error .blocked := by
  cases call with
  | action ctx draws action params =>
    have hblocked : (inMemory config cipher issuer).isBlocked ctx s = true := hblocked
    have hguarded : action.bypassesGuard = false := by
      cases action with
      | register => cases herrand
      | _ => rfl
    simp only [take_action, handle_eq, hguarded, hblocked, Bool.false_eq_true, if_false, if_true]
  | notice ctx draws params =>
    have hblocked : (inMemory config cipher issuer).isBlocked ctx s = true := hblocked
    obtain ⟨head, hhead, -⟩ := Option.bind_eq_some_iff.mp herrand
    cases hheader : header params with
    | error e =>
      rw [hheader] at hhead
      cases hhead
    | ok head => simp only [take_notice, notify_eq, hheader, hblocked, if_true]

omit hsure hthere htarget in
/-- An errand that the guard turns away does not succeed. -/
theorem Event.refused (hturned : event.isTurnedAway (inMemory config cipher issuer) s = true)
    (herrand : event.errand? = some errand) : event.succeeds (inMemory config cipher issuer) s = false := by
  cases event with
  | call call =>
    have hrefused := take_refused hturned herrand
    unfold succeeds
    simp only [hrefused]
  | _ => cases hturned

/-- An errand that the guard lets pass succeeds, and the answer to a login shows the id of its session. -/
theorem Event.answered (hpassed : event.isTurnedAway (inMemory config cipher issuer) s = false)
    (herrand : event.errand? = some errand) :
    event.succeeds (inMemory config cipher issuer) s = true ∧
      errand.confirmed (event.returned? (inMemory config cipher issuer) s) = errand := by
  cases event with
  | call call =>
    obtain ⟨reply, hreply, herror, hconfirmed⟩ := take_answered hsure hthere htarget hpassed herrand
    unfold succeeds returned?
    simp only [hreply, herror, hconfirmed, Option.isNone_none, and_self]
  | query q now draws =>
    cases q with
    | openSession token user =>
      cases herrand
      obtain ⟨opened, b, hopen, hid⟩ := Broker.openSession_seated htarget hthere user draws.session now
      have hanswer : (inMemory config cipher issuer).backend.answer (inMemory config cipher issuer).issuer now draws
          (.openSession token user) s.backend = (.ok (.sessionOpened (some opened)), b) :=
        Effect.run_bind_of_ok hopen _
      unfold succeeds returned?
      simp only [hanswer, hid]
      exact ⟨rfl, rfl⟩
    | closeSession token user named =>
      cases herrand
      have hs : Orderly s := hsure.resolve_left Bool.false_ne_true
      obtain ⟨closed, b, -, hclose, -⟩ := hs.keyed.closeSession_seated hs.keepsState htarget user named now
      have hanswer : (inMemory config cipher issuer).backend.answer (inMemory config cipher issuer).issuer now draws
          (.closeSession token user named) s.backend = (.ok (.sessionClosed (some closed)), b) :=
        Effect.run_bind_of_ok hclose _
      unfold succeeds
      simp only [hanswer]
      exact ⟨rfl, rfl⟩
    | _ => cases herrand
  | _ => cases herrand

end Answers

/-- What counts by the answer counts, and a login counts by its answer. -/
theorem Event.success?_or (hthere : (s.backend.userService? id).isSome) :
    event.success? (inMemory config cipher issuer) id s = event.mark? (inMemory config cipher issuer) id s ∨
      event.success? (inMemory config cipher issuer) id s = none ∧
        ∃ mark, event.mark? (inMemory config cipher issuer) id s = some mark ∧ mark.opens = false ∧
          ¬ Orderly s := by
  unfold success? mark?
  cases herrand : event.errandOn? (inMemory config cipher issuer) id s with
  | none => simp
  | some errand =>
    obtain ⟨hasked, htarget⟩ := Option.filter_eq_some_iff.mp herrand
    have htarget : errand.target? issuer s.backend = some id := of_decide_eq_true htarget
    cases hturned : event.isTurnedAway (inMemory config cipher issuer) s with
    | true =>
      rw [Event.refused hturned hasked, if_neg Bool.false_ne_true, if_pos rfl]
      exact .inl rfl
    | false =>
      by_cases hsure : errand.isLogin = true ∨ Orderly s
      · obtain ⟨hsucceeds, hconfirmed⟩ := Event.answered hsure hthere htarget hturned hasked
        rw [hsucceeds, Option.map_some, hconfirmed, if_pos rfl, if_neg Bool.false_ne_true, Option.map_some]
        exact .inl rfl
      · obtain ⟨hlogin, hdisorder⟩ := not_or.mp hsure
        have hlogin : errand.isLogin = false := Bool.eq_false_iff.mpr hlogin
        rw [if_neg Bool.false_ne_true, Option.map_some, Option.map_some, Errand.confirmed_of_not_login hlogin]
        cases event.succeeds (inMemory config cipher issuer) s with
        | true => exact .inl rfl
        | false => exact .inr ⟨rfl, _, rfl, (errand.opens_mark).trans hlogin, hdisorder⟩

/-! ## Runs -/

section Runs

variable {x : Executor Broker TicketTable}

/-- What a run does to the sessions of a user service, in order. -/
def history (x : Executor Broker TicketTable) (id : Uuid) :
    List Event → State Broker TicketTable → List SessionMark :=
  x.gather (Event.mark? x id)

/-- The same by the answers: the errands on the user service that succeed. -/
def successes (x : Executor Broker TicketTable) (id : Uuid) :
    List Event → State Broker TicketTable → List SessionMark :=
  x.gather (Event.success? x id)

theorem history_cons (x : Executor Broker TicketTable) (id : Uuid) (event : Event) (rest : List Event)
    (s : State Broker TicketTable) : x.history id (event :: rest) s =
      (event.mark? x id s).toList ++ x.history id rest (event.happen x s) := rfl

theorem successes_cons (x : Executor Broker TicketTable) (id : Uuid) (event : Event) (rest : List Event)
    (s : State Broker TicketTable) : x.successes id (event :: rest) s =
      (event.success? x id s).toList ++ x.successes id rest (event.happen x s) := rfl

theorem gather_append {α : Type} (f : State Broker TicketTable → Event → Option α) (earlier later : List Event)
    (s : State Broker TicketTable) :
    x.gather f (earlier ++ later) s = x.gather f earlier s ++ x.gather f later (x.after earlier s) := by
  induction earlier generalizing s with
  | nil => rfl
  | cons event rest ih => simp only [List.cons_append, gather, ih, List.append_assoc, after, List.foldl_cons]

theorem Meets.left {R : State Broker TicketTable → Event → Prop} {earlier later : List Event}
    (h : Meets x R (earlier ++ later) s) : Meets x R earlier s := by
  induction earlier generalizing s with
  | nil => trivial
  | cons event rest ih => exact ⟨h.1, ih h.2⟩

/-- The sessions after a run are those before it, changed mark by mark. -/
theorem after_sessions {sessions : List Session}
    (hspares : ∀ event ∈ events, event.SparesShown UserService.sessions)
    (hkept : Meets (inMemory config cipher issuer) (fun s event => ¬ event.Supplants id s) events s)
    (hs : SparesSessions s) (hsessions : sessionsOf id s = some sessions) :
    sessionsOf id ((inMemory config cipher issuer).after events s) =
      some (((inMemory config cipher issuer).history id events s).foldl (fun sessions mark => mark.apply sessions)
        sessions) := by
  induction events generalizing s sessions with
  | nil => exact hsessions
  | cons event rest ih =>
    obtain ⟨hfirst, hrest⟩ := List.forall_mem_cons.mp hspares
    refine (ih hrest hkept.2 (Event.happen_hooks hfirst.hooks hs)
      (Event.happen_sessions hfirst hs hkept.1 hsessions)).trans ?_
    rw [history_cons, List.foldl_append]
    cases event.mark? (inMemory config cipher issuer) id s <;> rfl

theorem after_spares (hspares : ∀ event ∈ events, event.SparesShown UserService.sessions) (hs : SparesSessions s) :
    SparesSessions ((inMemory config cipher issuer).after events s) := by
  induction events generalizing s with
  | nil => exact hs
  | cons event rest ih =>
    obtain ⟨hfirst, hrest⟩ := List.forall_mem_cons.mp hspares
    exact ih hrest (Event.happen_hooks hfirst.hooks hs)

theorem after_orderly
    (hevents : ∀ event ∈ events, event.SparesShown UserService.uuid ∧ event.Hooks OsManager.KeepsState)
    (hs : Orderly s) : Orderly ((inMemory config cipher issuer).after events s) := by
  induction events generalizing s with
  | nil => exact hs
  | cons event rest ih =>
    obtain ⟨⟨huuid, hstate⟩, hrest⟩ := List.forall_mem_cons.mp hevents
    exact ih hrest (Event.happen_orderly huuid hstate hs)

/-- A user service that is not supplanted is there for the whole run. -/
theorem meets_there {sessions : List Session} (hspares : ∀ event ∈ events, event.SparesShown UserService.sessions)
    (hkept : Meets (inMemory config cipher issuer) (fun s event => ¬ event.Supplants id s) events s)
    (hs : SparesSessions s) (hsessions : sessionsOf id s = some sessions) :
    Meets (inMemory config cipher issuer) (fun s _ => (s.backend.userService? id).isSome) events s := by
  induction events generalizing s sessions with
  | nil => trivial
  | cons event rest ih =>
    obtain ⟨hfirst, hrest⟩ := List.forall_mem_cons.mp hspares
    obtain ⟨u, hu, -⟩ := Option.map_eq_some_iff.mp hsessions
    exact ⟨by simp [hu], ih hrest hkept.2 (Event.happen_hooks hfirst.hooks hs)
      (Event.happen_sessions hfirst hs hkept.1 hsessions)⟩

/-- The errands that succeed count, and among the logins no others do. -/
theorem successes_sublist
    (hthere : Meets (inMemory config cipher issuer) (fun s _ => (s.backend.userService? id).isSome) events s) :
    ((inMemory config cipher issuer).successes id events s).Sublist
        ((inMemory config cipher issuer).history id events s) ∧
      ((inMemory config cipher issuer).successes id events s).filter SessionMark.opens =
        ((inMemory config cipher issuer).history id events s).filter SessionMark.opens := by
  induction events generalizing s with
  | nil => exact ⟨.slnil, rfl⟩
  | cons event rest ih =>
    obtain ⟨hsublist, hlogins⟩ := ih hthere.2
    rw [history_cons, successes_cons, List.filter_append, List.filter_append, hlogins]
    obtain hsame | ⟨hnone, mark, hmark, hcloses, -⟩ := Event.success?_or hthere.1
    · rw [hsame]
      exact ⟨hsublist.append_left _, rfl⟩
    · rw [hnone, hmark]
      exact ⟨hsublist.cons mark, by simp [hcloses]⟩

/-- Where everything is orderly, the history is what the answers say. -/
theorem history_eq_successes
    (hthere : Meets (inMemory config cipher issuer) (fun s _ => (s.backend.userService? id).isSome) events s)
    (hevents : ∀ event ∈ events, event.SparesShown UserService.uuid ∧ event.Hooks OsManager.KeepsState)
    (hs : Orderly s) :
    (inMemory config cipher issuer).history id events s =
      (inMemory config cipher issuer).successes id events s := by
  induction events generalizing s with
  | nil => rfl
  | cons event rest ih =>
    obtain ⟨⟨huuid, hstate⟩, hrest⟩ := List.forall_mem_cons.mp hevents
    rw [history_cons, successes_cons, ih hthere.2 hrest (Event.happen_orderly huuid hstate hs)]
    obtain hsame | ⟨-, -, -, -, hdisorder⟩ := Event.success?_or hthere.1
    · rw [hsame]
    · exact absurd hs hdisorder

/-- When somebody comes to the executor or to its backend with a query. -/
def Event.askedAt? : Event → Option Instant
  | call c => some c.ctx.now
  | query _ now _ => some now
  | _ => none

theorem Errand.time_of_ofAction {ctx : RequestContext} {draws : Draws} {action : Action} {params : Json}
    {errand : Errand} (h : ofAction? ctx draws action params = some errand) : errand.mark.time = ctx.now := by
  cases action with
  | login | logout | unmanaged =>
    obtain ⟨request, -, rfl⟩ := Errand.of_read h
    rfl
  | _ => cases h

theorem Errand.time_of_ofNotice {ctx : RequestContext} {draws : Draws} {action : NotifyAction} {params : Json}
    {errand : Errand} (h : ofNotice? ctx draws action params = some errand) : errand.mark.time = ctx.now := by
  cases action with
  | login | logout =>
    obtain ⟨request, -, rfl⟩ := Errand.of_read h
    rfl
  | data => cases h

theorem Event.askedAt?_of_errand {errand : Errand} (h : event.errand? = some errand) :
    event.askedAt? = some errand.mark.time := by
  cases event with
  | call call =>
    cases call with
    | action ctx draws action params => exact congrArg some (Errand.time_of_ofAction h).symm
    | notice ctx draws params =>
      obtain ⟨head, -, h⟩ := Option.bind_eq_some_iff.mp h
      exact congrArg some (Errand.time_of_ofNotice h).symm
  | query q now draws =>
    cases q with
    | openSession token user | closeSession token user named =>
      cases h
      rfl
    | _ => cases h
  | _ => cases h

/-- The marks of a run come at the instants of its events, in their order. -/
theorem history_times (id : Uuid) (events : List Event) (s : State Broker TicketTable) :
    ((x.history id events s).map SessionMark.time).Sublist (events.filterMap Event.askedAt?) := by
  induction events generalizing s with
  | nil => exact .slnil
  | cons event rest ih =>
    have hrest := ih (event.happen x s)
    rw [history_cons, List.map_append, List.filterMap_cons]
    cases hmark : event.mark? x id s with
    | none =>
      cases event.askedAt? with
      | none => exact hrest
      | some now => exact hrest.cons now
    | some mark =>
      have hnow : event.askedAt? = some mark.time := by
        unfold Event.mark? at hmark
        split at hmark
        · cases hmark
        · obtain ⟨errand, herrand, rfl⟩ := Option.map_eq_some_iff.mp hmark
          exact Event.askedAt?_of_errand (Option.filter_eq_some_iff.mp herrand).1
      rw [hnow]
      exact hrest.cons_cons mark.time

end Runs

/-! ## The history of a user service -/

/-- A user service as it comes to a broker. -/
structure Newcomer where
  id : Uuid
  pool : Uuid
  uniqueId : String
  friendlyName : String
  level : CacheLevel
  made : Instant
  provider : Provider
  now : Instant

namespace Newcomer

variable (n : Newcomer)

def service : UserService := .fresh n.id n.pool n.uniqueId n.friendlyName n.level n.made

def arrival : Event := .administer (.addUserService n.service n.provider n.now)

/-- The broker takes the newcomer. -/
def Admitted (b : Broker) : Prop := (Broker.addUserService n.service n.provider n.now b).1 = .ok (some n.id)

end Newcomer

/-- The sessions of a user service that came as new are its history: one for each login, in order, up to the
first close that names it. A session keeps its place, and its end once it has one, and it does not end before it
starts unless clocks go back. The OS managers may do whatever they like but touch sessions. Every errand that is
answered with success counts, and every login that counts is. A close may count and be answered with an error:
if a manager has changed the state of the user service, it cannot be released right after. If the managers leave
states alone when users come and go, and ids at all times, then what counts is exactly what is answered with
success. -/
theorem sessions_are_history (n : Newcomer) {before events : List Event}
    (hspares : ∀ event ∈ before ++ events, event.SparesShown UserService.sessions)
    (hadmitted : n.Admitted ((inMemory config cipher issuer).after before .initial).backend)
    (hkept : Meets (inMemory config cipher issuer) (fun s event => ¬ event.Supplants n.id s) events
      ((inMemory config cipher issuer).after (before ++ [n.arrival]) .initial)) :
    let x := inMemory config cipher issuer
    let s := x.after (before ++ [n.arrival]) .initial
    sessionsOf n.id (x.after events s) = some (SessionMark.sessions (x.history n.id events s)) ∧
      (∀ earlier later sessions, events = earlier ++ later → sessionsOf n.id (x.after earlier s) = some sessions →
        ∀ (i : Nat) (session : Session), sessions[i]? = some session →
          ∃ session', (SessionMark.sessions (x.history n.id events s))[i]? = some session' ∧
            session.Continues session') ∧
      ((events.filterMap Event.askedAt?).Pairwise (· ≤ ·) →
        ∀ session ∈ SessionMark.sessions (x.history n.id events s), ∀ t, session.finish = some t →
          session.start ≤ t) ∧
      (x.successes n.id events s).Sublist (x.history n.id events s) ∧
      (x.successes n.id events s).filter SessionMark.opens = (x.history n.id events s).filter SessionMark.opens ∧
      ((∀ event ∈ before ++ events, event.SparesShown UserService.uuid ∧ event.Hooks OsManager.KeepsState) →
        x.history n.id events s = x.successes n.id events s) := by
  intro x s
  obtain ⟨hbefore, hevents⟩ := List.forall_mem_append.mp hspares
  have hs : SparesSessions (x.after before .initial) :=
    after_spares hbefore fun row hr => absurd hr List.not_mem_nil
  have hstart : s = n.arrival.happen x (x.after before .initial) := by
    simp only [s, after, List.foldl_append, List.foldl_cons, List.foldl_nil]
  have hfresh : sessionsOf n.id s = some [] := by
    have hthere := (Broker.addUserService_admitted hadmitted).2
    rw [hstart]
    exact congrArg (Option.map UserService.sessions) hthere
  have hspared : SparesSessions s := hstart ▸ Event.happen_hooks trivial hs
  -- The first part is about any run that goes on from here, and so about each part of this one.
  have listed {run : List Event} (hrun : ∀ event ∈ run, event.SparesShown UserService.sessions)
      (hkept : Meets x (fun s event => ¬ event.Supplants n.id s) run s) :
      sessionsOf n.id (x.after run s) = some (SessionMark.sessions (x.history n.id run s)) := by
    rw [after_sessions hrun hkept hspared hfresh, SessionMark.foldl_apply]
  have hthere := meets_there hevents hkept hspared hfresh
  obtain ⟨hsublist, hlogins⟩ := successes_sublist hthere
  refine ⟨listed hevents hkept, ?_, ?_, hsublist, hlogins, ?_⟩
  · rintro earlier later sessions rfl hsessions i session hsession
    have hlisted := listed (List.forall_mem_append.mp hevents).1 hkept.left
    cases hsessions.symm.trans hlisted
    unfold history at hsession ⊢
    rw [gather_append]
    exact SessionMark.sessions_kept hsession _
  · intro hordered session hsession t ht
    exact SessionMark.start_le_finish (hordered.sublist (history_times n.id events s)) hsession ht
  · intro hmanagers
    obtain ⟨hbefore, hafter⟩ := List.forall_mem_append.mp hmanagers
    have horderly : Orderly (x.after before .initial) :=
      after_orderly hbefore ⟨fun row hr => absurd hr List.not_mem_nil, fun _ _ hu => by cases hu⟩
    have harrived : Orderly s := hstart ▸ Event.happen_orderly ⟨trivial, trivial⟩ trivial horderly
    exact history_eq_successes hthere hafter harrived

/-- Two users come to a desktop, and the first one leaves again. -/
theorem sessions_are_history_visit :
    let x := inMemory .standard TaggedXor.cipher trialIssuer
    let n : Newcomer :=
      ⟨.nil, .nil, "desktop", "desktop", .l1, .epoch, ⟨true, fun _ => .finished⟩, .epoch⟩
    let before : List Event := [.administer (.addPool ⟨.nil, .nil, "pool", none⟩ none ⟨.zero, 0⟩)]
    let login (session : String) (now : Instant) : Event :=
      .call (.action ⟨now, "10.1.1.1", none⟩ ⟨"", session, ""⟩ .login (.obj
        [("id", .arr []), ("session_type", .str "local"), ("token", .str Uuid.nil.text),
          ("type", .str "managed"), ("username", .str "ann")]))
    let logout (named : String) (now : Instant) : Event :=
      .call (.action ⟨now, "10.1.1.1", none⟩ ⟨"", "", ""⟩ .logout (.obj
        [("id", .arr []), ("session_id", .str named), ("session_type", .str "local"),
          ("token", .str Uuid.nil.text), ("type", .str "managed"), ("username", .str "ann")]))
    let events := [login "first" (.ofMs 10), login "second" (.ofMs 20), logout "first" (.ofMs 30)]
    let s := x.after (before ++ [n.arrival]) .initial
    sessionsOf .nil (x.after events s) =
        some [⟨"first", .ofMs 10, some (.ofMs 30)⟩, ⟨"second", .ofMs 20, none⟩] ∧
      x.successes .nil events s =
        [.opened "first" (.ofMs 10), .opened "second" (.ofMs 20), .closed "first" (.ofMs 30)] := by
  intro x n before login logout events s
  have hspares : ∀ event ∈ before ++ events, event.SparesShown UserService.sessions := by
    simp [before, events, login, logout, Event.SparesShown, Broker.Task.Hooks, Broker.Task.Edits]
  have hmanagers : ∀ event ∈ before ++ events,
      event.SparesShown UserService.uuid ∧ event.Hooks OsManager.KeepsState := by
    simp [before, events, login, logout, Event.SparesShown, Event.Hooks, Broker.Task.Hooks, Broker.Task.Edits]
  have hkept : Meets x (fun s event => ¬ event.Supplants n.id s) events s := ⟨id, id, id, trivial⟩
  obtain ⟨hsessions, -, -, -, -, hsuccesses⟩ := sessions_are_history n hspares rfl hkept
  have hhistory : x.history n.id events s =
      [.opened "first" (.ofMs 10), .opened "second" (.ofMs 20), .closed "first" (.ofMs 30)] := by decide +kernel
  rw [hhistory] at hsessions hsuccesses
  exact ⟨hsessions, (hsuccesses hmanagers).symm⟩

end Executor

end SessionBroker
