import SessionBroker.Crypto.TaggedXor
import SessionBroker.Proofs.Broker.Atomic
import SessionBroker.Proofs.Executor.Direct
import SessionBroker.Proofs.Executor.Reach
import SessionBroker.Proofs.Ticket.Atomic

/-!
# Calls that fail change nothing

A call fails by an error, or by a reply that carries one. Either way the broker and the tickets are what they
were before it, in every state that an executor in memory can come to. Only the guard may have counted.
-/

namespace SessionBroker

open Effect (Atomic Looks Total)

/-- The result of a call is an error, or a reply that carries one. -/
def failed : Except ActorError ActorReply → Bool
  | .error _ => true
  | .ok reply => reply.error.isSome

namespace Executor

/-- What a call may do to the state where it fails. -/
def OnlyCounted (s t : State Broker TicketTable) : Prop := ∃ counters, t = { s with counters := counters }

theorem OnlyCounted.refl (s : State Broker TicketTable) : OnlyCounted s s := ⟨s.counters, rfl⟩

theorem OnlyCounted.count {s t : State Broker TicketTable} (h : OnlyCounted s t) (counters : Counters) :
    OnlyCounted s { t with counters := counters } := by
  obtain ⟨_, rfl⟩ := h
  exact ⟨counters, rfl⟩

theorem failed_of_shown {outcome : Except ActorError ActorReply} (h : failed (shown outcome)) :
    failed outcome := by
  cases outcome with
  | ok reply => exact h
  | error e => rfl

/-- Where the operation fails on a sound broker, it has only counted. -/
def Contained (m : CallM Broker TicketTable ActorReply) : Prop :=
  ∀ s, s.backend.Sound → failed (m s).1 → OnlyCounted s (m s).2

namespace Contained

variable {α : Type} {m : CallM Broker TicketTable α} {f : α → CallM Broker TicketTable ActorReply}

theorem throw (e : ActorError) : Contained (throw e) := fun s _ _ => .refl s

theorem looks_bind (hm : Looks m) (hf : ∀ a, Contained (f a)) : Contained (m >>= f) := by
  intro s hs hfail
  have hsame : (m s).2 = s := hm s
  rw [Effect.run_bind] at hfail ⊢
  cases h : m s with
  | mk outcome t =>
    rw [h] at hsame hfail
    cases hsame
    cases outcome with
    | ok a => exact hf a t hs hfail
    | error e => exact .refl t

/-- An operation that fails by errors alone. -/
theorem answer (hm : Atomic (fun s => s.backend.Sound) m) (result : α → Json) :
    Contained (m >>= fun a => pure (.ok (result a))) := by
  intro s hs hfail
  rw [Effect.run_bind] at hfail ⊢
  cases h : m s with
  | mk outcome t =>
    rw [h] at hfail
    cases outcome with
    | ok a => cases hfail
    | error e =>
      cases hm s e t hs h
      exact .refl _

end Contained

variable {config : BrokerConfig} {cipher : Cipher} {issuer : Issuer} (ctx : RequestContext)
  (draws : Draws)

theorem run_atomic {ς α : Type} {p : Protocol ς α}
    (h : Atomic Broker.Sound (Broker.backend.run issuer p ctx.now draws)) :
    Atomic (fun s => s.backend.Sound) ((inMemory config cipher issuer).run p ctx draws) := by
  intro s e s' hs hrun
  cases hb : Broker.backend.run issuer p ctx.now draws s.backend with
  | mk outcome b =>
    rw [run_of_backend hb] at hrun
    cases outcome with
    | ok a => cases hrun
    | error e' =>
      cases hrun
      rw [h s.backend e' b hs hb]

theorem onBackend_looks {α : Type} {m : StoreM Broker α} (h : Looks m) :
    Looks (onBackend m : CallM Broker TicketTable α) := by
  intro s
  change ({ s with backend := (m s.backend).2 } : State Broker TicketTable) = s
  rw [h s.backend]

theorem onBackend_writing_atomic {α : Type} {P : State Broker TicketTable → Prop}
    (f : Broker → α × Broker) : Atomic P (onBackend (Broker.writing f)) := by
  intro s e s' _ h
  cases h

theorem ticket_contained (request : TicketRequest) :
    Contained ((inMemory config cipher issuer).ticket ctx request) := by
  intro s _ hfail
  rw [ticket_eq] at hfail ⊢
  split
  · next hvalid =>
    rw [if_pos hvalid] at hfail
    cases hfetch : Ticket.fetch memoryRepository cipher request.ticket true none false ctx.now s.tickets with
    | mk outcome tickets =>
      rw [hfetch] at hfail
      cases outcome with
      | ok payload => cases hfail
      | error e =>
        have hsame := Ticket.fetch_atomic cipher _ _ _ _ _ s.tickets e tickets trivial hfetch
        exact ⟨s.counters, by rw [hsame]⟩
  · exact .refl s

theorem test_contained (request : TestRequest) :
    Contained ((inMemory config cipher issuer).test ctx request) := by
  intro s _ _
  rw [test_eq]
  split
  · exact .refl s
  · exact ⟨_, rfl⟩

theorem unmanaged_contained (request : UnmanagedRequest) (ciphers : Option String) :
    Contained (do
      match ← (inMemory config cipher issuer).run (Unmanaged.protocol request ciphers) ctx draws with
      | .invalidToken => return .failed .null "Invalid token"
      | .certificate reply => return .ok (toJson reply)) := by
  intro s hs hfail
  have hatomic := Unmanaged.run_atomic issuer ctx.now draws request ciphers
  cases hrun : Broker.backend.run issuer (Unmanaged.protocol request ciphers) ctx.now draws s.backend with
  | mk outcome b =>
    rw [Effect.run_bind, run_of_backend hrun] at hfail ⊢
    cases outcome with
    | error e =>
      cases hatomic s.backend e b hs hrun
      exact .refl s
    | ok outcome =>
      cases outcome with
      | invalidToken =>
        cases Unmanaged.run_invalidToken issuer ctx.now draws hrun
        exact .refl s
      | certificate reply => cases hfail

theorem dispatch_contained (action : Action) (params : Json) :
    Contained ((inMemory config cipher issuer).dispatch ctx draws action params) := by
  cases action with
  | register =>
    exact .looks_bind (parameters_looks _) fun request =>
      .answer (run_atomic ctx draws (Register.run_atomic issuer ctx.now draws request _ _)) _
  | bindActor =>
    exact .looks_bind (parameters_looks _) fun request =>
      .answer (run_atomic ctx draws (Binding.run_atomic issuer ctx.now draws request)) _
  | login =>
    exact .looks_bind (parameters_looks _) fun request =>
      .answer (run_atomic ctx draws (Login.run_atomic issuer ctx.now draws request)) _
  | logout =>
    exact .looks_bind (parameters_looks _) fun request =>
      .answer (run_atomic ctx draws (Logout.run_atomic issuer ctx.now draws request)) _
  | ready =>
    exact .looks_bind (parameters_looks _) fun request =>
      .answer (run_atomic ctx draws (Ready.run_atomic issuer ctx.now draws request _ _)) _
  | ipChange =>
    exact .looks_bind (parameters_looks _) fun request =>
      .answer (run_atomic ctx draws (Ready.run_atomic issuer ctx.now draws request _ _)) _
  | unmanaged =>
    exact .looks_bind (parameters_looks _) fun request => unmanaged_contained ctx draws request _
  | notify => exact .throw _
  | ticket => exact .looks_bind (parameters_looks _) fun request => ticket_contained ctx request
  | version =>
    intro s _ hfail
    cases hr : (fromJson params : Decoded VersionRequest) with
    | error e =>
      rw [show (inMemory config cipher issuer).dispatch ctx draws .version params s = _ from
        Effect.run_bind_of_error (parameters_of_error hr s) _]
      exact .refl s
    | ok request =>
      rw [dispatch_version ctx s draws hr] at hfail ⊢
      cases hu : s.backend.tokenUserService? request.token with
      | none => exact .refl s
      | some u =>
        rw [hu] at hfail
        cases hfail
  | log =>
    refine .looks_bind (parameters_looks _) fun request =>
      .looks_bind (onBackend_looks (Broker.reading_looks _)) fun version => ?_
    cases version with
    | none => exact .throw _
    | some version => exact .answer (onBackend_writing_atomic _) fun _ => .str "ok"
  | test => exact .looks_bind (parameters_looks _) fun request => test_contained ctx request

theorem delivered_atomic (notification : Notification) : Atomic (fun s => s.backend.Sound) (do
    match ← onBackend (Broker.backend.notifyService notification) with
    | .ok () => return
    | .error reason => throw (.ofProtocol (.notify reason)) : CallM Broker TicketTable Unit) := by
  intro s e s' hs hrun
  obtain ⟨outcome, b, hnotified⟩ := Broker.notifyService_total notification s.backend hs
  have hcall : onBackend (Broker.backend.notifyService notification) s =
      (.ok outcome, { s with backend := b }) := by
    change onBackend (Broker.notifyService notification) s = _
    unfold onBackend
    rw [hnotified]
    rfl
  rw [Effect.run_bind_of_ok hcall] at hrun
  cases outcome with
  | ok _ => cases hrun
  | error reason =>
    cases hrun
    rw [Broker.notifyService_refused hnotified]

theorem dispatchNotice_atomic (action : NotifyAction) (token : String) (params : Json) :
    Atomic (fun s => s.backend.Sound)
      ((inMemory config cipher issuer).dispatchNotice ctx draws action token params) := by
  cases action with
  | login =>
    exact (parameters_looks _).bind_atomic fun request =>
      .bind_total (run_atomic ctx draws (Login.run_atomic issuer ctx.now draws request)) fun _ => .pure _
  | logout =>
    exact (parameters_looks _).bind_atomic fun request =>
      .bind_total (run_atomic ctx draws (Logout.run_atomic issuer ctx.now draws request)) fun _ => .pure _
  | data =>
    have entries : Looks (liftM (Notification.entriesOf params) :
        CallM Broker TicketTable (List IdEntry)) := by
      intro s
      cases Notification.entriesOf params <;> rfl
    exact entries.bind_atomic fun ids => delivered_atomic _

theorem handle_contained (action : Action) (params : Json) :
    Contained ((inMemory config cipher issuer).handle ctx draws action params) := by
  intro s hs hfail
  have hdispatch : failed ((inMemory config cipher issuer).dispatch ctx draws action params s).1 →
      OnlyCounted s ((inMemory config cipher issuer).dispatch ctx draws action params s).2 :=
    dispatch_contained ctx draws action params s hs
  rw [handle_eq] at hfail ⊢
  -- From here on it only matters what the policy makes of the outcome.
  generalize (inMemory config cipher issuer).dispatch ctx draws action params s = done at *
  dsimp only at hfail ⊢
  split
  · next hbypass =>
    rw [if_pos hbypass] at hfail
    exact hdispatch (failed_of_shown hfail)
  · next hbypass =>
    rw [if_neg hbypass] at hfail
    split
    · exact ⟨_, rfl⟩
    · next hblocked =>
      rw [if_neg hblocked] at hfail
      exact (hdispatch (failed_of_shown hfail)).count _

theorem notify_contained (params : Json) :
    Contained ((inMemory config cipher issuer).notify ctx draws params) := by
  intro s hs hfail
  rw [notify_eq] at hfail ⊢
  cases hhead : header params with
  | error e => exact .refl s
  | ok head =>
    obtain ⟨action, token⟩ := head
    rw [hhead] at hfail
    have hatomic : Atomic (fun s => s.backend.Sound)
        ((inMemory config cipher issuer).dispatchNotice ctx draws action token params) :=
      dispatchNotice_atomic ctx draws action token params
    dsimp only at hfail ⊢
    split
    · exact ⟨_, rfl⟩
    · next hblocked =>
      rw [if_neg hblocked] at hfail
      cases hdone : (inMemory config cipher issuer).dispatchNotice ctx draws action token params s with
      | mk outcome t =>
        rw [hdone] at hfail
        cases outcome with
        | ok _ => cases hfail
        | error e =>
          have hsame : t = s := hatomic s e t hs hdone
          subst hsame
          exact ⟨_, rfl⟩

/-- A call that fails, by an error or by a reply that carries one, leaves the broker and the tickets as they
were in every state that the executor can come to. -/
theorem failure_changes_nothing {s : State Broker TicketTable}
    (h : Reachable (inMemory config cipher issuer) s) (call : Call)
    (hfail : failed ((inMemory config cipher issuer).take call s).1) :
    ((inMemory config cipher issuer).take call s).2.backend = s.backend ∧
      ((inMemory config cipher issuer).take call s).2.tickets = s.tickets := by
  have hcontained : Contained ((inMemory config cipher issuer).take call) := by
    cases call with
    | action ctx draws action params => exact handle_contained ctx draws action params
    | notice ctx draws params => exact notify_contained ctx draws params
  obtain ⟨counters, heq⟩ := hcontained s h.sound hfail
  rw [heq]
  exact ⟨rfl, rfl⟩

/-- The service is known, but the request names no machine. -/
theorem failure_changes_nothing_unnamed :
    let x := inMemory .standard TaggedXor.cipher trialIssuer
    let s := Event.happen x .initial (.administer (.addService ⟨.nil, "lab", some "master"⟩ none))
    let call := Call.action ⟨.epoch, "10.1.1.1", none⟩ ⟨"token", "session", "password"⟩ .bindActor
      (.obj [("id", .arr []), ("token", .str "master"), ("type", .str "unmanaged"), ("version", .str "4.0")])
    Reachable x s ∧ failed (x.take call s).1 ∧
      (x.take call s).2.backend = s.backend ∧ (x.take call s).2.tickets = s.tickets := by
  intro x s call
  have hs : Reachable x s := .next .start _ trivial
  have hfail : failed (x.take call s).1 := by decide +kernel
  exact ⟨hs, hfail, failure_changes_nothing hs call hfail⟩

end Executor

end SessionBroker
