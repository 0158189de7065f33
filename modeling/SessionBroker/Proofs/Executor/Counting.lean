import SessionBroker.Crypto.TaggedXor
import SessionBroker.Executor.Memory
import SessionBroker.Proofs.Executor.Keeps

/-!
# What the guard counts

Along every run of calls the guard has the tally of each source. A call is an entry of a tally by what
carrying it out comes to, and what it leaves in the counters is what the entry says.
-/

namespace SessionBroker.Executor

open Guard (Entry Tallied Verdict tallyOf)

variable {σ τ : Type}

/-! ## One call -/

/-- The guard has a say in the call. It has none in a registration, nor in a notification that does not say
what it is. -/
def Call.guarded : Call → Bool
  | .action _ _ a _ => !a.bypassesGuard
  | .notice _ _ params => match header params with
    | .ok _ => true
    | .error _ => false

/-- What the outcome of an action is for the count: also a test of a token that is not valid adds to it,
though it is no error. -/
def actionVerdict (action : Action) : Except ActorError ActorReply → Verdict
  | .ok reply => if reply.error.isNone then .clears else if action = .test then .counts else .leaves
  | .error e => if countsAsGuess e then .counts else .leaves

/-- What carrying out a call comes to. -/
def verdict (x : Executor σ τ) (s : State σ τ) : Call → Verdict
  | .action ctx draws action params => actionVerdict action (x.dispatch ctx draws action params s).1
  | .notice ctx draws params => match header params with
    | .ok (action, token) => noticeVerdict (x.dispatchNotice ctx draws action token params s).1
    | .error _ => .leaves

def entry (x : Executor σ τ) (s : State σ τ) (call : Call) : Entry where
  source := call.ctx.source
  now := call.ctx.now
  guarded := call.guarded
  verdict := x.verdict s call

/-- The look-up of a test, before it has counted anything. -/
def lookUp (x : Executor σ τ) (request : TestRequest) : CallM σ τ Bool :=
  match request.kind with
  | .unmanaged => Option.isSome <$> onBackend (x.backend.findService request.token true)
  | .managed => onBackend (x.backend.validateActorToken request.token)

variable (x : Executor σ τ) (ctx : RequestContext) (draws : Draws) (s : State σ τ)

theorem lookUp_counters (request : TestRequest) : (x.lookUp request s).2.counters = s.counters := by
  unfold lookUp
  cases request.kind with
  | managed => rfl
  | unmanaged =>
    dsimp only
    rw [Effect.run_map]
    cases h : onBackend (x.backend.findService request.token true) s with
    | mk found t =>
      have ht : t.counters = s.counters :=
        congrArg (fun r : _ × State σ τ => r.2.counters) h.symm
      cases found <;> exact ht

/-- An action records a failure by itself where it is a test of a token that is not valid. -/
def recordsItself (action : Action) : Except ActorError ActorReply → Bool
  | .ok reply => action = .test && reply.error.isSome
  | .error _ => false

theorem test_counters (request : TestRequest) : (x.test ctx request s).2.counters =
    if recordsItself .test (x.test ctx request s).1 then (x.recordFailure ctx s).counters
    else s.counters := by
  have htest : x.test ctx request s = (x.lookUp request >>= fun valid => do
      if valid then return .ok (.str "ok")
      modify (x.recordFailure ctx)
      return .failed (.str "invalid token") "invalid token" : CallM σ τ ActorReply) s := by
    unfold test lookUp
    cases request.kind <;> rfl
  have hcounters := x.lookUp_counters s request
  rw [htest, Effect.run_bind]
  cases hlook : x.lookUp request s with
  | mk outcome t =>
    rw [hlook] at hcounters
    cases outcome with
    | error e => exact hcounters
    | ok valid =>
      cases valid with
      | true => exact hcounters
      | false =>
        change (x.recordFailure ctx t).counters = (x.recordFailure ctx s).counters
        unfold recordFailure
        rw [show t.counters = s.counters from hcounters]

theorem dispatch_counters (action : Action) (params : Json) :
    (x.dispatch ctx draws action params s).2.counters =
      if recordsItself action (x.dispatch ctx draws action params s).1 then
        (x.recordFailure ctx s).counters
      else s.counters := by
  by_cases htest : action = .test
  · subst htest
    have hdispatch : x.dispatch ctx draws .test params s =
        (parameters TestRequest params >>= x.test ctx : CallM σ τ ActorReply) s := rfl
    rw [hdispatch]
    cases hr : (fromJson params : Decoded TestRequest) with
    | error e =>
      rw [Effect.run_bind_of_error (parameters_of_error hr s)]
      rfl
    | ok request =>
      rw [Effect.run_bind_of_ok (parameters_of_ok hr s)]
      exact x.test_counters ctx s request
  · -- Nothing but a test reaches the counters.
    have kept : (x.dispatch ctx draws action params s).2.counters = s.counters :=
      dispatch_keeps ((x.undisturbed_besides ctx draws fun _ counters => counters = s.counters).spares action)
        params (fun h => absurd h htest) (fun _ _ _ h => h) s rfl
    have hitself : recordsItself action (x.dispatch ctx draws action params s).1 = false := by
      cases (x.dispatch ctx draws action params s).1 <;> simp [recordsItself, htest]
    rw [kept, hitself]
    rfl

theorem take_unguarded {call : Call} (h : call.guarded = false) :
    (x.take call s).2.counters = s.counters := by
  cases call with
  | action ctx draws action params =>
    have hbypass : action.bypassesGuard = true := by simpa [Call.guarded] using h
    have hregister : action = .register := by simpa [Action.bypassesGuard] using hbypass
    subst hregister
    have hdispatch := x.dispatch_counters ctx draws s .register params
    have hitself : recordsItself .register (x.dispatch ctx draws .register params s).1 = false := by
      cases (x.dispatch ctx draws .register params s).1 <;> rfl
    rw [hitself] at hdispatch
    rw [take_action, handle_eq]
    exact hdispatch
  | notice ctx draws params =>
    rw [take_notice, notify_eq]
    cases hhead : header params with
    | error e => rfl
    | ok head => simp [Call.guarded, hhead] at h

theorem take_blocked {call : Call} (h : call.guarded = true) (hb : x.isBlocked call.ctx s = true) :
    x.take call s = (.error .blocked, x.recordFailure call.ctx s) := by
  cases call with
  | action ctx draws action params =>
    change x.isBlocked ctx s = true at hb
    have hbypass : action.bypassesGuard = false := by simpa [Call.guarded] using h
    rw [take_action, handle_eq, hbypass]
    dsimp only
    rw [if_neg (by decide), if_pos hb]
    rfl
  | notice ctx draws params =>
    change x.isBlocked ctx s = true at hb
    rw [take_notice, notify_eq]
    cases hhead : header params with
    | error e => simp [Call.guarded, hhead] at h
    | ok head =>
      dsimp only
      rw [if_pos hb]
      rfl

/-- A test that fails has been counted by the action, any other outcome is counted by the policy. -/
theorem enter_verdictOf (action : Action) (outcome : Except ActorError ActorReply) :
    (verdictOf outcome).enter x.guard ctx.source ctx.now
        (if recordsItself action outcome then (x.recordFailure ctx s).counters else s.counters) =
      (actionVerdict action outcome).enter x.guard ctx.source ctx.now s.counters := by
  cases outcome with
  | error e => rfl
  | ok reply =>
    cases he : reply.error with
    | none => simp [recordsItself, verdictOf, actionVerdict, he]
    | some reason =>
      by_cases htest : action = .test
      · simp [recordsItself, verdictOf, actionVerdict, Verdict.enter, recordFailure, he, htest]
      · simp [recordsItself, verdictOf, actionVerdict, Verdict.enter, he, htest]

theorem take_carriedOut {call : Call} (h : call.guarded = true)
    (hb : x.isBlocked call.ctx s = false) :
    (x.take call s).2.counters =
      (x.verdict s call).enter x.guard call.ctx.source call.ctx.now s.counters := by
  cases call with
  | action ctx draws action params =>
    change x.isBlocked ctx s = false at hb
    have hbypass : action.bypassesGuard = false := by simpa [Call.guarded] using h
    rw [take_action, handle_eq, hbypass]
    dsimp only
    rw [if_neg (by decide), hb, if_neg (by decide), dispatch_counters]
    exact x.enter_verdictOf ctx s action _
  | notice ctx draws params =>
    rw [take_notice, notify_eq]
    cases hhead : header params with
    | error e => simp [Call.guarded, hhead] at h
    | ok head =>
      obtain ⟨action, token⟩ := head
      have besides := x.undisturbed_besides ctx draws fun _ counters => counters = s.counters
      have kept : (x.dispatchNotice ctx draws action token params s).2.counters = s.counters :=
        dispatchNotice_keeps besides.login besides.logout besides.notifyService action token params s rfl
      change x.isBlocked ctx s = false at hb
      dsimp only
      rw [hb, if_neg (by decide), kept]
      unfold verdict
      dsimp only
      rw [hhead]
      rfl

/-- What a call leaves in the counters is what its entry says. -/
theorem take_counters (call : Call) :
    (x.take call s).2.counters = (x.entry s call).enter x.guard s.counters := by
  change _ = Verdict.enter (if !call.guarded then .leaves else
    if x.isBlocked call.ctx s then .counts else x.verdict s call) x.guard call.ctx.source call.ctx.now
      s.counters
  cases hg : call.guarded with
  | false => exact x.take_unguarded s hg
  | true =>
    cases hb : x.isBlocked call.ctx s with
    | true =>
      rw [x.take_blocked s hg hb]
      rfl
    | false => exact x.take_carriedOut s hg hb

/-- A registration goes on as if there were no counters, and leaves them as they are. -/
theorem register_ignores_counters (params : Json) (counters : Counters) :
    x.handle ctx draws .register params { s with counters := counters } =
      let done := x.handle ctx draws .register params s
      (done.1, { done.2 with counters := counters }) := by
  have hdispatch : x.dispatch ctx draws .register params { s with counters := counters } =
      ((x.dispatch ctx draws .register params s).1,
        { (x.dispatch ctx draws .register params s).2 with counters := counters }) := by
    unfold dispatch
    dsimp only
    cases hr : (fromJson params : Decoded RegisterRequest) with
    | error e =>
      rw [Effect.run_bind_of_error (parameters_of_error hr _),
        Effect.run_bind_of_error (parameters_of_error hr _)]
    | ok request =>
      rw [Effect.run_bind_of_ok (parameters_of_ok hr _), Effect.run_bind_of_ok (parameters_of_ok hr _),
        Effect.run_bind, Effect.run_bind]
      cases hrun : x.backend.run x.issuer (Register.protocol request ctx.caller ctx.source) ctx.now draws
          s.backend with
      | mk outcome b =>
        rw [run_of_backend hrun, run_of_backend (s := { s with counters := counters }) hrun]
        cases outcome <;> rfl
  rw [handle_eq, handle_eq, hdispatch]
  rfl

/-- A notification that does not say what it is is told so, whoever sends it, and changes nothing. -/
theorem take_unreadable {params : Json} {e : ActorError} (h : header params = .error e) :
    (∃ text, e = .requestError text) ∧ x.take (.notice ctx draws params) s = (.error e, s) := by
  constructor
  · unfold header at h
    split at h
    · split at h
      · cases h
      · cases h
        exact ⟨_, rfl⟩
    · cases h
      exact ⟨_, rfl⟩
  · rw [take_notice, notify_eq, h]

/-! ## Runs of calls -/

/-- A run of calls at instants that do not decrease, from a state without counters, with the entries that
the calls made. Whatever else happens to the backend and to the tickets may happen between two calls. -/
inductive Run (x : Executor σ τ) : List Entry → State σ τ → Prop
  | start (s : State σ τ) (h : s.counters = []) : Run x [] s
  | call {entries s} (before : Run x entries s) (call : Call)
      (later : ∀ e ∈ entries, e.now ≤ call.ctx.now) : Run x (entries ++ [x.entry s call]) (x.take call s).2
  | elsewhere {entries s} (before : Run x entries s) (backend : σ) (tickets : τ) :
      Run x entries { s with backend := backend, tickets := tickets }

variable {x s}

theorem Run.tallied {entries : List Entry} (h : x.Run entries s) :
    Tallied x.guard entries s.counters := by
  induction h with
  | start s h =>
    rw [h]
    exact .nil
  | call before call later ih =>
    rw [take_counters]
    exact ih.enter later
  | elsewhere _ _ _ ih => exact ih

/-- The state after the same call has been made a number of times. -/
def again (x : Executor σ τ) (call : Call) (n : Nat) (s : State σ τ) : State σ τ :=
  Nat.repeat (fun s => (x.take call s).2) n s

theorem Run.again {entries : List Entry} (h : x.Run entries s) (call : Call)
    (later : ∀ e ∈ entries, e.now ≤ call.ctx.now) (n : Nat) :
    ∃ entries', x.Run entries' (x.again call n s) ∧ ∀ e ∈ entries', e.now ≤ call.ctx.now := by
  induction n with
  | zero => exact ⟨entries, h, later⟩
  | succ n ih =>
    obtain ⟨entries', hrun, hlater⟩ := ih
    refine ⟨_, hrun.call call hlater, fun e he => ?_⟩
    rcases List.mem_append.mp he with he | he
    · exact hlater e he
    · rw [List.mem_singleton.mp he]
      exact Int.le_refl _

/-- Along every run of calls the guard has the tally of each source, a call that is not exempt from the guard
is refused where the tally is too high, and registrations go on as if there were no guard. A notification that does
not say what it is is told so in every state, also where the tally is too high, and leaves that state as it is. -/
theorem run_counts {entries : List Entry} (h : x.Run entries s) :
    (∀ source now, (∀ e ∈ entries, e.now ≤ now) →
      failures s source now = (tallyOf x.guard source entries).count x.guard.blockWindow now) ∧
    (∀ call : Call, call.guarded → x.guard.enabled →
      x.guard.allowedFails ≤ failures s call.ctx.source call.ctx.now →
      x.take call s = (.error .blocked, x.recordFailure call.ctx s)) ∧
    (∀ ctx draws params counters,
      x.handle ctx draws .register params { s with counters := counters } =
        let done := x.handle ctx draws .register params s
        (done.1, { done.2 with counters := counters })) ∧
    (∀ ctx draws params e, header params = .error e →
      (∃ text, e = .requestError text) ∧ x.take (.notice ctx draws params) s = (.error e, s)) := by
  refine ⟨h.tallied.count, fun call hg henabled hfails => ?_, fun ctx draws params counters => ?_,
    fun ctx draws params e he => x.take_unreadable ctx draws s he⟩
  · refine x.take_blocked s hg ?_
    change (x.guard.enabled && decide (x.guard.allowedFails ≤ failures s _ _)) = true
    rw [henabled, decide_eq_true hfails]
    rfl
  · exact x.register_ignores_counters ctx draws s params counters

/-- After five guesses the sixth is refused. -/
theorem run_counts_sixth_guess :
    let x := inMemory .standard TaggedXor.cipher trialIssuer
    let guess := Call.action ⟨.epoch, "10.1.1.1", none⟩ ⟨"", "", ""⟩ .test (.obj [("token", .str "guess")])
    let s := x.again guess 5 .initial
    (∃ entries, x.Run entries s) ∧ x.take guess s = (.error .blocked, x.recordFailure guess.ctx s) := by
  intro x guess s
  obtain ⟨entries, hrun, -⟩ :=
    (Run.start (x := x) .initial rfl).again guess (fun e he => absurd he List.not_mem_nil) 5
  have hfails : x.guard.allowedFails ≤ failures s guess.ctx.source guess.ctx.now := by decide +kernel
  exact ⟨⟨entries, hrun⟩, (run_counts hrun).2.1 guess rfl rfl hfails⟩

/-- A notification that does not say what it is is no matter for the guard, also after five guesses. -/
theorem unreadable_notification_passes :
    let x := inMemory .standard TaggedXor.cipher trialIssuer
    let guess := Call.action ⟨.epoch, "10.1.1.1", none⟩ ⟨"", "", ""⟩ .test (.obj [("token", .str "guess")])
    let notice := Call.notice ⟨.epoch, "10.1.1.1", none⟩ ⟨"", "", ""⟩ (.obj [])
    let s := x.again guess 5 .initial
    (∃ entries, x.Run entries s) ∧ x.guard.enabled ∧
      x.guard.allowedFails ≤ failures s notice.ctx.source notice.ctx.now ∧
      x.take notice s = (.error (.requestError "Invalid parameters"), s) := by
  intro x guess notice s
  obtain ⟨entries, hrun, -⟩ :=
    (Run.start (x := x) .initial rfl).again guess (fun e he => absurd he List.not_mem_nil) 5
  have hfails : x.guard.allowedFails ≤ failures s notice.ctx.source notice.ctx.now := by decide +kernel
  exact ⟨⟨entries, hrun⟩, rfl, hfails, rfl⟩

end SessionBroker.Executor
