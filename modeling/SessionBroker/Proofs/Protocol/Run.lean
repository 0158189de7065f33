import SessionBroker.Proofs.Protocol.Awaits

/-!
# Runs of the six protocols

A run of a protocol is a conversation with whatever answers its queries. Its length is bounded by the rank
of the first state, a failure of storage can only come last, and the loop that drives a `Machine` through
the same protocol gets the same result without ever finding the machine without a query. For the six
protocols of the actors this gives `protocols_settle`: against any backend a run ends after at most seven
answered queries, and never by an unexpected reply.
-/

namespace SessionBroker

/-- A query with what came back for it. -/
structure Answered where
  query : Query
  outcome : Except StoreError Reply

/-- Answers as before, and a list of them. -/
def recorded {β : Type} (answer : Query → StoreM β Reply) (query : Query) :
    StoreM (β × List Answered) Reply := fun (b, log) =>
  let (outcome, b) := answer query b
  (outcome, (b, log ++ [⟨query, outcome⟩]))

theorem Move.Below.mono {σ α : Type} {rank : σ → Nat} {m n : Nat} {move : Move σ α}
    (h : move.Below rank m) (hmn : m ≤ n) : move.Below rank n := by
  cases move with
  | ask query next => exact Nat.lt_of_lt_of_le h hmn
  | finish => trivial
  | fail => trivial

/-- The query of the move, if it has one, is of a kind. -/
def Move.Asks {σ α : Type} (A : Query → Prop) : Move σ α → Prop
  | .ask query _ => A query
  | .finish _ | .fail _ => True

namespace Protocol

variable {σ α β : Type} (p : Protocol σ α)

/-- All queries of the protocol are of a kind. -/
structure Asks (A : Query → Prop) : Prop where
  start : p.start.Asks A
  resume : ∀ now draws s reply, (p.resume now draws s reply).Asks A

theorem Asks.any : p.Asks fun _ => True := by
  have any (move : Move σ α) : move.Asks fun _ => True := by cases move <;> trivial
  exact ⟨any _, fun _ _ _ _ => any _⟩

/-- Induction along a protocol: what holds of a query's move may use what holds of every move that a
reply to it leads to. -/
theorem move_induction {motive : Move σ α → Prop} (finish : ∀ a, motive (.finish a))
    (fail : ∀ e, motive (.fail e))
    (ask : ∀ query s, (∀ now draws reply, motive (p.resume now draws s reply)) → motive (.ask query s))
    (move : Move σ α) : motive move := by
  -- The rank falls with every reply, so the induction is on a bound for the rank of the next state.
  have below : ∀ n (m : Move σ α), m.Below p.rank n → motive m := by
    intro n
    induction n with
    | zero =>
      intro m hm
      cases m with
      | ask query s => exact absurd hm (Nat.not_lt_zero _)
      | finish a => exact finish a
      | fail e => exact fail e
    | succ n ih =>
      intro m hm
      cases m with
      | ask query s =>
        have hs : p.rank s ≤ n := Nat.le_of_lt_succ hm
        exact ask query s fun now draws reply => ih _ ((p.resume_below now draws s reply).mono hs)
      | finish a => exact finish a
      | fail e => exact fail e
  cases move with
  | ask query s => exact below (p.rank s + 1) _ (Nat.lt_succ_self _)
  | finish a => exact finish a
  | fail e => exact fail e

variable (answer : Query → StoreM β Reply) (now : Instant) (draws : Draws)

/-- Goes on with a move. -/
def follow (move : Move σ α) (b : β) : Except ProtocolError α × β :=
  match move with
  | .ask query next => p.runFrom answer now draws next query b
  | .finish result => (.ok result, b)
  | .fail error => (.error error, b)

theorem run_eq_follow (b : β) : p.run answer now draws b = p.follow answer now draws p.start b := by
  unfold run follow
  cases p.start <;> rfl

theorem follow_ask (query : Query) (s : σ) (b : β) :
    p.follow answer now draws (.ask query s) b = match answer query b with
      | (.error e, b) => (.error (.store e), b)
      | (.ok reply, b) => p.follow answer now draws (p.resume now draws s reply) b := by
  simp only [follow]
  rw [runFrom]
  cases answer query b with
  | mk outcome b' =>
    cases outcome with
    | error e => rfl
    | ok reply =>
      dsimp only
      cases p.resume now draws s reply <;> rfl

/-- A conversation from a move to the end: what was asked and answered, the result, and the state of
storage before and after. -/
inductive Talk : Move σ α → β → List Answered → Except ProtocolError α → β → Prop
  | finish (a : α) (b : β) : Talk (.finish a) b [] (.ok a) b
  | fail (e : ProtocolError) (b : β) : Talk (.fail e) b [] (.error e) b
  | broken {query s b e b'} (h : answer query b = (.error e, b')) :
      Talk (.ask query s) b [⟨query, .error e⟩] (.error (.store e)) b'
  | answered {query s b reply b' log result b''} (h : answer query b = (.ok reply, b'))
      (rest : Talk (p.resume now draws s reply) b' log result b'') :
      Talk (.ask query s) b (⟨query, .ok reply⟩ :: log) result b''

theorem exists_talk (move : Move σ α) (b : β) :
    ∃ log result b', p.Talk answer now draws move b log result b' := by
  induction move using p.move_induction generalizing b with
  | finish a => exact ⟨[], .ok a, b, .finish a b⟩
  | fail e => exact ⟨[], .error e, b, .fail e b⟩
  | ask query s ih =>
    cases h : answer query b with
    | mk outcome b' =>
      cases outcome with
      | error e => exact ⟨_, _, _, .broken h⟩
      | ok reply =>
        obtain ⟨log, result, b'', rest⟩ := ih now draws reply b'
        exact ⟨_, _, _, .answered h rest⟩

section Talk

variable {p answer now draws} {move : Move σ α} {b b' : β} {log : List Answered}
  {result : Except ProtocolError α}

theorem Talk.follow_eq (h : p.Talk answer now draws move b log result b') :
    p.follow answer now draws move b = (result, b') := by
  induction h with
  | finish => rfl
  | fail => rfl
  | broken h => rw [follow_ask, h]
  | answered h _ ih => rw [follow_ask, h, ← ih]

/-- Keeping a list of the answers changes nothing, and the list is that of the conversation. -/
theorem Talk.follow_recorded (h : p.Talk answer now draws move b log result b') (before : List Answered) :
    p.follow (recorded answer) now draws move (b, before) = (result, (b', before ++ log)) := by
  induction h generalizing before with
  | finish => simp [follow]
  | fail => simp [follow]
  | broken h => simp [follow_ask, recorded, h]
  | answered h _ ih => simp [follow_ask, recorded, h, ih]

theorem Talk.length_le {n : Nat} (h : p.Talk answer now draws move b log result b')
    (hm : move.Below p.rank n) : log.length ≤ n := by
  induction h generalizing n with
  | finish => exact Nat.zero_le n
  | fail => exact Nat.zero_le n
  | broken => exact Nat.succ_le_of_lt (Nat.lt_of_le_of_lt (Nat.zero_le _) hm)
  | @answered query s b reply _ log _ _ _ _ ih =>
    have hlog : log.length ≤ p.rank s := ih (p.resume_below now draws s reply)
    exact Nat.succ_le_of_lt (Nat.lt_of_le_of_lt hlog hm)

/-- A failure of storage is the last thing that happens. -/
theorem Talk.broken_last (h : p.Talk answer now draws move b log result b')
    {before after : List Answered} {x : Answered} {e : StoreError} (hlog : log = before ++ x :: after)
    (hx : x.outcome = .error e) : after = [] ∧ result = .error (.store e) := by
  induction h generalizing before with
  | finish => simp at hlog
  | fail => simp at hlog
  | broken h =>
    cases before with
    | nil =>
      obtain ⟨rfl, rfl⟩ := List.cons_eq_cons.mp hlog
      cases hx
      exact ⟨rfl, rfl⟩
    | cons y ys => simp at hlog
  | answered h _ ih =>
    cases before with
    | nil =>
      -- The first answer came, so it is not the one that failed.
      obtain ⟨rfl, -⟩ := List.cons_eq_cons.mp hlog
      cases hx
    | cons y ys => exact ih (List.cons_eq_cons.mp hlog).2

/-- Where every reply is of the kind that was asked for, none is unexpected. -/
theorem Talk.expected {awaits : σ → ReplyKind} (hp : p.Awaits awaits)
    (h : p.Talk answer now draws move b log result b')
    (ha : ∀ query b reply b', answer query b = (.ok reply, b') → reply.kind = query.expects)
    (hm : move.Fits awaits) (state : String) : result ≠ .error (.unexpectedReply state) := by
  induction h with
  | finish => simp
  | fail e => simpa using hm state
  | broken => simp
  | @answered query s b reply _ _ _ _ h _ ih =>
    -- The kind that came is the kind that was asked for, which is the kind that the state waits for.
    have hk : reply.kind = awaits s := (ha _ _ _ _ h).trans hm
    exact ih (hp.resume now draws s reply hk)

/-- What every answer to a kind of query keeps, a conversation that asks for nothing else keeps. -/
theorem Talk.keeps {P : β → Prop} {A : Query → Prop} (hp : p.Asks A)
    (ha : ∀ query, A query → Effect.Keeps P (answer query))
    (h : p.Talk answer now draws move b log result b') (hmove : move.Asks A) (hb : P b) : P b' := by
  induction h with
  | finish => exact hb
  | fail => exact hb
  | @broken query _ b _ b' h =>
    have kept : P (answer query b).2 := ha query hmove b hb
    rwa [h] at kept
  | @answered query s b reply b' _ _ _ h _ ih =>
    have kept : P (answer query b).2 := ha query hmove b hb
    rw [h] at kept
    exact ih (hp.resume now draws s reply) kept

end Talk

theorem run_keeps_of_asks {P : β → Prop} {A : Query → Prop} (hp : p.Asks A)
    (ha : ∀ query, A query → Effect.Keeps P (answer query)) : Effect.Keeps P (p.run answer now draws) := by
  intro b hb
  obtain ⟨log, result, b', talk⟩ := p.exists_talk answer now draws p.start b
  rw [run_eq_follow, talk.follow_eq]
  exact talk.keeps hp ha hp.start hb

theorem run_keeps {P : β → Prop} (ha : ∀ query, Effect.Keeps P (answer query)) :
    Effect.Keeps P (p.run answer now draws) :=
  p.run_keeps_of_asks answer now draws (Asks.any p) fun query _ => ha query

end Protocol

namespace Machine

variable {σ α β : Type} (p : Protocol σ α) (answer : Query → StoreM β Reply) (now : Instant)
  (draws : Draws)

/-- The loop around a machine. As long as there is no result, the oldest query is taken and answered, and
its reply delivered; a machine that has neither a result nor a query is stalled. The loop stops without a
result once it would have to answer more queries than it is allowed. -/
def serve (allowance : Nat) (m : Machine σ α) (b : β) : Option (Except ProtocolError α) × β :=
  match m.pollResult with
  | (some result, _) => (some result, b)
  | (none, m) => match m.pollTransmit with
    | (none, _) => (some (.error (.unexpectedReply "stalled without a query")), b)
    | (some query, m) => match allowance with
      | 0 => (none, b)
      | n + 1 => match answer query b with
        | (.error e, b) => (some (.error (.store e)), b)
        | (.ok reply, b) => serve n (m.recv p now draws (some reply)) b

variable {p answer now draws} {move : Move σ α} {b b' : β} {log : List Answered}
  {result : Except ProtocolError α}

/-- The loop holds the same conversation as the protocol's own run. The queue is empty each time that a
reply is delivered, so the query taken next is the one that the reply led to. -/
theorem serve_take (h : p.Talk answer now draws move b log result b') {allowance : Nat}
    (ha : log.length ≤ allowance) {m : Machine σ α} (hm : m.queue = []) :
    serve p answer now draws allowance (m.take move) b = (some result, b') := by
  induction h generalizing allowance m with
  | finish a b => unfold serve; rfl
  | fail e b => unfold serve; rfl
  | broken h =>
    obtain ⟨n, rfl⟩ := Nat.exists_eq_add_one.mpr ha
    unfold serve
    simp [take, hm, pollResult, pollTransmit, h]
  | @answered query s _ reply _ _ _ _ h _ ih =>
    obtain ⟨n, rfl⟩ := Nat.exists_eq_add_one.mpr (Nat.lt_of_lt_of_le (Nat.succ_pos _) ha)
    -- Taking the query leaves a machine that waits with an empty queue, as the induction needs it.
    have rest := ih (Nat.le_of_succ_le_succ ha) (m := ⟨.waiting s, []⟩) rfl
    unfold serve
    simpa [take, hm, pollResult, pollTransmit, h, recv] using rest

end Machine

/-- The most queries that any of the protocols needs. -/
def queryLimit : Nat := 7

namespace Protocol

variable {ς α : Type}

/-- The protocol can come to wait in the state for the reply to the query, whatever was replied before. -/
inductive Emits (p : Protocol ς α) : ς → Query → Prop
  | start {query s} (h : p.start = .ask query s) : Emits p s query
  | resume {query s now draws reply query' s'} (before : Emits p s query)
      (h : p.resume now draws s reply = .ask query' s') : Emits p s' query'

theorem Emits.expects {p : Protocol ς α} {awaits : ς → ReplyKind} (hp : p.Awaits awaits) {s : ς}
    {query : Query} (h : p.Emits s query) : query.expects = awaits s := by
  cases h with
  | start h =>
    have fits := hp.start
    rwa [h] at fits
  | @resume _ s₀ now draws reply _ _ before h =>
    by_cases hk : reply.kind = awaits s₀
    · have fits := hp.resume now draws s₀ reply hk
      rwa [h] at fits
    · obtain ⟨state, hs⟩ := hp.refuse now draws s₀ reply hk
      rw [hs] at h
      cases h

/-- How a run against a backend goes, with the answers that it got on the way. -/
structure RunsTo {σ : Type} (p : Protocol ς α) (b : Backend σ) (issuer : Issuer) (now : Instant)
    (draws : Draws) (st : σ) (log : List Answered) (result : Except ProtocolError α) (st' : σ) : Prop where
  run : b.run issuer p now draws st = (result, st')
  noted : p.run (recorded (b.answer issuer now draws)) now draws (st, []) = (result, (st', log))
  /-- A machine driven from outside ends in the same way, and always has a result or a query. -/
  served : ∀ allowance, queryLimit ≤ allowance →
    (Machine.start.recv p now draws none).serve p (b.answer issuer now draws) now draws allowance st
      = (some result, st')
  short : log.length ≤ queryLimit
  expected : ∀ state, result ≠ .error (.unexpectedReply state)
  /-- A failure of storage is the last answer of the run, and its result. -/
  broken : ∀ before x after e, log = before ++ x :: after → x.outcome = .error e →
    after = [] ∧ result = .error (.store e)

/-- Whatever backend and issuer a protocol is run against, every reply is one that the state waits for,
and every run comes to an end. -/
structure Settles (p : Protocol ς α) : Prop where
  awaited : ∀ {σ : Type} (b : Backend σ) (issuer : Issuer) (now : Instant) (draws : Draws) (st st' : σ)
    (s : ς) (query : Query) (reply : Reply), p.Emits s query →
    b.answer issuer now draws query st = (.ok reply, st') →
    ∀ state, p.resume now draws s reply ≠ .fail (.unexpectedReply state)
  ends : ∀ {σ : Type} (b : Backend σ) (issuer : Issuer) (now : Instant) (draws : Draws) (st : σ),
    ∃ log result st', p.RunsTo b issuer now draws st log result st'

theorem Awaits.runsTo {p : Protocol ς α} {awaits : ς → ReplyKind} (hp : p.Awaits awaits)
    (hrank : p.start.Below p.rank queryLimit) {σ : Type} (b : Backend σ) (issuer : Issuer)
    (now : Instant) (draws : Draws) (st : σ) :
    ∃ log result st', p.RunsTo b issuer now draws st log result st' := by
  obtain ⟨log, result, st', talk⟩ := p.exists_talk (b.answer issuer now draws) now draws p.start st
  have short : log.length ≤ queryLimit := talk.length_le hrank
  refine ⟨log, result, st', ?_⟩
  exact {
    run := (p.run_eq_follow _ now draws st).trans talk.follow_eq
    noted := (p.run_eq_follow _ now draws (st, [])).trans (talk.follow_recorded [])
    served := fun allowance h => Machine.serve_take talk (Nat.le_trans short h) rfl
    short := short
    expected := talk.expected hp (fun _ _ _ _ h => b.answer_kind h) hp.start
    broken := fun _ _ _ _ hlog hx => talk.broken_last hlog hx }

theorem Awaits.settles {p : Protocol ς α} {awaits : ς → ReplyKind} (hp : p.Awaits awaits)
    (hrank : p.start.Below p.rank queryLimit) : p.Settles where
  awaited b issuer now draws st st' s query reply hs hanswer state := by
    have hk : reply.kind = awaits s := (b.answer_kind hanswer).trans (hs.expects hp)
    intro hr
    have fits := hp.resume now draws s reply hk
    rw [hr] at fits
    exact fits state rfl
  ends b issuer now draws st := hp.runsTo hrank b issuer now draws st

/-- Each of the six protocols settles, whatever it was asked to do. -/
theorem protocols_settle :
    (∀ request caller source, (Register.protocol request caller source).Settles) ∧
    (∀ request, (Binding.protocol request).Settles) ∧
    (∀ request, (Login.protocol request).Settles) ∧
    (∀ request, (Logout.protocol request).Settles) ∧
    (∀ request clearInUse ciphers, (Ready.protocol request clearInUse ciphers).Settles) ∧
    (∀ request ciphers, (Unmanaged.protocol request ciphers).Settles) := by
  refine ⟨fun request caller source => ?_, fun request => ?_, fun request => ?_, fun request => ?_,
    fun request clearInUse ciphers => ?_, fun request ciphers => ?_⟩
  · refine (Register.protocol_awaits request caller source).settles ?_
    change (Register.start request caller).Below Register.rank queryLimit
    unfold Register.start
    split
    · split <;> simp [Register.rank, queryLimit]
    · simp
  · refine (Binding.protocol_awaits request).settles ?_
    change (Binding.start request).Below Binding.rank queryLimit
    unfold Binding.start
    split <;> simp [Binding.rank, queryLimit]
  · exact (Login.protocol_awaits request).settles (by decide : 1 < 7)
  · exact (Logout.protocol_awaits request).settles (by decide : 1 < 7)
  · exact (Ready.protocol_awaits request clearInUse ciphers).settles (by decide : 2 < 7)
  · exact (Unmanaged.protocol_awaits request ciphers).settles (by decide : 6 < 7)

end Protocol

end SessionBroker
