import Mathlib.Data.List.Induction
import SessionBroker.Proofs.Protocol.Run

/-!
# Machines driven from outside

Whoever drives a machine may call it in any order, deliver replies that it does not wait for, poll it before it has
anything and go on after its end. `Driven` says what can be relied on all the same, and `machines_driven` that it
holds for each of the six protocols. All of it comes from what a single call does to the stage and to the queue.
-/

namespace SessionBroker

namespace Machine

/-- What can be done to a machine. -/
inductive Call
  | recv (now : Instant) (draws : Draws) (reply : Option Reply)
  | pollTransmit
  | pollResult

namespace Call

def isRecv : Call → Bool
  | recv .. => true
  | _ => false

def isPollResult : Call → Bool
  | pollResult => true
  | _ => false

end Call

/-- What a call hands out. -/
inductive Output (α : Type)
  | query (polled : Option Query)
  | result (polled : Option (Except ProtocolError α))

namespace Output

variable {α : Type}

def query? : Output α → Option Query
  | query polled => polled
  | result _ => none

def result? : Output α → Option (Except ProtocolError α)
  | query _ => none
  | result polled => polled

end Output

variable {σ α : Type} (p : Protocol σ α)

/-- The machine after a call. -/
def call (m : Machine σ α) : Call → Machine σ α
  | .recv now draws reply => m.recv p now draws reply
  | .pollTransmit => m.pollTransmit.2
  | .pollResult => m.pollResult.2

def output? (m : Machine σ α) : Call → Option (Output α)
  | .recv .. => none
  | .pollTransmit => some (.query m.pollTransmit.1)
  | .pollResult => some (.result m.pollResult.1)

/-- The queries that a call adds to the end of the queue. -/
def added (m : Machine σ α) (c : Call) : List Query := (m.call p c).queue.drop m.queue.length

/-- The machine after the calls. -/
def after (calls : List Call) (m : Machine σ α) : Machine σ α := calls.foldl (call p) m

/-- What the polls among the calls hand out, in order. -/
def outputs : List Call → Machine σ α → List (Output α)
  | [], _ => []
  | c :: rest, m => (m.output? c).toList ++ outputs rest (m.call p c)

/-- The queries that leave the machine, in order. -/
def sent (calls : List Call) (m : Machine σ α) : List Query := (outputs p calls m).filterMap Output.query?

/-- The results that leave the machine, in order. -/
def results (calls : List Call) (m : Machine σ α) : List (Except ProtocolError α) :=
  (outputs p calls m).filterMap Output.result?

/-- The queries that were put into the queue, in order. -/
def asked : List Call → Machine σ α → List Query
  | [], _ => []
  | c :: rest, m => m.added p c ++ asked rest (m.call p c)

/-- The machine has finished or failed. -/
def Ended (m : Machine σ α) : Prop :=
  match m.stage with
  | .failed _ | .finished _ | .drained => True
  | .idle | .waiting _ => False

variable {p} {m : Machine σ α} {now : Instant} {draws : Draws} {reply : Option Reply} {c : Call}

/-! ## One call -/

theorem recv_idle (h : m.stage = .idle) : m.recv p now draws reply = m.take p.start := by
  unfold recv
  rw [h]

theorem recv_waiting {s : σ} (h : m.stage = .waiting s) (r : Reply) :
    m.recv p now draws (some r) = m.take (p.resume now draws s r) := by
  unfold recv
  rw [h]

theorem recv_ended (h : m.Ended) : m.recv p now draws reply = m := by
  unfold recv
  unfold Ended at h
  split at h <;> simp_all

/-- Once it was started, a machine makes nothing of a call that brings no reply. -/
theorem recv_none (h : m.stage ≠ .idle) : m.recv p now draws none = m := by
  unfold recv
  cases hstage : m.stage with
  | idle => exact absurd hstage h
  | waiting | failed | finished | drained => rfl

/-- Whatever it is called with, a machine stays as it is or makes one move of its protocol. -/
theorem recv_eq (p : Protocol σ α) (m : Machine σ α) (now : Instant) (draws : Draws) (reply : Option Reply) :
    (m.stage ≠ .idle ∧ m.recv p now draws reply = m) ∨
    ∃ move, m.recv p now draws reply = m.take move ∧
      (move = p.start ∨ ∃ s r, m.stage = .waiting s ∧ move = p.resume now draws s r) := by
  cases hstage : m.stage with
  | idle => exact .inr ⟨_, recv_idle hstage, .inl rfl⟩
  | waiting s =>
    cases reply with
    | none => exact .inl ⟨by simp, recv_none (by simp [hstage])⟩
    | some r => exact .inr ⟨_, recv_waiting hstage r, .inr ⟨s, r, rfl, rfl⟩⟩
  | failed | finished | drained => exact .inl ⟨by simp, recv_ended (by simp [Ended, hstage])⟩

theorem take_queue (m : Machine σ α) (move : Move σ α) :
    ∃ new : Option Query, (m.take move).queue = m.queue ++ new.toList := by
  cases move with
  | ask query next => exact ⟨some query, rfl⟩
  | finish | fail => exact ⟨none, (List.append_nil _).symm⟩

theorem take_stage (m : Machine σ α) (move : Move σ α) : (m.take move).stage ≠ .idle := by
  cases move <;> simp [take]

theorem recv_queue (p : Protocol σ α) (m : Machine σ α) (now : Instant) (draws : Draws) (reply : Option Reply) :
    ∃ new : Option Query, (m.recv p now draws reply).queue = m.queue ++ new.toList := by
  obtain ⟨-, hsame⟩ | ⟨move, hmove, -⟩ := recv_eq p m now draws reply
  · exact ⟨none, by simp [hsame]⟩
  · rw [hmove]
    exact m.take_queue move

theorem added_recv : (m.recv p now draws reply).queue = m.queue ++ m.added p (.recv now draws reply) := by
  obtain ⟨new, hnew⟩ := recv_queue p m now draws reply
  have hadded : m.added p (.recv now draws reply) = new.toList := by
    change (m.recv p now draws reply).queue.drop m.queue.length = _
    rw [hnew, List.drop_left]
  rw [hnew, hadded]

theorem added_of_same (h : m.call p c = m) : m.added p c = [] := by
  unfold added
  rw [h, List.drop_length]

/-- A call that brings no reply, other than the first, goes unnoticed. -/
theorem call_recv_none (h : m.stage ≠ .idle) (now : Instant) (draws : Draws) :
    m.call p (.recv now draws none) = m ∧ m.added p (.recv now draws none) = [] := by
  have hsame : m.recv p now draws none = m := recv_none h
  exact ⟨hsame, added_of_same hsame⟩

@[simp] theorem pollTransmit_stage : m.pollTransmit.2.stage = m.stage := by
  unfold pollTransmit
  cases m.queue <;> rfl

@[simp] theorem pollResult_queue : m.pollResult.2.queue = m.queue := by
  unfold pollResult
  cases m.stage <;> rfl

theorem pollTransmit_queue : m.pollTransmit.1.toList ++ m.pollTransmit.2.queue = m.queue := by
  unfold pollTransmit
  cases hqueue : m.queue with
  | nil => simp [hqueue]
  | cons query rest => rfl

theorem added_pollTransmit : m.added p .pollTransmit = [] := by
  refine List.drop_eq_nil_of_le ?_
  change m.pollTransmit.2.queue.length ≤ _
  rw [← m.pollTransmit_queue, List.length_append]
  exact Nat.le_add_left _ _

theorem added_pollResult : m.added p .pollResult = [] := by
  refine List.drop_eq_nil_of_le (Nat.le_of_eq ?_)
  change m.pollResult.2.queue.length = _
  rw [pollResult_queue]

/-- What leaves the queue by a call is its front, and what comes in is its end. -/
theorem call_queue : ((m.output? c).bind Output.query?).toList ++ (m.call p c).queue = m.queue ++ m.added p c := by
  cases c with
  | recv now draws reply => exact added_recv
  | pollTransmit =>
    rw [added_pollTransmit, List.append_nil]
    exact pollTransmit_queue
  | pollResult =>
    rw [added_pollResult, List.append_nil]
    exact pollResult_queue

theorem recv_started (p : Protocol σ α) (m : Machine σ α) (now : Instant) (draws : Draws) (reply : Option Reply) :
    (m.recv p now draws reply).stage ≠ .idle := by
  obtain ⟨hstarted, hsame⟩ | ⟨move, hmove, -⟩ := recv_eq p m now draws reply
  · rwa [hsame]
  · rw [hmove]
    exact m.take_stage move

theorem call_started (h : m.stage ≠ .idle) : (m.call p c).stage ≠ .idle := by
  cases c with
  | recv now draws reply => exact recv_started p m now draws reply
  | pollTransmit => rwa [call, pollTransmit_stage]
  | pollResult =>
    unfold call pollResult
    cases hstage : m.stage <;> simp_all

/-- A machine that waits after a call waited before, or has just asked. -/
theorem call_waiting {s : σ} (h : (m.call p c).stage = .waiting s) :
    (m.stage = .waiting s ∧ m.added p c = []) ∨ ∃ query, m.added p c = [query] ∧
      (p.start = .ask query s ∨
        ∃ s₀ now draws r, m.stage = .waiting s₀ ∧ p.resume now draws s₀ r = .ask query s) := by
  cases c with
  | recv now draws reply =>
    obtain ⟨-, hsame⟩ | ⟨move, hmove, hfrom⟩ := recv_eq p m now draws reply
    · have hsame : m.call p (.recv now draws reply) = m := hsame
      exact .inl ⟨by rwa [hsame] at h, added_of_same hsame⟩
    · have hcall : m.call p (.recv now draws reply) = m.take move := hmove
      rw [hcall] at h
      cases move with
      | finish | fail => cases h
      | ask query next =>
        cases h
        refine .inr ⟨query, ?_, ?_⟩
        · rw [added, hcall]
          exact List.drop_left
        · rcases hfrom with hstart | ⟨s₀, r, hwaiting, hresume⟩
          · exact .inl hstart.symm
          · exact .inr ⟨s₀, now, draws, r, hwaiting, hresume.symm⟩
  | pollTransmit =>
    rw [call, pollTransmit_stage] at h
    exact .inl ⟨h, added_pollTransmit⟩
  | pollResult =>
    refine .inl ⟨?_, added_pollResult⟩
    unfold call pollResult at h
    cases hstage : m.stage <;> simp_all

/-! ## Calls one after the other -/

variable {calls more : List Call}

@[simp] theorem after_cons (m : Machine σ α) : m.after p (c :: calls) = (m.call p c).after p calls := rfl

theorem after_append (m : Machine σ α) : m.after p (calls ++ more) = (m.after p calls).after p more :=
  List.foldl_append

theorem outputs_append (m : Machine σ α) :
    m.outputs p (calls ++ more) = m.outputs p calls ++ (m.after p calls).outputs p more := by
  induction calls generalizing m with
  | nil => rfl
  | cons c rest ih => simp [outputs, ih]

theorem asked_append (m : Machine σ α) :
    m.asked p (calls ++ more) = m.asked p calls ++ (m.after p calls).asked p more := by
  induction calls generalizing m with
  | nil => rfl
  | cons c rest ih => simp [asked, ih]

theorem filterMap_outputs {β : Type} (f : Output α → Option β) (m : Machine σ α) :
    (m.outputs p (c :: calls)).filterMap f =
      ((m.output? c).bind f).toList ++ ((m.call p c).outputs p calls).filterMap f := by
  rw [outputs, List.filterMap_append]
  congr 1
  cases m.output? c with
  | none => rfl
  | some output => cases h : f output <;> simp [h]

theorem sent_queue (m : Machine σ α) :
    m.sent p calls ++ (m.after p calls).queue = m.queue ++ m.asked p calls := by
  induction calls generalizing m with
  | nil => exact (List.append_nil _).symm
  | cons c rest ih =>
    have hrest : ((m.call p c).outputs p rest).filterMap Output.query? ++ ((m.call p c).after p rest).queue =
        (m.call p c).queue ++ (m.call p c).asked p rest := ih _
    rw [sent, filterMap_outputs, after_cons, List.append_assoc, hrest, ← List.append_assoc, call_queue, asked,
      List.append_assoc]

/-! ## The end of a machine -/

theorem call_ended (h : m.Ended) : (m.call p c).Ended ∧ m.added p c = [] := by
  cases c with
  | recv now draws reply =>
    have hsame : m.call p (.recv now draws reply) = m := recv_ended h
    refine ⟨?_, added_of_same hsame⟩
    rwa [hsame]
  | pollTransmit =>
    refine ⟨?_, added_pollTransmit⟩
    rwa [Ended, call, pollTransmit_stage]
  | pollResult =>
    refine ⟨?_, added_pollResult⟩
    unfold Ended call pollResult at *
    cases hstage : m.stage <;> simp_all

theorem asked_ended (h : m.Ended) : m.asked p calls = [] := by
  induction calls generalizing m with
  | nil => rfl
  | cons c rest ih =>
    obtain ⟨hnext, hadded⟩ := call_ended (p := p) (c := c) h
    rw [asked, hadded, ih hnext, List.nil_append]

/-- The result that could be taken. -/
def outcome? (m : Machine σ α) : Option (Except ProtocolError α) := m.pollResult.1

theorem outcome?_of_stage {m' : Machine σ α} (h : m'.stage = m.stage) : m'.outcome? = m.outcome? := by
  unfold outcome? pollResult
  rw [h]
  cases m.stage <;> rfl

/-- A result is there at the end only, and taking it leaves none. -/
theorem ended_of_outcome? {outcome : Except ProtocolError α} (h : m.outcome? = some outcome) :
    m.Ended ∧ m.pollResult.2.outcome? = none := by
  unfold outcome? pollResult at h
  unfold Ended outcome? pollResult
  cases hstage : m.stage <;> simp_all

theorem pollResult_of_none (h : m.outcome? = none) : m.pollResult.2 = m := by
  unfold outcome? pollResult at h
  unfold pollResult
  cases hstage : m.stage <;> simp_all

theorem results_cons (m : Machine σ α) : m.results p (c :: calls) =
    (if c.isPollResult then m.outcome?.toList else []) ++ (m.call p c).results p calls := by
  rw [results, filterMap_outputs]
  cases c <;> rfl

theorem results_ended (h : m.Ended) :
    m.results p calls = if calls.any Call.isPollResult then m.outcome?.toList else [] := by
  induction calls generalizing m with
  | nil => rfl
  | cons c rest ih =>
    have hrest := ih (call_ended (p := p) (c := c) h).1
    rw [results_cons, hrest, List.any_cons]
    cases c with
    | recv now draws reply =>
      have hsame : m.call p (.recv now draws reply) = m := recv_ended h
      rw [hsame]
      rfl
    | pollTransmit =>
      have houtcome : (m.call p .pollTransmit).outcome? = m.outcome? := outcome?_of_stage pollTransmit_stage
      rw [houtcome]
      rfl
    | pollResult =>
      -- nothing is left for the polls that follow
      have hnone : (m.call p .pollResult).outcome? = none := by
        cases houtcome : m.outcome? with
        | none =>
          rw [call, pollResult_of_none houtcome]
          exact houtcome
        | some outcome => exact (ended_of_outcome? houtcome).2
      simp [hnone, Call.isPollResult]

theorem results_length_le (m : Machine σ α) : (m.results p calls).length ≤ 1 := by
  induction calls generalizing m with
  | nil => exact Nat.zero_le 1
  | cons c rest ih =>
    rw [results_cons]
    split
    · next hpoll =>
      cases c with
      | recv | pollTransmit => cases hpoll
      | pollResult =>
        cases houtcome : m.outcome? with
        | none => exact ih _
        | some outcome =>
          obtain ⟨hended, hnone⟩ := ended_of_outcome? houtcome
          have hafter : (m.call p .pollResult).outcome? = none := hnone
          rw [results_ended (call_ended hended).1, hafter]
          simp
    · exact ih _

end Machine

/-! ## Machines of protocols -/

namespace Protocol

open Machine (Call)

variable {σ α : Type}

/-- What a machine of the protocol does, whatever is done to it. -/
structure Driven (p : Protocol σ α) : Prop where
  /-- A call that delivers a reply, or none, puts at most one query into the queue. -/
  one_query : ∀ calls now draws reply, ∃ new : Option Query,
    ((Machine.start.after p calls).recv p now draws reply).queue =
      (Machine.start.after p calls).queue ++ new.toList
  /-- The queries leave the queue in the order in which they were put into it. -/
  in_order : ∀ calls,
    Machine.start.sent p calls ++ (Machine.start.after p calls).queue = Machine.start.asked p calls
  /-- The first call starts the machine. It waits for nothing yet, so what the call brings is not looked at. -/
  starts : ∀ calls now draws reply, calls.any Call.isRecv = false →
    (Machine.start.after p calls).recv p now draws reply = (Machine.start.after p calls).take p.start
  /-- A machine that waits does so for the kind of reply that its last query asks for. The other kinds, and only
  these, end it as unexpected. -/
  awaited : ∀ calls s, (Machine.start.after p calls).stage = .waiting s →
    ∃ query, (Machine.start.asked p calls).getLast? = some query ∧ ∀ now draws reply,
      reply.kind ≠ query.expects ↔ ∃ state, (Machine.start.after p calls).recv p now draws (some reply) =
        ⟨.failed (.unexpectedReply state), (Machine.start.after p calls).queue⟩
  /-- Nothing that is delivered to a machine that has finished or failed changes it: it asks for nothing any more,
  and its result is the one that it ended with, once it is polled for. -/
  ended : ∀ calls, (Machine.start.after p calls).Ended →
    (∀ now draws reply, (Machine.start.after p calls).recv p now draws reply = Machine.start.after p calls) ∧
    ∀ more, (Machine.start.after p calls).asked p more = [] ∧
      (Machine.start.after p calls).results p more =
        if more.any Call.isPollResult then (Machine.start.after p calls).outcome?.toList else []
  one_result : ∀ calls, (Machine.start.results p calls).length ≤ 1
  /-- A call that delivers nothing, other than the first, may as well be left out. -/
  idle_recv : ∀ before after now draws, before.any Call.isRecv = true →
    let calls := before ++ .recv now draws none :: after
    Machine.start.outputs p calls = Machine.start.outputs p (before ++ after) ∧
      Machine.start.asked p calls = Machine.start.asked p (before ++ after) ∧
      Machine.start.after p calls = Machine.start.after p (before ++ after)

variable {p : Protocol σ α} {calls : List Call}

theorem stage_of_no_recv (h : calls.any Call.isRecv = false) : (Machine.start.after p calls).stage = .idle := by
  induction calls using List.reverseRecOn with
  | nil => rfl
  | append_singleton before c ih =>
    rw [List.any_append, Bool.or_eq_false_iff] at h
    have hidle := ih h.1
    rw [Machine.after_append]
    change ((Machine.start.after p before).call p c).stage = .idle
    cases c with
    | recv => simp [Call.isRecv] at h
    | pollTransmit => rwa [Machine.call, Machine.pollTransmit_stage]
    | pollResult =>
      unfold Machine.call Machine.pollResult
      simp only [hidle]

theorem started_of_recv (h : calls.any Call.isRecv = true) : (Machine.start.after p calls).stage ≠ .idle := by
  induction calls using List.reverseRecOn with
  | nil => cases h
  | append_singleton before c ih =>
    rw [Machine.after_append]
    change ((Machine.start.after p before).call p c).stage ≠ .idle
    rw [List.any_append, Bool.or_eq_true] at h
    rcases h with hbefore | hlast
    · exact Machine.call_started (ih hbefore)
    · cases c with
      | recv now draws reply => exact Machine.recv_started p _ now draws reply
      | pollTransmit | pollResult => cases hlast

/-- A machine waits for the reply to the query that it put into the queue last. -/
theorem emits_of_waiting {s : σ} (h : (Machine.start.after p calls).stage = .waiting s) :
    ∃ query, (Machine.start.asked p calls).getLast? = some query ∧ p.Emits s query := by
  induction calls using List.reverseRecOn generalizing s with
  | nil => cases h
  | append_singleton before c ih =>
    have hasked : Machine.start.asked p (before ++ [c]) =
        Machine.start.asked p before ++ (Machine.start.after p before).added p c := by
      rw [Machine.asked_append, Machine.asked, Machine.asked, List.append_nil]
    rw [Machine.after_append] at h
    obtain ⟨hsame, hadded⟩ | ⟨query, hadded, hstart | ⟨s₀, now, draws, r, hwaiting, hresume⟩⟩ :=
      Machine.call_waiting (c := c) h
    · rw [hasked, hadded, List.append_nil]
      exact ih hsame
    · exact ⟨query, by rw [hasked, hadded, List.getLast?_concat], .start hstart⟩
    · obtain ⟨_, -, hemits⟩ := ih hwaiting
      exact ⟨query, by rw [hasked, hadded, List.getLast?_concat], .resume hemits hresume⟩

theorem Awaits.unexpected_iff {awaits : σ → ReplyKind} (hp : p.Awaits awaits) {m : Machine σ α} {s : σ}
    (h : m.stage = .waiting s) (now : Instant) (draws : Draws) (reply : Reply) :
    reply.kind ≠ awaits s ↔
      ∃ state, m.recv p now draws (some reply) = ⟨.failed (.unexpectedReply state), m.queue⟩ := by
  rw [Machine.recv_waiting h]
  constructor
  · intro hkind
    obtain ⟨state, hrefuse⟩ := hp.refuse now draws s reply hkind
    exact ⟨state, by rw [hrefuse]; rfl⟩
  · rintro ⟨state, hfailed⟩ hkind
    have hfits := hp.resume now draws s reply hkind
    cases hmove : p.resume now draws s reply with
    | ask query next =>
      rw [hmove] at hfailed
      cases congrArg Machine.stage hfailed
    | finish result =>
      rw [hmove] at hfailed
      cases congrArg Machine.stage hfailed
    | fail error =>
      rw [hmove] at hfits hfailed
      cases congrArg Machine.stage hfailed
      exact hfits state rfl

/-- It is enough to know what each state waits for. -/
theorem Awaits.driven {awaits : σ → ReplyKind} (hp : p.Awaits awaits) : p.Driven where
  one_query calls now draws reply := Machine.recv_queue p _ now draws reply
  in_order calls := Machine.sent_queue _
  starts calls now draws reply h := Machine.recv_idle (stage_of_no_recv h)
  awaited calls s h := by
    obtain ⟨query, hlast, hemits⟩ := emits_of_waiting h
    refine ⟨query, hlast, fun now draws reply => ?_⟩
    rw [hemits.expects hp]
    exact hp.unexpected_iff h now draws reply
  ended calls h :=
    ⟨fun now draws reply => Machine.recv_ended h,
      fun more => ⟨Machine.asked_ended h, Machine.results_ended h⟩⟩
  one_result calls := Machine.results_length_le _
  idle_recv before after now draws h := by
    intro calls
    obtain ⟨hsame, hadded⟩ := Machine.call_recv_none (p := p) (started_of_recv h) now draws
    refine ⟨?_, ?_, ?_⟩
    · rw [Machine.outputs_append, Machine.outputs_append, Machine.outputs, hsame]
      rfl
    · rw [Machine.asked_append, Machine.asked_append, Machine.asked, hadded, hsame, List.nil_append]
    · rw [Machine.after_append, Machine.after_append, Machine.after_cons, hsame]

/-- Each of the six machines keeps to this, whatever it was asked to do and whatever is done to it. -/
theorem machines_driven :
    (∀ request caller source, (Register.protocol request caller source).Driven) ∧
    (∀ request, (Binding.protocol request).Driven) ∧
    (∀ request, (Login.protocol request).Driven) ∧
    (∀ request, (Logout.protocol request).Driven) ∧
    (∀ request clearInUse ciphers, (Ready.protocol request clearInUse ciphers).Driven) ∧
    (∀ request ciphers, (Unmanaged.protocol request ciphers).Driven) :=
  ⟨fun request caller source => (Register.protocol_awaits request caller source).driven,
    fun request => (Binding.protocol_awaits request).driven,
    fun request => (Login.protocol_awaits request).driven,
    fun request => (Logout.protocol_awaits request).driven,
    fun request clearInUse ciphers => (Ready.protocol_awaits request clearInUse ciphers).driven,
    fun request ciphers => (Unmanaged.protocol_awaits request ciphers).driven⟩

end Protocol

end SessionBroker
