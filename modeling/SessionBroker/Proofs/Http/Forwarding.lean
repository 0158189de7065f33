import Mathlib.Data.List.Forall2
import SessionBroker.Crypto.TaggedXor
import SessionBroker.Executor.Memory
import SessionBroker.Http.Router
import SessionBroker.Proofs.Executor.Counting

/-!
# Forwarding headers

The failures of a request count against its peer, and against another source only where the peer is a trusted proxy
that names it. From everybody else the forwarding header is as good as absent: no part of the broker looks at it, so
that requests which differ in nothing else get the same responses and leave the same state behind.
-/

namespace SessionBroker

namespace HttpRequest

variable {trusted : List IpAddr} {r r' : HttpRequest}

def FromProxy (trusted : List IpAddr) (r : HttpRequest) : Prop := ∃ peer, r.peer = some peer ∧ peer ∈ trusted

/-- The headers that do not name the source of a forwarded request. -/
def otherHeaders (r : HttpRequest) : List (String × String) :=
  r.headers.filter fun header => header.1.toLower ≠ "x-forwarded-for"

/-- The requests are the same, up to the forwarding headers of one that does not come from a trusted proxy. -/
structure SameUnforwarded (trusted : List IpAddr) (r r' : HttpRequest) : Prop where
  method : r.method = r'.method
  target : r.target = r'.target
  peer : r.peer = r'.peer
  body : r.body = r'.body
  others : r.otherHeaders = r'.otherHeaders
  proxied : r.FromProxy trusted → r.headers = r'.headers

/-- The address of the peer, as it is counted against. -/
def peerText (r : HttpRequest) : String :=
  match r.peer with
  | none => "unknown"
  | some peer => peer.text

theorem source_of_not_fromProxy (h : ¬ r.FromProxy trusted) : r.source trusted = r.peerText := by
  unfold source peerText
  cases hpeer : r.peer with
  | none => rfl
  | some peer =>
    have huntrusted : peer ∉ trusted := fun hmem => h ⟨peer, hpeer, hmem⟩
    simp [huntrusted]

theorem header?_congr (h : r.otherHeaders = r'.otherHeaders) {name : String} (hname : name ≠ "x-forwarded-for") :
    r.header? name = r'.header? name := by
  have hothers (q : HttpRequest) : (q.headers.find? fun header => header.1.toLower = name) =
      q.otherHeaders.find? fun header => header.1.toLower = name := by
    rw [otherHeaders, List.find?_filter]
    congr 1
    funext header
    by_cases hheader : header.1.toLower = name <;> simp [hheader, hname]
  unfold header?
  rw [hothers r, hothers r', h]

namespace SameUnforwarded

theorem source (h : SameUnforwarded trusted r r') : r.source trusted = r'.source trusted := by
  by_cases hproxy : r.FromProxy trusted
  · unfold HttpRequest.source forwardedFor header?
    rw [h.peer, h.proxied hproxy]
  · have hproxy' : ¬ r'.FromProxy trusted := by
      unfold FromProxy at hproxy ⊢
      rwa [← h.peer]
    rw [source_of_not_fromProxy hproxy, source_of_not_fromProxy hproxy', peerText, peerText, h.peer]

end SameUnforwarded

end HttpRequest

namespace Router

open HttpRequest (SameUnforwarded)

variable {σ τ : Type} (r : Router σ τ) {now : Instant} {draws : Draws} {request request' : HttpRequest}

/-! ## One request -/

theorem caller_congr (h : SameUnforwarded r.trustedProxies request request') (action : Action) :
    r.caller action request = r.caller action request' := by
  unfold caller
  rw [HttpRequest.header?_congr h.others (by decide)]

theorem serve_congr (h : SameUnforwarded r.trustedProxies request request') :
    r.serve now draws request = r.serve now draws request' := by
  have hpost (name : String) : r.post now draws name request = r.post now draws name request' := by
    unfold post
    simp only [h.source, h.body, r.caller_congr h]
  have hfetch (name query : String) :
      r.fetch now draws name query request = r.fetch now draws name query request' := by
    unfold fetch
    rw [h.source]
  unfold serve
  simp only [h.target, h.method, hpost, hfetch]

theorem finish_executor (s : State σ τ) (outcome : Except ActorError ActorReply) :
    (r.finish now outcome s).2.executor = s.executor := by
  unfold finish
  cases outcome <;> rfl

/-- The executor is left alone, or takes one call of the source. -/
def Passes (now : Instant) (source : String) (m : StateM (State σ τ) HttpResponse) : Prop :=
  ∀ s, (m s).2.executor = s.executor ∨ ∃ call : Executor.Call, call.ctx.source = source ∧ call.ctx.now = now ∧
    (m s).2.executor = (r.executor.take call s.executor).2

section Calls

variable (now draws request)

theorem post_passes (name : String) :
    r.Passes now (request.source r.trustedProxies) (r.post now draws name request) := by
  intro s
  unfold post
  cases Action.parse name with
  | error e => exact .inl (r.finish_executor s _)
  | ok action =>
    dsimp only
    cases hparams : bodyParams request.body with
    | error e => exact .inl (r.finish_executor s (.error e))
    | ok params =>
      let ctx : RequestContext := ⟨now, request.source r.trustedProxies, r.caller action request s⟩
      exact .inr ⟨.action ctx draws action params, rfl, rfl, r.finish_executor _ _⟩

theorem fetch_passes (name query : String) :
    r.Passes now (request.source r.trustedProxies) (r.fetch now draws name query request) := by
  intro s
  unfold fetch
  split
  · let params := Json.object ((Url.queryPairs query).map fun field => (field.1, .str field.2))
    exact .inr ⟨.notice ⟨now, request.source r.trustedProxies, none⟩ draws params, rfl, rfl,
      r.finish_executor _ _⟩
  · exact .inl (r.finish_executor s _)

theorem serve_passes : r.Passes now (request.source r.trustedProxies) (r.serve now draws request) := by
  intro s
  unfold serve
  dsimp only
  cases segment? (Url.splitTarget request.target).1 with
  | none => exact .inl rfl
  | some segment =>
    dsimp only
    split
    · exact .inl rfl
    · cases (Url.percentDecode (Bytes.ofText segment)).text? with
      | none => exact .inl rfl
      | some name =>
        -- whether the body is sent makes no difference to the executor
        dsimp only
        split
        · have hpost := r.post_passes now draws request name s
          split <;> exact hpost
        · have hfetch := r.fetch_passes now draws request name (Url.splitTarget request.target).2 s
          split <;> exact hfetch

end Calls

/-- A call leaves the counts of the other sources alone. -/
theorem take_failures {x : Executor σ τ} {call : Executor.Call} {s : Executor.State σ τ}
    (h : Table.KeysNodup s.counters) {source : String} (hsource : source ≠ call.ctx.source) {later : Instant}
    (hlater : call.ctx.now ≤ later) :
    Executor.failures (x.take call s).2 source later = Executor.failures s source later := by
  unfold Executor.failures
  rw [x.take_counters]
  exact Guard.Entry.failures_enter_other h (Ne.symm hsource) hlater

theorem serve_failures {s : State σ τ} (h : Table.KeysNodup s.executor.counters)
    (huntrusted : ¬ request.FromProxy r.trustedProxies) {source : String} (hsource : source ≠ request.peerText)
    {later : Instant} (hlater : now ≤ later) :
    Executor.failures (r.serve now draws request s).2.executor source later =
      Executor.failures s.executor source later := by
  obtain hsame | ⟨call, hcall, hnow, htake⟩ := r.serve_passes now draws request s
  · rw [hsame]
  · rw [HttpRequest.source_of_not_fromProxy huntrusted] at hcall
    rw [htake]
    exact take_failures h (hcall ▸ hsource) (hnow ▸ hlater)

/-! ## Requests one after the other -/

/-- A request as it comes in. -/
structure Incoming where
  now : Instant
  draws : Draws
  request : HttpRequest

/-- They come in at the same instant, with the same random values. -/
structure Incoming.SameUnforwarded (trusted : List IpAddr) (i i' : Incoming) : Prop where
  now : i.now = i'.now
  draws : i.draws = i'.draws
  request : HttpRequest.SameUnforwarded trusted i.request i'.request

/-- Answers one request after the other. -/
def serveAll : List Incoming → State σ τ → List HttpResponse × State σ τ
  | [], s => ([], s)
  | i :: rest, s =>
    let (response, s) := r.serve i.now i.draws i.request s
    let (responses, s) := serveAll rest s
    (response :: responses, s)

variable {r}

/-- Requests that differ only in the forwarding headers of peers that are no trusted proxies get the same responses
and lead to the same state, which is all that is kept of the guard, the tickets and the broker. And by a request of
such a peer, whatever headers it has, no count changes but that of the address of the peer. -/
theorem forwarding_ignored {requests requests' : List Incoming}
    (h : List.Forall₂ (Incoming.SameUnforwarded r.trustedProxies) requests requests') (s : State σ τ) :
    r.serveAll requests s = r.serveAll requests' s ∧
      ∀ i : Incoming, ¬ i.request.FromProxy r.trustedProxies →
        ∀ t : State σ τ, Table.KeysNodup t.executor.counters →
        ∀ source later, source ≠ i.request.peerText → i.now ≤ later →
          Executor.failures (r.serve i.now i.draws i.request t).2.executor source later =
            Executor.failures t.executor source later := by
  refine ⟨?_, fun i huntrusted t ht source later hsource hlater => r.serve_failures ht huntrusted hsource hlater⟩
  induction h generalizing s with
  | nil => rfl
  | @cons i i' rest rest' hfirst _ ih =>
    have hserve : r.serve i.now i.draws i.request s = r.serve i'.now i'.draws i'.request s := by
      rw [hfirst.now, hfirst.draws, r.serve_congr hfirst.request]
    unfold serveAll
    simp only [hserve, ih]

/-- A guess at a token, of a peer that says to forward it. -/
def trialGuess (forwarded : String) : Incoming :=
  ⟨.epoch, ⟨"", "", ""⟩,
    ⟨"POST", actorPath ++ "test", [("X-Forwarded-For", forwarded)], some (.v4 [10, 1, 1, 1]),
      Bytes.ofText "\x7b\"token\":\"guess\"\x7d"⟩⟩

/-- Two guesses in the names of others count against the peer, as two in its own name. -/
theorem forwarding_ignored_guesses :
    let x := Executor.inMemory .standard TaggedXor.cipher trialIssuer
    let r : Router Broker TicketTable := ⟨x, [.v4 [10, 0, 0, 1]]⟩
    let s : State Broker TicketTable := ⟨.initial, 0⟩
    let named := [trialGuess "192.0.2.1", trialGuess "192.0.2.2"]
    let plain := [trialGuess "10.1.1.1", trialGuess "10.1.1.1"]
    List.Forall₂ (Incoming.SameUnforwarded r.trustedProxies) named plain ∧
      r.serveAll named s = r.serveAll plain s ∧
      Executor.failures (r.serveAll named s).2.executor "10.1.1.1" .epoch = 2 := by
  intro x r s named plain
  have huntrusted (forwarded : String) : ¬ (trialGuess forwarded).request.FromProxy r.trustedProxies := by
    rintro ⟨peer, hpeer, hmem⟩
    cases hpeer
    revert hmem
    decide
  have hothers (forwarded : String) : (trialGuess forwarded).request.otherHeaders = [] := by
    have hname : "X-Forwarded-For".toLower = "x-forwarded-for" := by decide +kernel
    simp [HttpRequest.otherHeaders, trialGuess, hname]
  have hguess (a b : String) : Incoming.SameUnforwarded r.trustedProxies (trialGuess a) (trialGuess b) :=
    ⟨rfl, rfl, rfl, rfl, rfl, rfl, (hothers a).trans (hothers b).symm, fun h => absurd h (huntrusted a)⟩
  have hsame : List.Forall₂ (Incoming.SameUnforwarded r.trustedProxies) named plain :=
    .cons (hguess _ _) (.cons (hguess _ _) .nil)
  exact ⟨hsame, (forwarding_ignored hsame s).1, by decide +kernel⟩

end Router

end SessionBroker
