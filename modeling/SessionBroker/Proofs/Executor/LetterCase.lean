import SessionBroker.Proofs.Executor.Binding
import SessionBroker.Proofs.Executor.Registration

/-!
# Letter case of unique ids

A machine is searched by each of its ids in upper and in lower case, and by no other spelling, not even the one
that it reported. A user service that goes by an id in mixed case is therefore found by no machine, and the letter
case of ids is ignored exactly as long as all such user services are accompanied by one that is spelled evenly.
-/

namespace SessionBroker

namespace Broker

variable {b : Broker} {u : UserService}

/-- The user service waits for its machine, or is open to it. -/
structure Bindable (b : Broker) (u : UserService) : Prop where
  kept : b.userService? u.uuid = some u
  usable : u.state = .usable ∨ u.state = .preparing

/-- Some user service that may be bound goes by the id in upper or in lower case. -/
def Offers (b : Broker) (id : String) : Prop :=
  ∃ u, b.Bindable u ∧ (u.uniqueId = Case.upper id ∨ u.uniqueId = Case.lower id)

theorem offers_congr {id id' : String} (h : Case.Alike id id') : b.Offers id ↔ b.Offers id' := by
  unfold Offers
  rw [h.upper, h.lower]

end Broker

theorem Case.Alike.eq_empty {s t : String} (h : Case.Alike s t) (ht : t = "") : s = "" := by
  subst ht
  exact String.toList_inj.mp (List.map_eq_nil_iff.mp h)

namespace Binding

variable {b : Broker} {request : BindingRequest}

theorem toJson_ownToken (binding : Binding) :
    binding.toJson.get? "own_token" = some (SessionBroker.toJson (binding.ownToken?.map (·.text))) := by
  cases binding <;> rfl

theorem exists_eligible : (∃ u, Eligible b request none u) ↔ ∃ id, IsCandidate request id ∧ b.Offers id := by
  constructor
  · rintro ⟨u, hu⟩
    obtain ⟨id, hid, hnamed⟩ := hu.named
    exact ⟨id, hid, u, ⟨hu.kept, hu.usable⟩, hnamed⟩
  · rintro ⟨id, hid, u, hu, hnamed⟩
    exact ⟨u, hu.kept, hu.usable, ⟨id, hid, hnamed⟩, fun _ h => absurd h (Option.some_ne_none _).symm⟩

end Binding

namespace Executor

open Binding (IsCandidate)

/-- The actor is told the user service that its machine belongs to. -/
def Binds (outcome : Except ActorError ActorReply) : Prop :=
  ∃ reply own, outcome = .ok reply ∧ reply.result.get? "own_token" = some (.str own)

theorem binds_iff {binding : Binding} : Binds (.ok (.ok binding.toJson)) ↔ binding.ownToken? ≠ none := by
  have hown := binding.toJson_ownToken
  cases htoken : binding.ownToken? with
  | none =>
    rw [htoken] at hown
    refine iff_of_false ?_ (fun h => h rfl)
    rintro ⟨reply, own, hreply, hget⟩
    cases hreply
    rw [ActorReply.ok, hown] at hget
    cases hget
  | some own =>
    rw [htoken] at hown
    exact iff_of_true ⟨_, own.text, rfl, hown⟩ (Option.some_ne_none own)

/-- A managed actor shows a valid token with these parameters. -/
structure Presents (b : Broker) (params : Json) (request : BindingRequest) : Prop where
  decoded : (fromJson params : Decoded BindingRequest) = .ok request
  managed : request.kind = .managed
  valid : b.validateActorToken request.token = true

/-! ## A machine with one network card -/

def oneCard (token mac : String) : BindingRequest := ⟨.managed, "4.0.0", token, [⟨mac, ""⟩]⟩

section OneCard

variable {b : Broker} {token mac : String}

theorem isCandidate_oneCard {id : String} : IsCandidate (oneCard token mac) id ↔ mac ≠ "" ∧ id = mac := by
  constructor
  · rintro ⟨hid, entry, hentry, rfl⟩
    obtain rfl := List.mem_singleton.mp hentry
    exact ⟨hid, rfl⟩
  · rintro ⟨hmac, rfl⟩
    exact ⟨hmac, ⟨id, ""⟩, List.mem_singleton_self _, rfl⟩

theorem presents_oneCard (hvalid : b.validateActorToken token = true) (mac : String) :
    Presents b (toJson (oneCard token mac)) (oneCard token mac) := ⟨rfl, rfl, hvalid⟩

end OneCard

/-! ## What is found -/

section Calls

variable {config : BrokerConfig} {cipher : Cipher} {issuer : Issuer} {s : State Broker TicketTable}
  {ctx : RequestContext}

/-- The call is answered, and the machine is bound if one of its ids is offered. -/
theorem handle_binds (hkept : s.backend.Kept) (hfree : (inMemory config cipher issuer).isBlocked ctx s = false)
    (draws : Draws) {params : Json} {request : BindingRequest} (h : Presents s.backend params request) :
    let answer := ((inMemory config cipher issuer).handle ctx draws .bindActor params s).1
    ∃ binding : Binding, answer = .ok (.ok binding.toJson) ∧
      (binding.ownToken? ≠ none ↔ ∃ id, IsCandidate request id ∧ s.backend.Offers id) := by
  intro answer
  obtain ⟨binding, after, hrun, -, hnone⟩ :=
    Binding.run_binds issuer ctx.now draws hkept (.managed h.managed h.valid)
  have hdispatch := @dispatch_bindActor config cipher issuer ctx s draws params request h.decoded
  rw [hrun] at hdispatch
  refine ⟨binding, ?_, ?_⟩
  · change (Executor.handle _ _ _ _ _ _).1 = _
    rw [handle_eq, hdispatch, hfree]
    rfl
  · rw [ne_eq, hnone, ← Binding.exists_eligible, not_forall_not]

/-- A managed actor with a valid token, whose source is not blocked, is answered, and it is bound if a bindable user
service goes by one of its first five macs in upper or in lower case. So all machines are bound for which there is
one in whatever letter case exactly if for each id that a bindable user service goes by there is also one that goes
by it in upper or in lower case, or if there are no valid tokens. -/
theorem letter_case_ignored_iff (hs : Attainable (inMemory config cipher issuer) s)
    (hfree : (inMemory config cipher issuer).isBlocked ctx s = false) :
    let b := s.backend
    let answer := fun draws params => ((inMemory config cipher issuer).handle ctx draws .bindActor params s).1
    (∀ draws params request, Presents b params request →
      ∃ binding : Binding, answer draws params = .ok (.ok binding.toJson) ∧
        (Binds (answer draws params) ↔ ∃ id, IsCandidate request id ∧ b.Offers id)) ∧
    ((∀ draws params request, Presents b params request →
        (∃ u id, b.Bindable u ∧ IsCandidate request id ∧ Case.Alike u.uniqueId id) → Binds (answer draws params)) ↔
      ∀ token, b.validateActorToken token = true → ∀ u, b.Bindable u → u.uniqueId ≠ "" → b.Offers u.uniqueId) := by
  intro b answer
  have hanswer : ∀ draws params request, Presents b params request →
      ∃ binding : Binding, answer draws params = .ok (.ok binding.toJson) ∧
        (Binds (answer draws params) ↔ ∃ id, IsCandidate request id ∧ b.Offers id) := by
    intro draws params request h
    obtain ⟨binding, hbinding, hiff⟩ := handle_binds hs.kept hfree draws h
    have hanswered : answer draws params = .ok (.ok binding.toJson) := hbinding
    exact ⟨binding, hanswered, by rw [hanswered, binds_iff, hiff]⟩
  refine ⟨hanswer, fun hbinds token hvalid u hu hnamed => ?_, fun hoffers draws params request h hfound => ?_⟩
  · -- the machine of the user service reports the very id that it is kept under
    have hpresents := presents_oneCard hvalid u.uniqueId
    have hcandidate : IsCandidate (oneCard token u.uniqueId) u.uniqueId := isCandidate_oneCard.mpr ⟨hnamed, rfl⟩
    obtain ⟨-, -, hiff⟩ := hanswer ⟨"", "", ""⟩ _ _ hpresents
    obtain ⟨id, hid, hoffer⟩ := hiff.mp (hbinds _ _ _ hpresents ⟨u, _, hu, hcandidate, rfl⟩)
    rwa [(isCandidate_oneCard.mp hid).2] at hoffer
  · obtain ⟨u, id, hu, hid, halike⟩ := hfound
    obtain ⟨-, -, hiff⟩ := hanswer draws params request h
    have hnamed : u.uniqueId ≠ "" := fun hempty => hid.1 (halike.symm.eq_empty hempty)
    have hoffer := hoffers request.token h.valid u hu hnamed
    exact hiff.mpr ⟨id, hid, (Broker.offers_congr halike).mp hoffer⟩

end Calls

/-! ## A pool with one user service -/

/-- A machine is registered under the token "t", and a user service that goes by the id is being prepared. -/
def trialDesk (uniqueId : String) : List Event :=
  let actor : ActorIdentity :=
    ⟨"t", "aa:bb", "10.0.0.2", "10.1.1.1", "desk", 0, "", "", ⟨"", "", "", .null⟩, "ann", .epoch⟩
  [.query (.storeActor actor) .epoch ⟨"", "", ""⟩,
    .administer (.addService ⟨.nil, "lab", none⟩ none),
    .administer (.addPool ⟨.nil, .nil, "pool", none⟩ (some OsPolicy.standard.manager) ⟨.zero, 0⟩),
    .administer (.addUserService (.fresh .nil .nil uniqueId "desk" .l1 .epoch) ⟨true, fun _ => .running⟩ .epoch)]

section Trial

variable {uniqueId : String}

theorem trialDesk_attainable (uniqueId : String) :
    let x := inMemory .standard TaggedXor.cipher trialIssuer
    Attainable x (x.after (trialDesk uniqueId) .initial) := by
  have hmanager : OsPolicy.standard.manager.Spares UserService.uuid :=
    OsPolicy.standard.manager_spares UserService.uuid_lasting
  refine Attainable.after .start ?_
  simp [trialDesk, Event.SparesShown, Broker.Task.Hooks, Broker.Task.Edits, hmanager]

theorem trialDesk_bindable {u : UserService} :
    ((inMemory .standard TaggedXor.cipher trialIssuer).after (trialDesk uniqueId) .initial).backend.Bindable u ↔
      u = .fresh .nil .nil uniqueId "desk" .l1 .epoch := by
  refine ⟨fun hu => ?_, fun hu => ?_⟩
  · exact List.mem_singleton.mp ((trialDesk_attainable uniqueId).kept.mem_services.mpr hu.kept)
  · rw [hu]
    exact ⟨rfl, .inr rfl⟩

end Trial

/-- Where the only user service goes by an id in capitals, its machine is bound in whatever letter case it reports
the id. -/
theorem letter_case_ignored_capitals :
    let x := inMemory .standard TaggedXor.cipher trialIssuer
    let s := x.after (trialDesk "AA:BB") .initial
    let ctx : RequestContext := ⟨.epoch, "10.0.0.2", none⟩
    Attainable x s ∧ x.isBlocked ctx s = false ∧
      (∀ u, s.backend.Bindable u → u.uniqueId ≠ "" → s.backend.Offers u.uniqueId) ∧
      Binds (x.handle ctx ⟨"", "", ""⟩ .bindActor (toJson (oneCard "t" "aA:Bb")) s).1 := by
  intro x s ctx
  have hs : Attainable x s := trialDesk_attainable "AA:BB"
  have hfree : x.isBlocked ctx s = false := by decide +kernel
  have hoffers (u) (hu : s.backend.Bindable u) : s.backend.Offers u.uniqueId := by
    rw [trialDesk_bindable.mp hu]
    exact ⟨_, trialDesk_bindable.mpr rfl, .inl (by decide +kernel)⟩
  refine ⟨hs, hfree, fun u hu _ => hoffers u hu, ?_⟩
  refine (letter_case_ignored_iff hs hfree).2.mpr (fun _ _ u hu _ => hoffers u hu) _ _ _
    (presents_oneCard (by decide +kernel) _) ⟨_, "aA:Bb", trialDesk_bindable.mpr rfl, ?_, ?_⟩
  · exact isCandidate_oneCard.mpr ⟨by decide, rfl⟩
  · decide +kernel

/-- A user service that goes by an id in mixed case is being prepared, and its machine, which reports the very same
id, is told that it belongs to none. -/
theorem mixed_case_missed :
    let x := inMemory .standard TaggedXor.cipher trialIssuer
    let s := x.after (trialDesk "Aa:Bb") .initial
    let ctx : RequestContext := ⟨.epoch, "10.0.0.2", none⟩
    let request := oneCard "t" "Aa:Bb"
    let answer := (x.handle ctx ⟨"", "", ""⟩ .bindActor (toJson request) s).1
    Attainable x s ∧ x.isBlocked ctx s = false ∧ Presents s.backend (toJson request) request ∧
      (∃ u id, s.backend.Bindable u ∧ IsCandidate request id ∧ Case.Alike u.uniqueId id) ∧
      (∃ reply, answer = .ok reply ∧ reply.result.get? "own_token" = some .null) ∧ ¬ Binds answer := by
  intro x s ctx request answer
  have hs : Attainable x s := trialDesk_attainable "Aa:Bb"
  have hfree : x.isBlocked ctx s = false := by decide +kernel
  have hpresents : Presents s.backend (toJson request) request := presents_oneCard (by decide +kernel) _
  have hunoffered : ¬ ∃ id, IsCandidate request id ∧ s.backend.Offers id := by
    rintro ⟨id, hid, u, hu, hspelled⟩
    rw [(isCandidate_oneCard.mp hid).2, trialDesk_bindable.mp hu] at hspelled
    revert hspelled
    decide +kernel
  obtain ⟨binding, hbinding, hiff⟩ := handle_binds hs.kept hfree ⟨"", "", ""⟩ hpresents
  have hanswered : answer = .ok (.ok binding.toJson) := hbinding
  have hnone : binding.ownToken? = none := not_ne_iff.mp (mt hiff.mp hunoffered)
  have hown := binding.toJson_ownToken
  rw [hnone] at hown
  refine ⟨hs, hfree, hpresents, ?_, ⟨_, hanswered, hown⟩, ?_⟩
  · exact ⟨_, "Aa:Bb", trialDesk_bindable.mpr rfl, isCandidate_oneCard.mpr ⟨by decide, rfl⟩, rfl⟩
  · rw [hanswered, binds_iff, hnone]
    exact fun h => h rfl

end Executor

end SessionBroker
