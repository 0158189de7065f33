import SessionBroker.Executor.Memory
import SessionBroker.Proofs.Protocol.Enrolment
import SessionBroker.Proofs.Protocol.Interleave
import SessionBroker.Proofs.Turns

/-!
# Two registrations of one machine at once

A registration looks for the identity that the machine has and then stores one, and nothing ties the two
queries together. A machine that has an identity keeps its token however the queries of two registrations fall.
Where it has none and both look before either stores, each makes a token of its own, and the identity that is
stored last is the one that stays.
-/

namespace SessionBroker.Register

open Protocol (interleave opening transcript)
open Turn (order side)

/-- The registration looks for the identity next. -/
def looking (r : Enrolment) : Move State String := .ask (.findActorByMac r.mac) (.lookup r.user.name)

/-- The registration has looked, and what it stores next is the identity. -/
def storing (identity : ActorIdentity) : Move State String := .ask (.storeActor identity) (.store identity.token)

namespace Enrolment

variable (r : Enrolment) (issuer : Issuer) (b : Broker)

def party : Protocol.Party State String := ⟨protocol r.request (some r.user) r.source, r.now, r.draws⟩

theorem party_start : r.party.protocol.start = looking r := by
  change start r.request (some r.user) = _
  simp [start, r.staff, looking, mac]

theorem turn_looking : r.party.turn Broker.backend issuer (looking r) b =
    (storing (r.identity (b.findActorByMac r.mac)), b) := rfl

theorem turn_storing (identity : ActorIdentity) :
    r.party.turn Broker.backend issuer (storing identity) b = (.finish identity.token, b.storeActor identity) :=
  rfl

theorem party_start_below : r.party.protocol.start.Below r.party.protocol.rank 2 := by
  rw [party_start]
  exact Nat.one_lt_two

end Enrolment

/-! ## What was stored last -/

/-- The identity that a query stores, with the registration that asks. -/
def stored? {ι : Type} : ι × Query → Option (ι × ActorIdentity)
  | (i, .storeActor identity) => some (i, identity)
  | _ => none

/-- The identity that was stored last, with the registration that stored it. -/
def lastStored? {ι : Type} (log : List (ι × Query)) : Option (ι × ActorIdentity) :=
  (log.filterMap stored?).getLast?

theorem lastStored?_append {ι : Type} (log : List (ι × Query)) (entry : ι × Query) :
    lastStored? (log ++ [entry]) = (stored? entry).or (lastStored? log) := by
  unfold lastStored?
  rw [List.filterMap_append, List.getLast?_append]
  cases h : stored? entry <;> simp [h]

/-! ## What turns keep -/

/-- The registration comes to the token, whatever happens meanwhile. If it is to store its identity yet, it does so
under the MAC where actors are listed under their own. -/
def Settled (mac : String) (listed : Prop) (move : Move State String) (token : String) : Prop :=
  move = .finish token ∨
    ∃ identity, identity.token = token ∧ (listed → identity.mac = mac) ∧ move = storing identity

theorem Settled.finished {mac token : String} {listed : Prop} {move : Move State String}
    (h : Settled mac listed move token) (hended : move.Ended) : move = .finish token := by
  rcases h with h | ⟨identity, -, -, h⟩
  · exact h
  · rw [h] at hended
    exact hended.elim

variable {ι : Type} [DecidableEq ι] {enrolments : ι → Enrolment} {issuer : Issuer} {mac token : String}
  {listed : Prop} {moves : ι → Move State String} {b : Broker} {log : List (ι × Query)}

/-- The machine has an identity, and the registrations have not looked yet or come to its token. -/
structure Agreed (enrolments : ι → Enrolment) (mac token : String) (listed : Prop) (moves : ι → Move State String)
    (b : Broker) (log : List (ι × Query)) : Prop where
  kept : ∃ known, b.findActorByMac mac = some known ∧ known.token = token ∧ (listed → known.mac = mac)
  stored : ∀ i identity, lastStored? log = some (i, identity) →
    identity.token = token ∧ (listed → b.findActorByMac mac = some identity)
  finished : ∀ i, moves i = .finish token → (lastStored? log).isSome
  moves : ∀ i, moves i = looking (enrolments i) ∨ Settled mac listed (moves i) token

theorem Agreed.turn (hmac : ∀ i, (enrolments i).mac = mac) {i : ι} {query : Query} {next : State}
    (hmove : moves i = .ask query next) (h : Agreed enrolments mac token listed moves b log) :
    Agreed enrolments mac token listed
      (Function.update moves i ((enrolments i).party.turn Broker.backend issuer (.ask query next) b).1)
      ((enrolments i).party.turn Broker.backend issuer (.ask query next) b).2 (log ++ [(i, query)]) := by
  obtain ⟨⟨known, hknown, htoken, hlisted⟩, hstored, hfinished, hmoves⟩ := h
  -- the others stay where they are
  have others {move : Move State String} (hsettled : Settled mac listed move token) :
      ∀ j, Function.update moves i move j = looking (enrolments j) ∨
        Settled mac listed (Function.update moves i move j) token :=
    (Function.forall_update_iff moves fun j move => move = looking (enrolments j) ∨ Settled mac listed move token).mpr
      ⟨.inr hsettled, fun j _ => hmoves j⟩
  rcases hmoves i with hlooking | hfinish | ⟨identity, hidentity, hunder, hstoring⟩
  · cases hmove.symm.trans hlooking
    have hturn := (enrolments i).turn_looking issuer b
    rw [hmac i, hknown] at hturn
    have hsame : ((enrolments i).identity (some known)).token = token := htoken
    have hlog : lastStored? (log ++ [(i, .findActorByMac (enrolments i).mac)]) = lastStored? log :=
      lastStored?_append ..
    change Agreed _ _ _ _ (Function.update moves i ((enrolments i).party.turn Broker.backend issuer
      (looking (enrolments i)) b).1) ((enrolments i).party.turn Broker.backend issuer (looking (enrolments i)) b).2 _
    rw [hturn]
    refine ⟨⟨known, hknown, htoken, hlisted⟩, ?_, ?_, others (.inr ⟨_, hsame, hlisted, rfl⟩)⟩
    · rw [hlog]
      exact hstored
    · rw [hlog]
      exact (Function.forall_update_iff moves fun _ move => move = .finish token → (lastStored? log).isSome).mpr
        ⟨nofun, fun j _ => hfinished j⟩
  · cases hmove.symm.trans hfinish
  · cases hmove.symm.trans hstoring
    have hlog : lastStored? (log ++ [(i, .storeActor identity)]) = some (i, identity) := lastStored?_append ..
    have hturn := (enrolments i).turn_storing issuer b identity
    rw [hidentity] at hturn
    change Agreed _ _ _ _ (Function.update moves i ((enrolments i).party.turn Broker.backend issuer
      (storing identity) b).1) ((enrolments i).party.turn Broker.backend issuer (storing identity) b).2 _
    rw [hturn]
    refine ⟨?_, ?_, fun _ _ => by rw [hlog]; rfl, others (.inl rfl)⟩
    · rw [Broker.findActorByMac_storeActor]
      split
      · exact ⟨identity, rfl, hidentity, hunder⟩
      · exact ⟨known, hknown, htoken, hlisted⟩
    · rw [hlog]
      rintro _ _ ⟨⟩
      refine ⟨hidentity, fun h => ?_⟩
      rw [Broker.findActorByMac_storeActor, if_pos (hunder h)]

/-- All registrations have looked in vain, and each has made a token of its own. -/
structure Rivals (enrolments : ι → Enrolment) (mac : String) (moves : ι → Move State String) (b : Broker)
    (log : List (ι × Query)) : Prop where
  settled : ∀ i, Settled mac True (moves i) (enrolments i).draws.token
  /-- As soon as one has stored its identity, the machine has the one that was stored last. -/
  kept : ∀ i, moves i = .finish (enrolments i).draws.token → ∃ j identity, lastStored? log = some (j, identity) ∧
    identity.token = (enrolments j).draws.token ∧ b.findActorByMac mac = some identity

theorem Rivals.turn {i : ι} {query : Query} {next : State} (hmove : moves i = .ask query next)
    (h : Rivals enrolments mac moves b log) :
    Rivals enrolments mac
      (Function.update moves i ((enrolments i).party.turn Broker.backend issuer (.ask query next) b).1)
      ((enrolments i).party.turn Broker.backend issuer (.ask query next) b).2 (log ++ [(i, query)]) := by
  rcases h.settled i with hfinish | ⟨identity, hidentity, hunder, hstoring⟩
  · cases hmove.symm.trans hfinish
  · cases hmove.symm.trans hstoring
    have hlog : lastStored? (log ++ [(i, .storeActor identity)]) = some (i, identity) := lastStored?_append ..
    have hturn := (enrolments i).turn_storing issuer b identity
    rw [hidentity] at hturn
    change Rivals _ _ (Function.update moves i ((enrolments i).party.turn Broker.backend issuer
      (storing identity) b).1) ((enrolments i).party.turn Broker.backend issuer (storing identity) b).2 _
    rw [hturn]
    refine ⟨?_, fun _ _ => ⟨i, identity, hlog, hidentity, ?_⟩⟩
    · exact (Function.forall_update_iff moves fun j move => Settled mac True move (enrolments j).draws.token).mpr
        ⟨.inl rfl, fun j _ => h.settled j⟩
    · rw [Broker.findActorByMac_storeActor, if_pos (hunder trivial)]

/-! ## What registrations come to -/

/-- What registrations of a machine leave: each has come to a token, and the machine has the token of the identity
that was stored last, and that identity where actors are listed under their own MAC. -/
structure Outcome (tokens : ι → String) (mac : String) (listed : Prop) (last : (ι → Move State String) × Broker)
    (log : List (ι × Query)) : Prop where
  ended : last.1 = fun i => .finish (tokens i)
  kept : ∃ i stored known, lastStored? log = some (i, stored) ∧ stored.token = tokens i ∧
    last.2.findActorByMac mac = some known ∧ known.token = stored.token ∧ (listed → known = stored)

/-- The run has as many turns as it can need. -/
def Enough (enrolments : ι → Enrolment) (moves : ι → Move State String) (schedule : List ι) : Prop :=
  ∀ i, ∃ n, (moves i).Below (enrolments i).party.protocol.rank n ∧ n ≤ schedule.count i

theorem Enough.ended {schedule : List ι} (h : Enough enrolments moves schedule) (issuer : Issuer) (b : Broker)
    (i : ι) :
    ((interleave (fun i => (enrolments i).party) Broker.backend issuer schedule (moves, b)).1 i).Ended := by
  obtain ⟨n, hbelow, hcount⟩ := h i
  exact Protocol.interleave_ended hbelow hcount

theorem Agreed.ends {schedule : List ι} (hmac : ∀ i, (enrolments i).mac = mac)
    (h : Agreed enrolments mac token listed moves b log) (henough : Enough enrolments moves schedule)
    (issuer : Issuer) (someone : ι) :
    let parties := fun i => (enrolments i).party
    Outcome (fun _ => token) mac listed (interleave parties Broker.backend issuer schedule (moves, b))
      (log ++ transcript parties Broker.backend issuer schedule (moves, b)) := by
  intro parties
  have hended := henough.ended issuer b
  have hlast : let last := interleave parties Broker.backend issuer schedule (moves, b)
      Agreed enrolments mac token listed last.1 last.2
        (log ++ transcript parties Broker.backend issuer schedule (moves, b)) :=
    Protocol.interleave_traces (I := Agreed enrolments mac token listed)
      (fun _ _ _ _ _ _ hmove h => h.turn hmac hmove) schedule h
  have hfinished (i : ι) :
      (interleave parties Broker.backend issuer schedule (moves, b)).1 i = .finish token := by
    rcases hlast.moves i with hlooking | hsettled
    · have hi := hended i
      rw [hlooking] at hi
      exact hi.elim
    · exact hsettled.finished (hended i)
  obtain ⟨known, hknown, htoken, -⟩ := hlast.kept
  obtain ⟨⟨i, stored⟩, hstored⟩ := Option.isSome_iff_exists.mp (hlast.finished someone (hfinished someone))
  obtain ⟨hsame, hfound⟩ := hlast.stored i stored hstored
  refine ⟨funext hfinished, i, stored, known, hstored, hsame, hknown, htoken.trans hsame.symm, fun h => ?_⟩
  exact Option.some.inj (hknown.symm.trans (hfound h))

theorem Rivals.ends {schedule : List ι} (h : Rivals enrolments mac moves b log)
    (henough : Enough enrolments moves schedule) (issuer : Issuer) (someone : ι) (listed : Prop) :
    let parties := fun i => (enrolments i).party
    Outcome (fun i => (enrolments i).draws.token) mac listed
      (interleave parties Broker.backend issuer schedule (moves, b))
      (log ++ transcript parties Broker.backend issuer schedule (moves, b)) := by
  intro parties
  have hended := henough.ended issuer b
  have hlast : let last := interleave parties Broker.backend issuer schedule (moves, b)
      Rivals enrolments mac last.1 last.2
        (log ++ transcript parties Broker.backend issuer schedule (moves, b)) :=
    Protocol.interleave_traces (I := Rivals enrolments mac) (fun _ _ _ _ _ _ hmove h => h.turn hmove) schedule h
  have hfinished (i : ι) : (interleave parties Broker.backend issuer schedule (moves, b)).1 i =
      .finish (enrolments i).draws.token := (hlast.settled i).finished (hended i)
  obtain ⟨i, stored, hstored, htoken, hfound⟩ := hlast.kept someone (hfinished someone)
  exact ⟨funext hfinished, i, stored, stored, hstored, htoken, hfound, rfl, fun _ => rfl⟩

/-! ## Two of them -/

/-- The tokens that two registrations of one machine come to. -/
def raceToken (existing : Option ActorIdentity) (order : Turn.Order) (x y : Enrolment) (turn : Turn) : String :=
  match existing, order with
  | some known, _ => known.token
  | none, .leftFirst => x.draws.token
  | none, .rightFirst => y.draws.token
  | none, .overlapping => (side x y turn).draws.token

/-- Two registrations of one machine take turns against the broker. -/
def race (issuer : Issuer) (x y : Enrolment) (schedule : List Turn) (b : Broker) :
    (Turn → Move State String) × Broker :=
  let parties := fun turn => (side x y turn).party
  interleave parties Broker.backend issuer schedule (opening parties, b)

/-- The queries that are answered meanwhile, each with the registration that asked. -/
def raceLog (issuer : Issuer) (x y : Enrolment) (schedule : List Turn) (b : Broker) : List (Turn × Query) :=
  let parties := fun turn => (side x y turn).party
  transcript parties Broker.backend issuer schedule (opening parties, b)

section Race

variable {x y : Enrolment} {schedule : List Turn}

theorem opening_eq (x y : Enrolment) :
    opening (fun turn => (side x y turn).party) = fun turn => looking (side x y turn) :=
  funext fun turn => (side x y turn).party_start

theorem enough_opening (hleft : 2 ≤ schedule.count .left) (hright : 2 ≤ schedule.count .right) :
    Enough (side x y) (opening fun turn => (side x y turn).party) schedule
  | .left => ⟨2, x.party_start_below, hleft⟩
  | .right => ⟨2, y.party_start_below, hright⟩

/-- A registration that is over before the other one begins gives the machine an identity. -/
theorem race_over (hmac : ∀ turn, (side x y turn).mac = mac) (hunknown : b.findActorByMac mac = none)
    (issuer : Issuer) (first : Turn) {rest : List Turn} (henough : ∀ turn, turn ≠ first → 2 ≤ rest.count turn)
    (listed : Prop) :
    Outcome (fun _ => (side x y first).draws.token) mac listed (race issuer x y (first :: first :: rest) b)
      (raceLog issuer x y (first :: first :: rest) b) := by
  have hstored : ((side x y first).identity none).mac = mac := hmac first
  have hfound : (b.storeActor ((side x y first).identity none)).findActorByMac mac =
      some ((side x y first).identity none) := by
    rw [Broker.findActorByMac_storeActor, if_pos hstored]
  unfold race raceLog
  rw [Protocol.interleave_cons, Protocol.transcript_cons, opening_eq, Enrolment.turn_looking, hmac first, hunknown,
    Protocol.interleave_cons, Protocol.transcript_cons, Function.update_self, Enrolment.turn_storing,
    Function.update_idem, ← List.append_assoc]
  refine Agreed.ends hmac ⟨⟨_, hfound, rfl, fun _ => hstored⟩, ?_, fun _ _ => rfl, ?_⟩ ?_ issuer first
  · rintro _ _ ⟨⟩
    exact ⟨rfl, fun _ => hfound⟩
  · exact (Function.forall_update_iff _ fun turn move => move = looking (side x y turn) ∨
      Settled mac listed move (side x y first).draws.token).mpr ⟨.inr (.inl rfl), fun _ _ => .inl rfl⟩
  · -- the one that is over needs no turn any more, and the other one has all of its turns to come
    exact (Function.forall_update_iff _ fun turn (move : Move State String) =>
      ∃ n, move.Below (side x y turn).party.protocol.rank n ∧ n ≤ rest.count turn).mpr
        ⟨⟨0, trivial, Nat.zero_le _⟩, fun turn hturn => ⟨2, Nat.one_lt_two, henough turn hturn⟩⟩

/-- Where both look before either stores, neither learns of the other. -/
theorem race_overlapping (hmac : ∀ turn, (side x y turn).mac = mac)
    (hunknown : b.findActorByMac mac = none) (issuer : Issuer) {first second : Turn} (hne : second ≠ first)
    {rest : List Turn} (henough : ∀ turn, 1 ≤ rest.count turn) (listed : Prop) :
    Outcome (fun turn => (side x y turn).draws.token) mac listed (race issuer x y (first :: second :: rest) b)
      (raceLog issuer x y (first :: second :: rest) b) := by
  have hmoves (turn : Turn) : Function.update (Function.update (fun turn => looking (side x y turn)) first
      (storing ((side x y first).identity none))) second (storing ((side x y second).identity none)) turn =
        storing ((side x y turn).identity none) := by
    rcases Turn.eq_or_eq_of_ne hne turn with rfl | rfl
    · rw [Function.update_of_ne (Ne.symm hne), Function.update_self]
    · rw [Function.update_self]
  unfold race raceLog
  rw [Protocol.interleave_cons, Protocol.transcript_cons, opening_eq, Enrolment.turn_looking, hmac first, hunknown,
    Protocol.interleave_cons, Protocol.transcript_cons, Function.update_of_ne hne, Enrolment.turn_looking,
    hmac second, hunknown, ← List.append_assoc, funext hmoves]
  refine Rivals.ends ⟨fun turn => .inr ⟨_, rfl, fun _ => hmac turn, rfl⟩, fun turn h => ?_⟩
    (fun turn => ⟨1, Nat.one_pos, henough turn⟩) issuer first listed
  cases h

/-- The outcome of a race. -/
theorem race_outcome (hmac : ∀ turn, (side x y turn).mac = mac) (hleft : 2 ≤ schedule.count .left)
    (hright : 2 ≤ schedule.count .right) (issuer : Issuer) (b : Broker) :
    Outcome (raceToken (b.findActorByMac mac) (order schedule) x y) mac
      (∀ known, b.findActorByMac mac = some known → known.mac = mac) (race issuer x y schedule b)
      (raceLog issuer x y schedule b) := by
  cases hfind : b.findActorByMac mac with
  | some known =>
    have hopening : Agreed (side x y) mac known.token (∀ before, some known = some before → before.mac = mac)
        (opening fun turn => (side x y turn).party) b [] := by
      rw [opening_eq]
      refine ⟨⟨known, hfind, rfl, fun h => h known rfl⟩, fun _ _ h => ?_, nofun, fun _ => .inl rfl⟩
      cases h
    exact hopening.ends hmac (enough_opening hleft hright) issuer .left
  | none =>
    match schedule with
    | [] => exact absurd hleft (by decide)
    | [first] => cases first <;> simp at hleft hright
    | .left :: .left :: rest =>
      exact race_over hmac hfind issuer .left (fun
        | .left, h => absurd rfl h
        | .right, _ => show 2 ≤ rest.count .right by simpa using hright) _
    | .right :: .right :: rest =>
      exact race_over hmac hfind issuer .right (fun
        | .left, _ => show 2 ≤ rest.count .left by simpa using hleft
        | .right, h => absurd rfl h) _
    | .left :: .right :: rest =>
      exact race_overlapping hmac hfind issuer (by simp) (fun
        | .left => by simpa using hleft
        | .right => by simpa using hright) _
    | .right :: .left :: rest =>
      exact race_overlapping hmac hfind issuer (by simp) (fun
        | .left => by simpa using hleft
        | .right => by simpa using hright) _

theorem raceToken_eq_iff (existing : Option ActorIdentity) (order : Turn.Order) (x y : Enrolment) :
    raceToken existing order x y .left = raceToken existing order x y .right ↔
      existing.isSome ∨ order ≠ .overlapping ∨ x.draws.token = y.draws.token := by
  cases existing with
  | some known => simp [raceToken]
  | none => cases order <;> simp [raceToken, side]

end Race

/-- Two registrations of one machine come to one token, which is then valid, exactly if the machine had an
identity, or one of them was over before the other one began, or both drew the same token. Otherwise each
comes to the token that it drew. In every case the machine ends up with the token of the registration that stored
last, which is valid, and with the very identity that was stored last if it had none, or had one that was listed
under its MAC. -/
theorem race_agrees_iff (issuer : Issuer) (b : Broker) (x y : Enrolment) (hmac : y.mac = x.mac)
    {schedule : List Turn} (hleft : 2 ≤ schedule.count .left) (hright : 2 ≤ schedule.count .right) :
    let tokens := raceToken (b.findActorByMac x.mac) (order schedule) x y
    ∃ b', race issuer x y schedule b = (fun turn => .finish (tokens turn), b') ∧
      (∃ turn stored known, lastStored? (raceLog issuer x y schedule b) = some (turn, stored) ∧
        b'.findActorByMac x.mac = some known ∧ known.token = stored.token ∧ stored.token = tokens turn ∧
        b'.validateActorToken (tokens turn) = true ∧
        ((∀ before, b.findActorByMac x.mac = some before → before.mac = x.mac) → known = stored)) ∧
      (tokens .left = tokens .right ∧ b'.validateActorToken (tokens .left) = true ↔
        (b.findActorByMac x.mac).isSome ∨ order schedule ≠ .overlapping ∨
          x.draws.token = y.draws.token) := by
  intro tokens
  have hmacs : ∀ turn, (side x y turn).mac = x.mac
    | .left => rfl
    | .right => hmac
  obtain ⟨hended, turn, stored, known, hstored, htoken, hknown, hsame, hlisted⟩ :=
    race_outcome hmacs hleft hright issuer b
  have hvalid : (race issuer x y schedule b).2.validateActorToken (tokens turn) = true := by
    have hvalid := Broker.validateActorToken_of_findActorByMac hknown
    rwa [hsame, htoken] at hvalid
  refine ⟨_, Prod.ext hended rfl, ⟨turn, stored, known, hstored, hknown, hsame, htoken, hvalid, hlisted⟩, ?_⟩
  have hboth : tokens .left = tokens .right →
      (race issuer x y schedule b).2.validateActorToken (tokens .left) = true := by
    intro hagree
    cases turn with
    | left => exact hvalid
    | right =>
      rw [hagree]
      exact hvalid
  rw [and_iff_left_of_imp hboth]
  exact raceToken_eq_iff _ _ x y

/-- The registration of a machine by staff, with the token that is drawn for it. -/
def trialEnrolment (token : String) : Enrolment :=
  ⟨⟨"aa:bb", "10.0.0.2", "desk", "", "", "", 0, none, none, none⟩, ⟨"ann", true⟩, rfl, "10.1.1.1", .epoch,
    ⟨token, "", ""⟩⟩

/-- One after the other, the second registration comes to the token of the first. -/
theorem race_agrees_iff_in_turn :
    let x := trialEnrolment "a"
    let y := trialEnrolment "b"
    let schedule := [Turn.left, .left, .right, .right]
    y.mac = x.mac ∧ 2 ≤ schedule.count .left ∧ 2 ≤ schedule.count .right ∧
      ∃ b', race trialIssuer x y schedule .empty = (fun _ => .finish "a", b') ∧
        b'.validateActorToken "a" = true := by
  intro x y schedule
  have hleft : 2 ≤ schedule.count .left := by decide
  have hright : 2 ≤ schedule.count .right := by decide
  obtain ⟨b', hrace, -, hagrees⟩ := race_agrees_iff trialIssuer .empty x y rfl hleft hright
  have htokens : raceToken (Broker.empty.findActorByMac x.mac) (order schedule) x y = fun _ => "a" := rfl
  rw [htokens] at hrace hagrees
  exact ⟨rfl, hleft, hright, b', hrace, (hagrees.mpr (.inr (.inl (by decide)))).2⟩

/-- Two registrations that both look first come to two tokens, and one of these is not valid. -/
theorem race_lost :
    ∃ b', race trialIssuer (trialEnrolment "a") (trialEnrolment "b") [.left, .right, .left, .right] .empty =
        (side (.finish "a") (.finish "b"), b') ∧
      b'.validateActorToken "a" = false ∧ b'.validateActorToken "b" = true := by
  refine ⟨_, Prod.ext (funext fun turn => ?_) rfl, rfl, rfl⟩
  cases turn <;> rfl

end SessionBroker.Register
