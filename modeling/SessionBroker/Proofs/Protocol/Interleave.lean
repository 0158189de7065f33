import Mathlib.Logic.Function.Basic
import SessionBroker.Proofs.Protocol.Run

/-!
# Runs that take turns

Nothing keeps the queries of one run of a protocol from coming between those of another one. Runs against one
backend take turns in the order of a schedule, and each turn answers one query. What every turn keeps holds
after all of them, and a run that has had as many turns as its rank allows queries has ended. The transcript
of a schedule lists the queries that were answered, and what is kept may speak of these as well.
-/

namespace SessionBroker

/-- There is nothing left to ask. -/
def Move.Ended {σ α : Type} : Move σ α → Prop
  | .ask _ _ => False
  | .finish _ | .fail _ => True

instance {σ α : Type} (move : Move σ α) : Decidable move.Ended :=
  match move with
  | .ask _ _ => .isFalse id
  | .finish _ | .fail _ => .isTrue trivial

/-- The query that the move waits for. -/
def Move.query? {σ α : Type} : Move σ α → Option Query
  | .ask query _ => some query
  | .finish _ | .fail _ => none

theorem Move.Ended.query? {σ α : Type} {move : Move σ α} (h : move.Ended) : move.query? = none := by
  cases move with
  | ask query next => exact h.elim
  | finish a => rfl
  | fail e => rfl

namespace Protocol

section Step

variable {σ α β : Type} (p : Protocol σ α) (answer : Query → StoreM β Reply) (now : Instant) (draws : Draws)

/-- Answers the query of a move and goes on with the reply. A run that has ended stays as it is. -/
def step (move : Move σ α) (b : β) : Move σ α × β :=
  match move with
  | .ask query s => match answer query b with
    | (.ok reply, b) => (p.resume now draws s reply, b)
    | (.error e, b) => (.fail (.store e), b)
  | .finish a => (.finish a, b)
  | .fail e => (.fail e, b)

/-- A run goes the same way whether it is taken step by step or at once. -/
theorem follow_step (move : Move σ α) (b : β) :
    p.follow answer now draws (p.step answer now draws move b).1 (p.step answer now draws move b).2 =
      p.follow answer now draws move b := by
  cases move with
  | ask query s =>
    rw [follow_ask]
    unfold step
    dsimp only
    cases answer query b with
    | mk outcome b' => cases outcome <;> rfl
  | finish a => rfl
  | fail e => rfl

theorem step_answered {query : Query} {reply : Reply} {b b' : β} (h : answer query b = (.ok reply, b')) (s : σ) :
    p.step answer now draws (.ask query s) b = (p.resume now draws s reply, b') := by
  unfold step
  dsimp only
  rw [h]

/-- A run that has ended takes no notice of its turns. -/
theorem step_ended {move : Move σ α} (h : move.Ended) (b : β) : p.step answer now draws move b = (move, b) := by
  cases move with
  | ask query s => exact h.elim
  | finish a => rfl
  | fail e => rfl

theorem step_below {move : Move σ α} {n : Nat} (h : move.Below p.rank (n + 1)) (b : β) :
    (p.step answer now draws move b).1.Below p.rank n := by
  cases move with
  | ask query s =>
    have hs : p.rank s ≤ n := Nat.le_of_lt_succ h
    unfold step
    dsimp only
    cases answer query b with
    | mk outcome b' =>
      cases outcome with
      | ok reply => exact (p.resume_below now draws s reply).mono hs
      | error e => trivial
  | finish a => trivial
  | fail e => trivial

end Step

/-- A run beside others: what it runs, and at which instant and with which draws. -/
structure Party (σ α : Type) where
  protocol : Protocol σ α
  now : Instant
  draws : Draws

namespace Party

variable {τ σ α : Type} (x : Party σ α)

/-- Takes one turn against a backend. -/
def turn (b : Backend τ) (issuer : Issuer) : Move σ α → τ → Move σ α × τ :=
  x.protocol.step (b.answer issuer x.now x.draws) x.now x.draws

theorem turn_ended (b : Backend τ) (issuer : Issuer) {move : Move σ α} (h : move.Ended) (s : τ) :
    x.turn b issuer move s = (move, s) := x.protocol.step_ended _ _ _ h s

end Party

variable {ι τ : Type} [DecidableEq ι] {σ α : ι → Type} (parties : ∀ i, Party (σ i) (α i)) (b : Backend τ)
  (issuer : Issuer)

/-- Lets the runs take turns in the order of a schedule. -/
def interleave : List ι → (∀ i, Move (σ i) (α i)) × τ → (∀ i, Move (σ i) (α i)) × τ
  | [], stand => stand
  | i :: rest, (moves, s) =>
    let (move, s) := (parties i).turn b issuer (moves i) s
    interleave rest (Function.update moves i move, s)

/-- The queries that a schedule answers, each with the run that asked. -/
def transcript : List ι → (∀ i, Move (σ i) (α i)) × τ → List (ι × Query)
  | [], _ => []
  | i :: rest, (moves, s) =>
    let (move, s) := (parties i).turn b issuer (moves i) s
    ((moves i).query?.map (i, ·)).toList ++ transcript rest (Function.update moves i move, s)

/-- Nobody has had a turn yet. -/
def opening : ∀ i, Move (σ i) (α i) := fun i => (parties i).protocol.start

variable {parties b issuer} {moves : ∀ i, Move (σ i) (α i)} {s : τ}

theorem interleave_cons (i : ι) (rest : List ι) : interleave parties b issuer (i :: rest) (moves, s) =
    interleave parties b issuer rest
      (Function.update moves i ((parties i).turn b issuer (moves i) s).1,
        ((parties i).turn b issuer (moves i) s).2) := rfl

/-- Where one run has all the turns, it goes the way that it goes by itself. -/
theorem interleave_alone (i : ι) (n : Nat) :
    let x := parties i
    let stand := interleave parties b issuer (List.replicate n i) (moves, s)
    x.protocol.follow (b.answer issuer x.now x.draws) x.now x.draws (stand.1 i) stand.2 =
      x.protocol.follow (b.answer issuer x.now x.draws) x.now x.draws (moves i) s := by
  induction n generalizing moves s with
  | zero => rfl
  | succ n ih =>
    rw [List.replicate_succ, interleave_cons]
    refine ih.trans ?_
    rw [Function.update_self]
    exact (parties i).protocol.follow_step _ _ _ (moves i) s

theorem transcript_cons (i : ι) (rest : List ι) : transcript parties b issuer (i :: rest) (moves, s) =
    ((moves i).query?.map (i, ·)).toList ++ transcript parties b issuer rest
      (Function.update moves i ((parties i).turn b issuer (moves i) s).1,
        ((parties i).turn b issuer (moves i) s).2) := rfl

/-- What each answer keeps with the queries that were answered up to it, a schedule keeps with its transcript. -/
theorem interleave_traces {I : (∀ i, Move (σ i) (α i)) → τ → List (ι × Query) → Prop}
    (hturn : ∀ i moves s log query next, moves i = .ask query next → I moves s log →
      I (Function.update moves i ((parties i).turn b issuer (.ask query next) s).1)
        ((parties i).turn b issuer (.ask query next) s).2 (log ++ [(i, query)]))
    (schedule : List ι) {log : List (ι × Query)} (h : I moves s log) :
    I (interleave parties b issuer schedule (moves, s)).1 (interleave parties b issuer schedule (moves, s)).2
      (log ++ transcript parties b issuer schedule (moves, s)) := by
  induction schedule generalizing moves s log with
  | nil => rwa [transcript, List.append_nil]
  | cons i rest ih =>
    rw [interleave_cons, transcript_cons]
    by_cases hended : (moves i).Ended
    · rw [(parties i).turn_ended b issuer hended s, hended.query?, Function.update_eq_self]
      exact ih h
    · cases hmove : moves i with
      | ask query next =>
        rw [← List.append_assoc]
        exact ih (hturn i moves s log query next hmove h)
      | finish a => exact absurd (hmove ▸ trivial) hended
      | fail e => exact absurd (hmove ▸ trivial) hended

/-- A run that has had enough turns has ended. -/
theorem interleave_ended {i : ι} {n : Nat} {schedule : List ι}
    (hrank : (moves i).Below (parties i).protocol.rank n) (hturns : n ≤ schedule.count i) :
    ((interleave parties b issuer schedule (moves, s)).1 i).Ended := by
  induction schedule generalizing moves s n with
  | nil =>
    have hn : n = 0 := Nat.le_zero.mp hturns
    subst hn
    change (moves i).Ended
    cases hmove : moves i with
    | ask query next =>
      rw [hmove] at hrank
      exact absurd hrank (Nat.not_lt_zero _)
    | finish a => trivial
    | fail e => trivial
  | cons j rest ih =>
    rw [interleave_cons]
    by_cases hj : j = i
    · subst hj
      rw [List.count_cons_self] at hturns
      -- the turn lowers the bound by one, as the count falls
      have hbelow : (moves j).Below (parties j).protocol.rank (n - 1 + 1) := hrank.mono (by omega)
      refine ih (n := n - 1) ?_ (by omega)
      rw [Function.update_self]
      exact step_below _ _ _ _ hbelow s
    · rw [List.count_cons_of_ne hj] at hturns
      refine ih ?_ hturns
      rwa [Function.update_of_ne (Ne.symm hj)]

end Protocol

end SessionBroker
