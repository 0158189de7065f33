import Mathlib.Data.List.Nodup
import Mathlib.Logic.Function.Basic
import SessionBroker.Http.Stamp

/-!
# Stamps under contention

Any number of calls draw their stamps from the one shared stamp at once. The load and the exchange of a call are
two steps, and other calls may take theirs in between; what a call has loaded is out of date then, its exchange
fails, and it tries again. Clocks may differ from call to call and may go backwards. The successful exchanges, in
the order in which they happen, are the history of the shared stamp.
-/

namespace SessionBroker.StampCall

variable {ι : Type}

/-- The stamp for which a step exchanges the shared one. Only a call that has loaded can exchange. -/
def exchange? : StampCall → StampCall → Option Int
  | .loaded _ _, .done stamp => some stamp
  | _, _ => none

/-- The calls that draw their stamps, the stamp that they share, and the successful exchanges so far, each with its
call. -/
structure Stand (ι : Type) where
  calls : ι → StampCall
  shared : Int
  exchanges : List (ι × Int)

namespace Stand

/-- Each call has the instant that it was given, and none has taken a step. -/
def opening (now : ι → Instant) (first : Int) : Stand ι where
  calls := fun i => .start (now i)
  shared := first
  exchanges := []

/-- The stamps in the order of their exchanges. -/
def stamps (s : Stand ι) : List Int := s.exchanges.map Prod.snd

section Bounds

variable {now : ι → Instant} {first : Int} {s : Stand ι} {i : ι}

/-- The shared stamp is that of the last exchange, and the exchanges before have smaller ones. Calls that have no
stamp have not exchanged, and what they have loaded is not ahead of the shared stamp. -/
structure Ordered (now : ι → Instant) (first : Int) (s : Stand ι) : Prop where
  started : ∀ i t, s.calls i = .start t → t = now i
  loaded : ∀ i t current, s.calls i = .loaded t current → t = now i ∧ current ≤ s.shared
  done : ∀ i stamp, s.calls i = .done stamp ↔ (i, stamp) ∈ s.exchanges
  increasing : s.stamps.Pairwise (· < ·)
  upTo : ∀ stamp ∈ s.stamps, first < stamp ∧ stamp ≤ s.shared
  timely : ∀ p ∈ s.exchanges, (now p.1).ms ≤ p.2
  last : s.shared = s.stamps.getLastD first
  advanced : first ≤ s.shared

/-- However late the clocks are, the shared stamp is not ahead of all of them by more than the number of
exchanges. -/
def Close (now : ι → Instant) (first : Int) (s : Stand ι) : Prop :=
  ∀ limit, first ≤ limit → (∀ i, (now i).ms ≤ limit) → s.shared ≤ limit + s.exchanges.length

theorem Ordered.opening (now : ι → Instant) (first : Int) : Ordered now first (opening now first) where
  started := fun i t h => (StampCall.start.inj h).symm
  loaded := fun i t current h => by cases h
  done := fun i stamp => by simp [Stand.opening]
  increasing := List.Pairwise.nil
  upTo := fun stamp h => by cases h
  timely := fun p h => by cases h
  last := rfl
  advanced := Int.le_refl first

/-- No stamp is given twice. -/
theorem Ordered.distinct (h : Ordered now first s) {j : ι} {a b : Int} (hne : i ≠ j) (hi : s.calls i = .done a)
    (hj : s.calls j = .done b) : a ≠ b := by
  rintro rfl
  have hnodup : s.stamps.Nodup := h.increasing.imp Int.ne_of_lt
  have heq := List.inj_on_of_nodup_map hnodup ((h.done i a).mp hi) ((h.done j a).mp hj) rfl
  exact hne (congrArg Prod.fst heq)

end Bounds

variable [DecidableEq ι]

/-- One step of a call, which may fail without a reason. -/
def turn (s : Stand ι) (i : ι) (spurious : Bool) : Stand ι :=
  let (call, shared) := (s.calls i).step spurious s.shared
  { calls := Function.update s.calls i call
    shared := shared
    exchanges := s.exchanges ++ (((s.calls i).exchange? call).map (i, ·)).toList }

/-- Lets the calls take their steps in the order of a schedule. -/
def run (s : Stand ι) (schedule : List (ι × Bool)) : Stand ι :=
  schedule.foldl (fun s (i, spurious) => s.turn i spurious) s

/-! ## One step -/

/-- A call has loaded the shared stamp. -/
def load (s : Stand ι) (i : ι) (now : Instant) : Stand ι :=
  { s with calls := Function.update s.calls i (.loaded now s.shared) }

/-- A call has exchanged the shared stamp for the next one. -/
def exchange (s : Stand ι) (i : ι) (now : Instant) : Stand ι where
  calls := Function.update s.calls i (.done (nextStamp now s.shared))
  shared := nextStamp now s.shared
  exchanges := s.exchanges ++ [(i, nextStamp now s.shared)]

theorem calls_load (s : Stand ι) (i j : ι) (now : Instant) :
    (s.load i now).calls j = if j = i then .loaded now s.shared else s.calls j := Function.update_apply ..

theorem calls_exchange (s : Stand ι) (i j : ι) (now : Instant) :
    (s.exchange i now).calls j = if j = i then .done (nextStamp now s.shared) else s.calls j :=
  Function.update_apply ..

@[simp] theorem shared_exchange (s : Stand ι) (i : ι) (now : Instant) :
    (s.exchange i now).shared = nextStamp now s.shared := rfl

@[simp] theorem exchanges_exchange (s : Stand ι) (i : ι) (now : Instant) :
    (s.exchange i now).exchanges = s.exchanges ++ [(i, nextStamp now s.shared)] := rfl

@[simp] theorem stamps_exchange (s : Stand ι) (i : ι) (now : Instant) :
    (s.exchange i now).stamps = s.stamps ++ [nextStamp now s.shared] := List.map_append

/-- What a call can do in one step: load the stamp, for the first time or after an attempt that failed, exchange
the stamp that is still the one it loaded, or nothing because it has its stamp. -/
theorem turn_cases (s : Stand ι) (i : ι) (spurious : Bool) :
    (∃ now, (s.calls i = .start now ∨ ∃ current, s.calls i = .loaded now current) ∧
      s.turn i spurious = s.load i now) ∨
    (∃ now, s.calls i = .loaded now s.shared ∧ s.turn i spurious = s.exchange i now) ∨
    (∃ stamp, s.calls i = .done stamp ∧ s.turn i spurious = s) := by
  cases hcall : s.calls i with
  | start now =>
    refine .inl ⟨now, .inl rfl, ?_⟩
    simp [turn, load, hcall, step, exchange?]
  | loaded now current =>
    by_cases hfresh : spurious = false ∧ s.shared = current
    · obtain ⟨rfl, rfl⟩ := hfresh
      refine .inr (.inl ⟨now, rfl, ?_⟩)
      simp [turn, exchange, hcall, step, exchange?]
    · refine .inl ⟨now, .inr ⟨current, rfl⟩, ?_⟩
      simp [turn, load, hcall, step, exchange?, hfresh]
  | done stamp =>
    refine .inr (.inr ⟨stamp, rfl, ?_⟩)
    have hsame : Function.update s.calls i (.done stamp) = s.calls := by
      rw [← hcall, Function.update_eq_self]
    simp [turn, hcall, step, exchange?, hsame]

theorem le_nextStamp (now : Instant) (current : Int) : now.ms ≤ nextStamp now current := Int.le_max_left ..

theorem lt_nextStamp (now : Instant) (current : Int) : current < nextStamp now current := by
  unfold nextStamp
  omega

/-- Exchanges are added behind those that have happened. -/
theorem exchanges_turn (s : Stand ι) (i : ι) (spurious : Bool) : s.exchanges <+: (s.turn i spurious).exchanges :=
  List.prefix_append ..

/-! ## What every step keeps -/

variable {now : ι → Instant} {first : Int} {s : Stand ι} {i : ι}

/-- A call that loads the shared stamp, whether or not it had loaded an older one. -/
theorem Ordered.load (h : Ordered now first s) {t : Instant}
    (hcall : s.calls i = .start t ∨ ∃ current, s.calls i = .loaded t current) : Ordered now first (s.load i t) := by
  have htime : t = now i := by
    rcases hcall with hstart | ⟨current, hloaded⟩
    · exact h.started i t hstart
    · exact (h.loaded i t current hloaded).1
  have hpending : ∀ stamp, s.calls i ≠ .done stamp := by
    rcases hcall with hstart | ⟨current, hloaded⟩
    · simp [hstart]
    · simp [hloaded]
  refine { h with started := fun j t' hj => ?_, loaded := fun j t' current hj => ?_, done := fun j stamp => ?_ }
  · rw [calls_load] at hj
    split at hj
    · cases hj
    · exact h.started j t' hj
  · rw [calls_load] at hj
    split at hj
    case isTrue heq =>
      obtain ⟨rfl, rfl⟩ := StampCall.loaded.inj hj
      exact ⟨heq ▸ htime, Int.le_refl _⟩
    case isFalse => exact h.loaded j t' current hj
  · rw [calls_load]
    split
    case isTrue heq =>
      subst heq
      exact iff_of_false StampCall.noConfusion fun hmem => hpending stamp ((h.done j stamp).mpr hmem)
    case isFalse => exact h.done j stamp

/-- A call whose exchange succeeds. The shared stamp is the one that it loaded, hence the next one is ahead of all
that were exchanged before, and nothing that the other calls have loaded is ahead of it. -/
theorem Ordered.exchange (h : Ordered now first s) {t : Instant} (hcall : s.calls i = .loaded t s.shared) :
    Ordered now first (s.exchange i t) := by
  have htime : t = now i := (h.loaded i t _ hcall).1
  have hahead : s.shared < nextStamp t s.shared := lt_nextStamp t s.shared
  have hfirst := h.advanced
  constructor
  case started =>
    intro j t' hj
    rw [calls_exchange] at hj
    split at hj
    · cases hj
    · exact h.started j t' hj
  case loaded =>
    intro j t' current hj
    rw [calls_exchange] at hj
    split at hj
    · cases hj
    · obtain ⟨htime', hcurrent⟩ := h.loaded j t' current hj
      exact ⟨htime', Int.le_of_lt (Int.lt_of_le_of_lt hcurrent hahead)⟩
  case done =>
    intro j stamp
    rw [calls_exchange, exchanges_exchange, List.mem_append, List.mem_singleton, ← h.done]
    split
    case isTrue heq =>
      subst heq
      simp [hcall, eq_comm]
    case isFalse hne => simp [hne]
  case increasing =>
    rw [stamps_exchange, List.pairwise_append]
    refine ⟨h.increasing, List.pairwise_singleton .., ?_⟩
    intro a ha b hb
    rw [List.mem_singleton.mp hb]
    exact Int.lt_of_le_of_lt (h.upTo a ha).2 hahead
  case upTo =>
    intro stamp hstamp
    rw [stamps_exchange, List.mem_append, List.mem_singleton] at hstamp
    rw [shared_exchange]
    rcases hstamp with hold | rfl
    · have hbefore := h.upTo stamp hold
      omega
    · omega
  case timely =>
    intro p hp
    rw [exchanges_exchange, List.mem_append, List.mem_singleton] at hp
    rcases hp with hold | rfl
    · exact h.timely p hold
    · rw [← htime]
      exact le_nextStamp t s.shared
  case last => simp
  case advanced =>
    rw [shared_exchange]
    omega

theorem Ordered.turn (h : Ordered now first s) (i : ι) (spurious : Bool) : Ordered now first (s.turn i spurious) := by
  rcases s.turn_cases i spurious with ⟨t, hcall, heq⟩ | ⟨t, hcall, heq⟩ | ⟨stamp, -, heq⟩
  · rw [heq]
    exact h.load hcall
  · rw [heq]
    exact h.exchange hcall
  · rwa [heq]

theorem Close.turn (hclose : Close now first s) (h : Ordered now first s) (i : ι) (spurious : Bool) :
    Close now first (s.turn i spurious) := by
  intro limit hfirst hnow
  have hshared := hclose limit hfirst hnow
  rcases s.turn_cases i spurious with ⟨t, -, heq⟩ | ⟨t, hcall, heq⟩ | ⟨stamp, -, heq⟩
  · rwa [heq]
  · have htime := hnow i
    rw [heq, shared_exchange, exchanges_exchange, List.length_append, List.length_singleton,
      (h.loaded i t _ hcall).1, nextStamp]
    omega
  · rwa [heq]

/-! ## What every run keeps -/

theorem run_append (s : Stand ι) (earlier later : List (ι × Bool)) :
    s.run (earlier ++ later) = (s.run earlier).run later := List.foldl_append

/-- What each step keeps, a schedule keeps. -/
theorem run_keeps {I : Stand ι → Prop} (hturn : ∀ s i spurious, I s → I (s.turn i spurious)) (h : I s)
    (schedule : List (ι × Bool)) : I (s.run schedule) := by
  induction schedule generalizing s with
  | nil => exact h
  | cons step rest ih => exact ih (hturn s step.1 step.2 h)

theorem Ordered.run (h : Ordered now first s) (schedule : List (ι × Bool)) : Ordered now first (s.run schedule) :=
  run_keeps (fun _ i spurious h => h.turn i spurious) h schedule

theorem Close.run (hclose : Close now first s) (h : Ordered now first s) (schedule : List (ι × Bool)) :
    Close now first (s.run schedule) :=
  (run_keeps (I := fun s => Ordered now first s ∧ Close now first s)
    (fun _ i spurious h => ⟨h.1.turn i spurious, h.2.turn h.1 i spurious⟩) ⟨h, hclose⟩ schedule).2

theorem exchanges_run (s : Stand ι) (schedule : List (ι × Bool)) : s.exchanges <+: (s.run schedule).exchanges :=
  run_keeps (I := fun s' => s.exchanges <+: s'.exchanges)
    (fun s' i spurious h => h.trans (s'.exchanges_turn i spurious)) List.prefix_rfl schedule

/-- A call that gets its stamp after another one has returned gets a later one. -/
theorem Ordered.run_lt (h : Ordered now first s) {schedule : List (ι × Bool)} {j : ι} {a b : Int}
    (hj : s.calls j = .done b) (hpending : ∀ a, s.calls i ≠ .done a) (hi : (s.run schedule).calls i = .done a) :
    b < a := by
  have hrun := h.run schedule
  obtain ⟨later, hlater⟩ := s.exchanges_run schedule
  have hpair := hrun.increasing
  rw [stamps, ← hlater, List.map_append, List.pairwise_append] at hpair
  have hold : (j, b) ∈ s.exchanges := (h.done j b).mp hj
  have hnew : (i, a) ∈ later := by
    have hmem := (hrun.done i a).mp hi
    rw [← hlater, List.mem_append] at hmem
    exact hmem.resolve_left fun hbefore => hpending a ((h.done i a).mpr hbefore)
  exact hpair.2.2 b (List.mem_map_of_mem hold) a (List.mem_map_of_mem hnew)

end Stand

open Stand

/-- Any number of calls with any instants draw stamps from a shared one, with their steps in any order and attempts
that fail without a reason as often as they like. The stamps increase strictly in the order of the successful
exchanges, and the shared stamp is the last of them. The calls that have ended are those that have exchanged, each
with the stamp of its exchange; different calls have different stamps. Each stamp is past the one that was shared
before all of the calls, past those that were returned before the call got it, and not behind the instant of its
call.

No stamp, and none that a call goes on from, is further than the number of exchanges past the shared stamp at the
beginning and the instants: the sums stay within a range that these are far enough inside of. -/
theorem stamps_increase [DecidableEq ι] (now : ι → Instant) (first : Int) (schedule : List (ι × Bool)) :
    let s := (opening now first).run schedule
    s.stamps.Pairwise (· < ·) ∧ s.shared = s.stamps.getLastD first ∧
      (∀ i stamp, s.calls i = .done stamp ↔ (i, stamp) ∈ s.exchanges) ∧
      (∀ i j a b, i ≠ j → s.calls i = .done a → s.calls j = .done b → a ≠ b) ∧
      (∀ i stamp, s.calls i = .done stamp → first < stamp ∧ (now i).ms ≤ stamp) ∧
      (∀ earlier later, schedule = earlier ++ later →
        ∀ i j a b, ((opening now first).run earlier).calls j = .done b →
          (∀ a, ((opening now first).run earlier).calls i ≠ .done a) → s.calls i = .done a → b < a) ∧
      (∀ i t current, s.calls i = .loaded t current → current ≤ s.shared) ∧
      ∀ limit, first ≤ limit → (∀ i, (now i).ms ≤ limit) → s.shared ≤ limit + s.exchanges.length := by
  intro s
  have hopening := Ordered.opening now first
  have hordered : Ordered now first s := hopening.run schedule
  have hclose : Close now first (opening now first) := fun limit hfirst _ => by simpa [opening] using hfirst
  refine ⟨hordered.increasing, hordered.last, hordered.done, ?distinct, ?own, ?realTime, ?loaded, ?close⟩
  case distinct => exact fun i j a b hne => hordered.distinct hne
  case own =>
    intro i stamp hdone
    have hmem := (hordered.done i stamp).mp hdone
    exact ⟨(hordered.upTo stamp (List.mem_map_of_mem hmem)).1, hordered.timely _ hmem⟩
  case realTime =>
    rintro earlier later hsplit i j a b hj hpending hi
    rw [show s = ((opening now first).run earlier).run later by rw [← run_append, ← hsplit]] at hi
    exact (hopening.run earlier).run_lt hj hpending hi
  case loaded => exact fun i t current hloaded => (hordered.loaded i t current hloaded).2
  case close => exact hclose.run hopening schedule

/-- Two calls load the same stamp. The one with the later clock exchanges it first, the other one has to try again
and gets the next stamp. The third call fails for no reason before it gets its own. -/
example :
    let now : Fin 3 → Instant := fun i => .ofSeconds (3 - i.val)
    let schedule : List (Fin 3 × Bool) := [(0, false), (1, false), (0, false), (1, false), (2, false), (1, false),
      (2, true), (2, false), (2, false)]
    ((opening now 2500).run schedule).exchanges = [(0, 3000), (1, 3001), (2, 3002)] := by
  decide

end SessionBroker.StampCall
