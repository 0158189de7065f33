import SessionBroker.Proofs.Executor.Breakdown
import SessionBroker.Proofs.Executor.Guessing
import SessionBroker.Proofs.Restraint

/-!
# What restrains a pool

A pool is meant to be restrained by the services that went into the error state within the window. What is counted
is the dates of their records, and a service that is assigned while it is in the error state is dated anew: it
counts again although it failed long ago. `restrained_iff` says what a pool is restrained by, and when that is not
what it is meant to be.
-/

namespace SessionBroker

namespace Executor.Breakdown

/-- The service went into the error state within the window. -/
def recent (window : Duration) (now : Instant) (r : Breakdown) : Bool := withinWindow window now r.failed

/-- The service went into the error state before the window and was assigned within it. -/
def redated (window : Duration) (now : Instant) (r : Breakdown) : Bool :=
  !r.recent window now && r.assigned.any (withinWindow window now)

/-- The date of the record lies in the window for one of the two reasons, and never for both. -/
theorem within_date {r : Breakdown} {now : Instant} (hfailed : r.failed ≤ r.date) (hnow : r.date ≤ now)
    (window : Duration) : withinWindow window now r.date = (r.recent window now || r.redated window now) ∧
      (r.recent window now && r.redated window now) = false := by
  have hexclusive : (r.recent window now && r.redated window now) = false := by
    cases hrecent : r.recent window now <;> simp [redated, hrecent]
  refine ⟨?_, hexclusive⟩
  obtain ⟨failed, assigned⟩ := r
  cases assigned with
  | none => simp [recent, redated, date]
  | some at' =>
    have hfailed : failed.ms ≤ at'.ms := hfailed
    have hnow : at'.ms ≤ now.ms := hnow
    change withinWindow window now at' = (withinWindow window now failed ||
      !withinWindow window now failed && withinWindow window now at')
    cases hrecent : withinWindow window now failed with
    | false => rfl
    | true =>
      simp only [withinWindow, Bool.and_eq_true, decide_eq_true_eq, Bool.true_or] at hrecent ⊢
      omega

end Executor.Breakdown

/-! ## Counting -/

/-- What is of one of two kinds, and never of both, is counted kind by kind. -/
theorem countP_split {α : Type} {l : List α} {p q r : α → Bool}
    (h : ∀ a ∈ l, p a = (q a || r a) ∧ (q a && r a) = false) : l.countP p = l.countP q + l.countP r := by
  induction l with
  | nil => rfl
  | cons a rest ih =>
    obtain ⟨⟨hp, hqr⟩, hrest⟩ := List.forall_mem_cons.mp h
    rw [List.countP_cons, List.countP_cons, List.countP_cons, ih hrest, hp]
    cases hq : q a <;> cases hr : r a <;> simp [hq, hr] at hqr ⊢ <;> omega

namespace Broker

/-- How many user services of the pool are in the error state and of a kind. -/
def countErrors (b : Broker) (pool : Uuid) (kind : Uuid → UserService → Bool) : Nat :=
  b.userServices.countP fun row =>
    (row.2.service.pool = pool && row.2.service.state = .error) && kind row.1 row.2.service

theorem length_qualifying (b : Broker) (pool : Uuid) (now : Instant) (p : RestraintPolicy) :
    (p.qualifying (b.errorDates pool) now).length = b.countErrors pool fun _ u => p.inWindow now u.stateDate := by
  unfold RestraintPolicy.qualifying errorDates countErrors Table.values
  rw [List.length_mergeSort, ← List.countP_eq_length_filter, List.countP_map, List.countP_filter, List.countP_map]
  refine List.countP_congr fun row _ => ?_
  simp only [Function.comp, Bool.and_eq_true, and_comm]

theorem countErrors_split {b : Broker} (h : b.Distinct) {pool : Uuid} {kind first second : Uuid → UserService → Bool}
    (hsplit : ∀ id u, b.userService? id = some u → u.state = .error →
      kind id u = (first id u || second id u) ∧ (first id u && second id u) = false) :
    b.countErrors pool kind = b.countErrors pool first + b.countErrors pool second := by
  refine countP_split fun row hrow => ?_
  have hfound : b.userService? row.1 = some row.2.service :=
    userService?_of_get? (Table.get?_of_mem h hrow)
  cases hcounted : (row.2.service.pool = pool && row.2.service.state = .error : Bool) with
  | false => simp
  | true =>
    obtain ⟨-, herror⟩ := Bool.and_eq_true_iff.mp hcounted
    simpa using hsplit row.1 row.2.service hfound (of_decide_eq_true herror)

end Broker

namespace Executor

open UserService (standing)

/-- How many services of the pool are in the error state and went there within the window. -/
def recentFailures (b : Broker) (log : Uuid → Option Breakdown) (pool : Uuid) (window : Duration) (now : Instant) :
    Nat :=
  b.countErrors pool fun id _ => (log id).any (·.recent window now)

/-- How many services of the pool are in the error state since before the window and were assigned within it. -/
def redatedFailures (b : Broker) (log : Uuid → Option Breakdown) (pool : Uuid) (window : Duration) (now : Instant) :
    Nat :=
  b.countErrors pool fun id _ => (log id).any (·.redated window now)

/-- A pool is restrained by recent failures and by older ones that bear a new date. -/
theorem isRestrained_iff {b : Broker} {log : Uuid → Option Breakdown} {pool : Uuid} {now : Instant}
    {entry : PoolEntry} (hs : b.Distinct) (h : Logged b log [now]) (hentry : b.pools.get? pool = some entry)
    (hreach : now.Reaches entry.restraint.window) :
    b.isRestrained pool now = true ↔ entry.restraint.isEnabled = true ∧
      entry.restraint.threshold ≤ recentFailures b log pool entry.restraint.window now +
        redatedFailures b log pool entry.restraint.window now := by
  have hcount : (entry.restraint.qualifying (b.errorDates pool) now).length =
      recentFailures b log pool entry.restraint.window now +
        redatedFailures b log pool entry.restraint.window now := by
    rw [b.length_qualifying]
    refine Broker.countErrors_split hs fun id u hu herror => ?_
    obtain ⟨r, hlog, hdate, hfailed, hnow⟩ := h id u hu herror
    rw [RestraintPolicy.inWindow_eq hreach, hlog, ← hdate]
    exact r.within_date hfailed (hnow now List.mem_cons_self) entry.restraint.window
  unfold Broker.isRestrained
  rw [hentry]
  dsimp only
  unfold RestraintPolicy.isRestrained
  rw [hcount, Bool.and_eq_true, decide_eq_true_eq]

/-- In a run with the tasks of the administration in order of time, a pool is restrained by its services in the
error state that went there within the window or were assigned within it. It is restrained by the failures of the
window alone unless there are too few of these and enough together with the older ones that were assigned. A pool
that does not exist is not restrained. -/
theorem restrained_iff (config : BrokerConfig) (cipher : Cipher) (issuer : Issuer) {events : List Event}
    {now : Instant} (hregular : ∀ event ∈ events, event.Regular standing)
    (hordered : (events.filterMap Event.instant? ++ [now]).Pairwise (· ≤ ·)) (pool : Uuid) :
    let x := inMemory config cipher issuer
    let b := (x.after events .initial).backend
    let log := x.breakdowns events .initial fun _ => none
    (b.pools.get? pool = none → b.isRestrained pool now = false) ∧
    ∀ entry, b.pools.get? pool = some entry → now.Reaches entry.restraint.window →
      let p := entry.restraint
      let recent := recentFailures b log pool p.window now
      let redated := redatedFailures b log pool p.window now
      (b.isRestrained pool now = true ↔ p.isEnabled = true ∧ p.threshold ≤ recent + redated) ∧
      ((b.isRestrained pool now = true ↔ p.isEnabled = true ∧ p.threshold ≤ recent) ↔
        ¬ (p.isEnabled = true ∧ recent < p.threshold ∧ p.threshold ≤ recent + redated)) := by
  intro x b log
  constructor
  · intro hentry
    unfold Broker.isRestrained
    rw [hentry]
  · intro entry hentry hreach p recent redated
    have hlogged : b.Sparing standing ∧ Logged b log [now] :=
      after_logged hregular (.empty standing) hordered fun id u hu => by cases hu
    have hrestrained : b.isRestrained pool now = true ↔ p.isEnabled = true ∧ p.threshold ≤ recent + redated :=
      isRestrained_iff hlogged.1.distinct hlogged.2 hentry hreach
    refine ⟨hrestrained, ?_⟩
    rw [hrestrained]
    constructor
    · rintro hsame ⟨henabled, hfew, henough⟩
      exact absurd (hsame.mp ⟨henabled, henough⟩).2 (by omega)
    · intro hnot
      refine and_congr_right fun henabled => ?_
      have hnot : ¬ (recent < p.threshold ∧ p.threshold ≤ recent + redated) := fun h => hnot ⟨henabled, h⟩
      omega

/-- A user service comes to a pool that is restrained for ten seconds by one failure, and fails. -/
def trialBreakdown : List Event :=
  [.administer (.addPool ⟨.nil, .nil, "pool", none⟩ (some notingManager) ⟨.ofSeconds 10, 1⟩),
    .administer (.addUserService (.fresh .nil .nil "desktop" "desktop" .l1 .epoch)
      ⟨true, fun _ => .failed "broken"⟩ .epoch),
    .administer (.moveToLevel .nil .l2 .epoch)]

theorem trialBreakdown_regular : ∀ event ∈ trialBreakdown, event.Regular standing := by
  intro event h
  simp only [trialBreakdown, List.mem_cons, List.not_mem_nil, or_false] at h
  rcases h with rfl | rfl | rfl
  · rintro m ⟨⟩
    exact notingManager_spares UserService.standing_outline
  · exact ⟨_, _, _, _, _, _, rfl⟩
  · trivial

/-- The failure restrains the pool as long as the window holds it. -/
theorem restrained_iff_failed :
    let x := inMemory .standard TaggedXor.cipher trialIssuer
    let b := (x.after trialBreakdown .initial).backend
    let log := x.breakdowns trialBreakdown .initial fun _ => none
    let now := Instant.ofSeconds 5
    (∀ event ∈ trialBreakdown, event.Regular standing) ∧
      (trialBreakdown.filterMap Event.instant? ++ [now]).Pairwise (· ≤ ·) ∧ now.Reaches (.ofSeconds 10) ∧
      recentFailures b log .nil (.ofSeconds 10) now = 1 ∧ b.isRestrained .nil now = true := by
  intro x b log now
  have hordered : (trialBreakdown.filterMap Event.instant? ++ [now]).Pairwise (· ≤ ·) := by decide +kernel
  have hreach : now.Reaches (.ofSeconds 10) := by decide +kernel
  have hrecent : recentFailures b log .nil (.ofSeconds 10) now = 1 := by decide +kernel
  have hfound : (b.pools.get? .nil).map (·.restraint) = some ⟨.ofSeconds 10, 1⟩ := by decide +kernel
  obtain ⟨entry, hentry, hrestraint⟩ := Option.map_eq_some_iff.mp hfound
  have hpool := (restrained_iff .standard TaggedXor.cipher trialIssuer trialBreakdown_regular hordered .nil).2
    entry hentry
  rw [hrestraint] at hpool
  refine ⟨trialBreakdown_regular, hordered, hreach, hrecent, (hpool hreach).1.mpr ⟨rfl, ?_⟩⟩
  change 1 ≤ recentFailures b log .nil (.ofSeconds 10) now + _
  omega

/-- Twenty seconds after the failure the service is assigned. The pool is restrained, though nothing has failed
within its window. -/
theorem restrained_by_assignment :
    let x := inMemory .standard TaggedXor.cipher trialIssuer
    let now := Instant.ofSeconds 20
    let events := trialBreakdown ++ [.administer (.assign .nil .nil now)]
    let b := (x.after events .initial).backend
    let log := x.breakdowns events .initial fun _ => none
    (∀ event ∈ events, event.Regular standing) ∧ (events.filterMap Event.instant? ++ [now]).Pairwise (· ≤ ·) ∧
      now.Reaches (.ofSeconds 10) ∧ (b.pools.get? .nil).map (·.restraint) = some ⟨.ofSeconds 10, 1⟩ ∧
      recentFailures b log .nil (.ofSeconds 10) now = 0 ∧ b.isRestrained .nil now = true := by
  intro x now events b log
  have hregular : ∀ event ∈ events, event.Regular standing :=
    List.forall_mem_append.mpr ⟨trialBreakdown_regular, by simp [Event.Regular, Broker.Task.Regular]⟩
  exact ⟨hregular, by decide +kernel, by decide +kernel, by decide +kernel, by decide +kernel, by decide +kernel⟩

end Executor

end SessionBroker
