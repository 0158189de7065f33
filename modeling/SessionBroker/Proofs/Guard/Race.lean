import Mathlib.Data.Fintype.Card
import SessionBroker.Proofs.Guard.Counters

/-!
# Failures that are recorded at once

A failure is recorded by two messages to the counters: one looks the count up, the other one writes the next. No
lock spans the two, so the messages of several records may come between each other. Records that take their turns
one after the other are all counted. As soon as two of them overlap, the later one to write does not know of the
earlier one, and a failure is lost.
-/

namespace SessionBroker.Guard

/-! ## Records message by message -/

/-- How far the record of a failure has come. -/
inductive Recording
  | waiting
  | looked (fails : Nat)
  | done
deriving DecidableEq, Repr

namespace Recording

/-- Sends the next message to the counters. -/
def step (config : GuardConfig) (source : String) (now : Instant) (counters : Counters) :
    Recording → Recording × Counters
  | .waiting => (.looked (failures counters source now), counters)
  | .looked fails => (.done, counters.put source (fails + 1) config.blockWindow now)
  | .done => (.done, counters)

/-- How many messages are left. -/
def left : Recording → Nat
  | .waiting => 2
  | .looked _ => 1
  | .done => 0

/-- The two messages, with nothing in between, are the record of a failure. -/
theorem step_step (config : GuardConfig) (source : String) (now : Instant) (counters : Counters) :
    let (found, counters') := step config source now counters .waiting
    step config source now counters' found = (.done, recordFailure config counters source now) := rfl

end Recording

section Interleave

variable {n : Nat} (config : GuardConfig) (source : String) (now : Fin n → Instant)

/-- Lets records of failures of one source send their messages in the order of a schedule, each with an instant of
its own. -/
def interleave : List (Fin n) → (Fin n → Recording) × Counters → (Fin n → Recording) × Counters
  | [], stand => stand
  | i :: rest, (stages, counters) =>
    let (stage, counters) := (stages i).step config source (now i) counters
    interleave rest (Function.update stages i stage, counters)

end Interleave

/-- No record is begun before the one before it has ended: the two messages of each stand side by side. -/
def InTurn {α : Type} : List α → Prop
  | [] => True
  | [_] => False
  | i :: j :: rest => i = j ∧ InTurn rest

instance decidableInTurn {α : Type} [DecidableEq α] : (schedule : List α) → Decidable (InTurn schedule)
  | [] => .isTrue trivial
  | [_] => .isFalse id
  | _ :: _ :: rest => @instDecidableAnd _ _ _ (decidableInTurn rest)

/-- The instant lies in the block window that opens at another one. -/
def InBlock (config : GuardConfig) (opened t : Instant) : Prop := opened ≤ t ∧ t < opened.after config.blockWindow

instance (config : GuardConfig) (opened t : Instant) : Decidable (InBlock config opened t) :=
  inferInstanceAs (Decidable (_ ∧ _))

/-- What is counted within a block window is remembered throughout. -/
theorem InBlock.remembered {config : GuardConfig} {opened t later : Instant} (h : InBlock config opened t)
    (hlater : InBlock config opened later) : later < t.after config.blockWindow := by
  have hopened := h.1
  have hend := hlater.2
  rw [Instant.le_def] at hopened
  rw [Instant.lt_def, Instant.after_ms] at hend ⊢
  omega

/-- Counts are forgotten and nothing else. -/
theorem failures_le {counters : Counters} {source : String} {t later : Instant} (h : t ≤ later) :
    failures counters source later ≤ failures counters source t := by
  unfold failures Counters.get?
  cases Table.get? source counters with
  | none => exact Nat.le_refl _
  | some c =>
    by_cases hlater : later < c.expires
    · have ht : t < c.expires := Int.lt_of_le_of_lt h hlater
      simp [hlater, ht]
    · simp [hlater]

section Turns

variable {n : Nat} {config : GuardConfig} {source : String} {now : Fin n → Instant} {opened later : Instant}
  {stages : Fin n → Recording} {counters : Counters} {i : Fin n} {rest : List (Fin n)}

/-- How many records have sent nothing yet. -/
def waiting (stages : Fin n → Recording) : Nat := (Finset.univ.filter fun i => stages i = .waiting).card

theorem waiting_look (h : stages i = .waiting) (fails : Nat) :
    waiting (Function.update stages i (.looked fails)) + 1 = waiting stages := by
  have herase : (Finset.univ.filter fun j => Function.update stages i (.looked fails) j = .waiting) =
      (Finset.univ.filter fun j => stages j = .waiting).erase i := by
    ext j
    by_cases hj : j = i
    · subst hj
      simp
    · simp [hj]
  unfold waiting
  rw [herase]
  exact Finset.card_erase_add_one (by simpa using h)

theorem waiting_write {fails : Nat} (h : stages i = .looked fails) :
    waiting (Function.update stages i .done) = waiting stages := by
  unfold waiting
  congr 1
  ext j
  by_cases hj : j = i
  · subst hj
    simp [h]
  · simp [hj]

/-- The schedule has the messages that are left, and no others. -/
def Fits (stages : Fin n → Recording) (schedule : List (Fin n)) : Prop :=
  ∀ i, schedule.count i = (stages i).left

theorem Fits.step (h : Fits stages (i :: rest)) :
    Fits (Function.update stages i ((stages i).step config source (now i) counters).1) rest := by
  intro j
  have hj := h j
  by_cases hji : j = i
  · subst hji
    rw [List.count_cons_self] at hj
    rw [Function.update_self]
    cases hstage : stages j with
    | waiting => simpa [hstage, Recording.step, Recording.left] using hj
    | looked fails => simpa [hstage, Recording.step, Recording.left] using hj
    | done => simp [hstage, Recording.left] at hj
  · rw [List.count_cons_of_ne (Ne.symm hji)] at hj
    rw [Function.update_of_ne hji, hj]

/-- After a schedule that fits, every record has ended. -/
theorem Fits.ends (h : Fits stages rest) (i : Fin n) :
    (interleave config source now rest (stages, counters)).1 i = .done := by
  induction rest generalizing stages counters with
  | nil =>
    have hleft := h i
    change stages i = .done
    cases hstage : stages i with
    | done => rfl
    | waiting => simp [hstage, Recording.left] at hleft
    | looked fails => simp [hstage, Recording.left] at hleft
  | cons j rest ih => exact ih h.step

/-! ## Counting -/

/-- However the records go on, the count will not exceed a bound: none of the counts that are in store, and none of
those that are about to be written, does so with all the records that are still to begin on top of it. -/
structure Bounded (config : GuardConfig) (source : String) (opened : Instant) (bound : Nat)
    (stages : Fin n → Recording) (counters : Counters) : Prop where
  stored : ∀ t, InBlock config opened t → failures counters source t + waiting stages ≤ bound
  found : ∀ i fails, stages i = .looked fails → fails + 1 + waiting stages ≤ bound

theorem Bounded.look {bound : Nat} (h : Bounded config source opened bound stages counters)
    (hnow : InBlock config opened (now i)) (hstage : stages i = .waiting) :
    Bounded config source opened bound
      (Function.update stages i (.looked (failures counters source (now i)))) counters := by
  have hwaiting := waiting_look hstage (failures counters source (now i))
  refine ⟨fun t ht => ?_, fun j fails hj => ?_⟩
  · have hstored := h.stored t ht
    omega
  · by_cases hji : j = i
    · subst hji
      rw [Function.update_self] at hj
      cases hj
      have hstored := h.stored (now j) hnow
      omega
    · rw [Function.update_of_ne hji] at hj
      have hfound := h.found j fails hj
      omega

theorem Bounded.write {bound fails : Nat} (h : Bounded config source opened bound stages counters)
    (hnow : InBlock config opened (now i)) (hstage : stages i = .looked fails) :
    Bounded config source opened bound (Function.update stages i .done)
      (counters.put source (fails + 1) config.blockWindow (now i)) := by
  refine ⟨fun t ht => ?_, fun j fails' hj => ?_⟩
  · rw [waiting_write hstage, failures, Counters.get?_put_self, if_pos (hnow.remembered ht)]
    exact h.found i fails hstage
  · have hji : j ≠ i := by
      rintro rfl
      rw [Function.update_self] at hj
      cases hj
    rw [Function.update_of_ne hji] at hj
    rw [waiting_write hstage]
    exact h.found j fails' hj

theorem Bounded.step {bound : Nat} (h : Bounded config source opened bound stages counters)
    (hnow : InBlock config opened (now i)) :
    Bounded config source opened bound
      (Function.update stages i ((stages i).step config source (now i) counters).1)
      ((stages i).step config source (now i) counters).2 := by
  cases hstage : stages i with
  | waiting => exact h.look hnow hstage
  | looked fails => exact h.write hnow hstage
  | done =>
    change Bounded config source opened bound (Function.update stages i .done) counters
    rwa [← hstage, Function.update_eq_self]

/-- No order of what is left takes the count over its bound. -/
theorem Bounded.failures_le {bound : Nat} (h : Bounded config source opened bound stages counters)
    (hnow : ∀ i, InBlock config opened (now i)) (hlater : InBlock config opened later) :
    failures (interleave config source now rest (stages, counters)).2 source later ≤ bound := by
  induction rest generalizing stages counters with
  | nil => exact Nat.le_trans (Nat.le_add_right _ _) (h.stored later hlater)
  | cons i rest ih => exact ih (h.step (hnow i))

/-! ## One after the other -/

/-- No record has sent the first of its messages only. -/
def Idle (stages : Fin n → Recording) : Prop := ∀ i fails, stages i ≠ .looked fails

theorem Idle.waiting (h : Idle stages) (hfits : Fits stages rest) (hi : i ∈ rest) : stages i = .waiting := by
  have hleft := hfits i
  have hcount := List.count_pos_iff.mpr hi
  cases hstage : stages i with
  | waiting => rfl
  | looked fails => exact absurd hstage (h i fails)
  | done =>
    rw [hstage, Recording.left] at hleft
    omega

theorem Idle.update (h : Idle stages) : Idle (Function.update stages i .done) := by
  intro j fails hj
  by_cases hji : j = i
  · subst hji
    rw [Function.update_self] at hj
    cases hj
  · rw [Function.update_of_ne hji] at hj
    exact h j fails hj

/-- A record that sends both of its messages. -/
theorem interleave_pair (hstage : stages i = .waiting) :
    interleave config source now (i :: i :: rest) (stages, counters) =
      interleave config source now rest
        (Function.update stages i .done, recordFailure config counters source (now i)) := by
  simp only [interleave, hstage, Recording.step, Function.update_self, Function.update_idem]
  rfl

/-- Two records that look before either of them writes. -/
theorem interleave_looks {j : Fin n} (hi : stages i = .waiting)
    (hj : Function.update stages i (.looked (failures counters source (now i))) j = .waiting) :
    interleave config source now (i :: j :: rest) (stages, counters) =
      interleave config source now rest (Function.update
        (Function.update stages i (.looked (failures counters source (now i)))) j
          (.looked (failures counters source (now j))), counters) := by
  simp only [interleave, hi, Recording.step, hj]

theorem Fits.pair (h : Fits stages (i :: i :: rest)) : Fits (Function.update stages i .done) rest := by
  intro j
  have hj := h j
  by_cases hji : j = i
  · subst hji
    rw [List.count_cons_self, List.count_cons_self] at hj
    rw [Function.update_self]
    cases hstage : stages j with
    | waiting => simpa [hstage, Recording.left] using hj
    | looked fails => simp [hstage, Recording.left] at hj
    | done => simp [hstage, Recording.left] at hj
  · rw [List.count_cons_of_ne (Ne.symm hji), List.count_cons_of_ne (Ne.symm hji)] at hj
    rw [Function.update_of_ne hji, hj]

/-- The instant at which the count is looked up next: that of the first record in the schedule, or that of a reader
who comes after all of them. -/
def nextLook (now : Fin n → Instant) (later : Instant) (schedule : List (Fin n)) : Instant :=
  (schedule.head?.map now).getD later

theorem waiting_pair (h : stages i = .waiting) : waiting (Function.update stages i .done) + 1 = waiting stages := by
  have hlook := waiting_look h 0
  have hwrite : waiting (Function.update (Function.update stages i (.looked 0)) i .done) =
      waiting (Function.update stages i (.looked 0)) := waiting_write (Function.update_self ..)
  rw [Function.update_idem] at hwrite
  omega

theorem waiting_of_fits_nil (h : Fits stages []) : waiting stages = 0 := by
  unfold waiting
  rw [Finset.card_eq_zero, Finset.filter_eq_empty_iff]
  intro i _ hi
  have hleft := h i
  simp [hi, Recording.left] at hleft

/-- Records that take their turns one after the other are all counted, on top of what the first of them finds. -/
theorem interleave_inTurn (hinturn : InTurn rest) (hfits : Fits stages rest) (hidle : Idle stages)
    (hnow : ∀ i, InBlock config opened (now i)) (hlater : InBlock config opened later) :
    failures (interleave config source now rest (stages, counters)).2 source later =
      failures counters source (nextLook now later rest) + waiting stages := by
  induction rest using InTurn.induct generalizing stages counters with
  | case1 =>
    rw [waiting_of_fits_nil hfits]
    rfl
  | case2 i => exact hinturn.elim
  | case3 i j rest ih =>
    obtain ⟨rfl, hinturn⟩ := hinturn
    have hstage := hidle.waiting hfits List.mem_cons_self
    have hwaiting := waiting_pair hstage
    have hnext : InBlock config opened (nextLook now later rest) := by
      cases rest with
      | nil => exact hlater
      | cons j rest => exact hnow j
    rw [interleave_pair hstage, ih hinturn hfits.pair hidle.update, failures_recordFailure_self,
      if_pos ((hnow i).remembered hnext)]
    change failures counters source (now i) + 1 + _ = failures counters source (now i) + _
    omega

/-- Two records that look at the same count can still raise it by one, but not by two. -/
theorem Bounded.looks {bound : Nat} {j : Fin n} (h : Bounded config source opened bound stages counters)
    (hidle : Idle stages) (hnow : ∀ i, InBlock config opened (now i)) (hi : stages i = .waiting)
    (hj : Function.update stages i (.looked (failures counters source (now i))) j = .waiting) :
    Bounded config source opened (bound - 1) (Function.update
      (Function.update stages i (.looked (failures counters source (now i)))) j
        (.looked (failures counters source (now j)))) counters := by
  have hwaiting := waiting_look hi (failures counters source (now i))
  have hwaiting' := waiting_look hj (failures counters source (now j))
  refine ⟨fun t ht => ?_, fun k fails hk => ?_⟩
  · have hstored := h.stored t ht
    omega
  · have hfails : fails = failures counters source (now k) := by
      by_cases hkj : k = j
      · subst hkj
        rw [Function.update_self] at hk
        exact (Recording.looked.inj hk).symm
      · rw [Function.update_of_ne hkj] at hk
        by_cases hki : k = i
        · subst hki
          rw [Function.update_self] at hk
          exact (Recording.looked.inj hk).symm
        · rw [Function.update_of_ne hki] at hk
          exact absurd hk (hidle k fails)
    have hstored := h.stored (now k) (hnow k)
    omega

/-- Where two records overlap, the count misses its bound. -/
theorem interleave_overlapping {bound : Nat} (hoverlap : ¬ InTurn rest) (hfits : Fits stages rest)
    (hidle : Idle stages) (hbounded : Bounded config source opened bound stages counters)
    (hnow : ∀ i, InBlock config opened (now i)) (hlater : InBlock config opened later) :
    failures (interleave config source now rest (stages, counters)).2 source later < bound := by
  induction rest using InTurn.induct generalizing stages counters with
  | case1 => exact absurd trivial hoverlap
  | case2 i =>
    have hstage := hidle.waiting hfits List.mem_cons_self
    have hleft := hfits i
    simp [hstage, Recording.left] at hleft
  | case3 i j rest ih =>
    have hi := hidle.waiting hfits List.mem_cons_self
    by_cases hij : i = j
    · subst hij
      have hpair := (hbounded.look (hnow i) hi).write (hnow i) (Function.update_self ..)
      rw [Function.update_idem] at hpair
      rw [interleave_pair hi]
      exact ih (fun h => hoverlap ⟨rfl, h⟩) hfits.pair hidle.update hpair
    · have hj : Function.update stages i (.looked (failures counters source (now i))) j = .waiting := by
        rw [Function.update_of_ne (Ne.symm hij)]
        exact hidle.waiting hfits (List.mem_cons_of_mem _ List.mem_cons_self)
      rw [interleave_looks hi hj]
      have hwaiting := waiting_look hi (failures counters source (now i))
      have hstored := hbounded.stored later hlater
      exact Nat.lt_of_le_of_lt ((hbounded.looks hidle hnow hi hj).failures_le hnow hlater) (by omega)

end Turns

/-! ## The race -/

/-- Any number of records of failures of one source, with instants inside one block window and their messages in any
order, raise the count that a later reader in the window finds by no more than their number over the count at the
opening of the window. They raise it by their number exactly if no two of them overlap and that count has not been
forgotten when the first of them looks it up. -/
theorem all_recorded_iff (config : GuardConfig) (counters : Counters) (source : String) {n : Nat}
    {now : Fin n → Instant} {opened later : Instant} {schedule : List (Fin n)}
    (hnow : ∀ i, InBlock config opened (now i)) (hlater : InBlock config opened later)
    (hschedule : ∀ i, schedule.count i = 2) :
    let stand := interleave config source now schedule (fun _ => .waiting, counters)
    let before := failures counters source opened
    (∀ i, stand.1 i = .done) ∧ failures stand.2 source later ≤ before + n ∧
      (failures stand.2 source later = before + n ↔
        InTurn schedule ∧ failures counters source (nextLook now later schedule) = before) := by
  intro stand before
  have hfits : Fits (fun _ : Fin n => .waiting) schedule := hschedule
  have hidle : Idle fun _ : Fin n => Recording.waiting := fun _ _ h => by cases h
  have hwaiting : waiting (fun _ : Fin n => .waiting) = n := by simp [waiting]
  have hbounded : Bounded config source opened (before + n) (fun _ : Fin n => .waiting) counters := by
    refine ⟨fun t ht => ?_, fun _ _ h => by cases h⟩
    rw [hwaiting]
    exact Nat.add_le_add_right (failures_le ht.1) n
  refine ⟨hfits.ends, hbounded.failures_le hnow hlater, ?_⟩
  by_cases hinturn : InTurn schedule
  · have hcount : failures stand.2 source later = failures counters source (nextLook now later schedule) + n := by
      rw [interleave_inTurn hinturn hfits hidle hnow hlater, hwaiting]
    rw [hcount, Nat.add_right_cancel_iff]
    exact (and_iff_right hinturn).symm
  · have hlost := interleave_overlapping hinturn hfits hidle hbounded hnow hlater
    exact ⟨fun h => absurd h (Nat.ne_of_lt hlost), fun h => absurd h.1 hinturn⟩

/-- Three failures that are recorded one after the other, at instants that are not in order of time, are all
counted. -/
theorem all_recorded_iff_in_turn :
    let now : Fin 3 → Instant := fun i => .ofSeconds (20 - i.val)
    let schedule : List (Fin 3) := [1, 1, 0, 0, 2, 2]
    let counters : Counters := recordFailure .standard [] "10.1.1.1" .epoch
    (∀ i, InBlock .standard .epoch (now i)) ∧ InBlock .standard .epoch (.ofSeconds 299) ∧
      (∀ i, schedule.count i = 2) ∧
      failures (interleave .standard "10.1.1.1" now schedule (fun _ => .waiting, counters)).2 "10.1.1.1"
        (.ofSeconds 299) = 4 := by
  intro now schedule counters
  have hnow : ∀ i, InBlock .standard .epoch (now i) := by decide
  have hlater : InBlock .standard .epoch (.ofSeconds 299) := by decide
  have hschedule : ∀ i, schedule.count i = 2 := by decide
  refine ⟨hnow, hlater, hschedule, ?_⟩
  exact (all_recorded_iff .standard counters "10.1.1.1" hnow hlater hschedule).2.2.mpr ⟨by decide, by decide⟩

/-- Of two failures that are recorded at once, where both records look before either writes, one is lost. -/
theorem overlapping_failure_lost :
    let now : Fin 2 → Instant := fun _ => .epoch
    let schedule : List (Fin 2) := [0, 1, 0, 1]
    (∀ i, InBlock .standard .epoch (now i)) ∧ (∀ i, schedule.count i = 2) ∧
      failures (interleave .standard "10.1.1.1" now schedule (fun _ => .waiting, [])).2 "10.1.1.1" .epoch = 1 := by
  decide

end SessionBroker.Guard
