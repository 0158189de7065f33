import SessionBroker.Proofs.Guard.Counters
import Mathlib.Data.List.Induction

/-!
# Dropped counters are not missed

A write drops every counter that has expired by then, whichever key it is for. Beside it stands a table
that drops nothing: a counter stays in it until its own key is written again. In time the two hold
different rows, yet whoever asks in order of time cannot tell one from the other.
-/

namespace SessionBroker.Counters

/-- What counters are asked. A removal is a matter of no instant. -/
inductive Call
  | put (key : String) (value : Nat) (ttl : Duration) (now : Instant)
  | remove (key : String)
  | get (key : String) (now : Instant)
deriving DecidableEq, Repr

namespace Call

def instant? : Call → Option Instant
  | .put _ _ _ now | .get _ now => some now
  | .remove _ => none

/-- The key that is written or removed. -/
def written? : Call → Option String
  | .put key _ _ _ | .remove key => some key
  | .get _ _ => none

/-- The counters after a call. -/
def enter (counters : Counters) : Call → Counters
  | .put key value ttl now => counters.put key value ttl now
  | .remove key => counters.remove key
  | .get _ _ => counters

/-- The table after a call where nothing is dropped for its age. -/
def keep (kept : Counters) : Call → Counters
  | .put key value ttl now => Table.put key ⟨value, now.after ttl⟩ kept
  | .remove key => kept.remove key
  | .get _ _ => kept

/-- What a read is answered. -/
def answer? (counters : Counters) : Call → Option (Option Nat)
  | .get key now => some (counters.get? key now)
  | .put .. | .remove _ => none

end Call

/-- The answers to all reads of a run, where `write` says what a call leaves behind. -/
def answers (write : Counters → Call → Counters) (counters : Counters) : List Call → List (Option Nat)
  | [] => []
  | call :: rest => (call.answer? counters).toList ++ answers write (write counters call) rest

/-- Nobody asks for the past. -/
def InOrder (calls : List Call) : Prop := (calls.filterMap Call.instant?).Pairwise (· ≤ ·)

instance (calls : List Call) : Decidable (InOrder calls) :=
  inferInstanceAs (Decidable (List.Pairwise _ _))

/-- From an instant on the counters answer as the table does that drops nothing. -/
structure Alike (counters kept : Counters) (since : Instant) : Prop where
  distinct : Table.KeysNodup counters
  reads : ∀ key now, since ≤ now → counters.get? key now = kept.get? key now

variable {counters kept : Counters} {since now : Instant} {key : String} {calls : List Call}

theorem Alike.nil (since : Instant) : Alike [] [] since where
  distinct := List.nodup_nil
  reads _ _ _ := rfl

theorem Alike.mono (h : Alike counters kept since) (hnow : since ≤ now) : Alike counters kept now where
  distinct := h.distinct
  reads key later hlater := h.reads key later (Int.le_trans hnow hlater)

theorem Alike.put (h : Alike counters kept since) (hnow : since ≤ now) (key : String) (value : Nat)
    (ttl : Duration) :
    Alike (counters.put key value ttl now) (Table.put key ⟨value, now.after ttl⟩ kept) now where
  distinct := keysNodup_put h.distinct value ttl
  reads key' later hlater := by
    rw [get?_put h.distinct value ttl hlater]
    by_cases hkey : key = key'
    · subst hkey
      rw [if_pos rfl, Counters.get?, Table.get?_put, if_pos rfl]
    · rw [if_neg hkey, h.reads key' later (Int.le_trans hnow hlater)]
      unfold Counters.get?
      rw [Table.get?_put, if_neg hkey]

theorem Alike.remove (h : Alike counters kept since) (key : String) :
    Alike (counters.remove key) (kept.remove key) since where
  distinct := keysNodup_remove h.distinct
  reads key' later hlater := by
    rw [get?_remove, get?_remove, h.reads key' later hlater]

/-- What one call does to the two, told from the instant of the call. -/
theorem Alike.enter {call : Call} (h : Alike counters kept (call.instant?.getD now))
    (hcall : ∀ t ∈ call.instant?, t ≤ now) : Alike (call.enter counters) (call.keep kept) now := by
  cases call with
  | put key value ttl t => exact (h.put (Int.le_refl t.ms) key value ttl).mono (hcall t rfl)
  | remove key => exact h.remove key
  | get key t => exact h.mono (hcall t rfl)

theorem inOrder_append_singleton {call : Call} :
    InOrder (calls ++ [call]) ↔
      InOrder calls ∧ ∀ t ∈ call.instant?, ∀ before ∈ calls.filterMap Call.instant?, before ≤ t := by
  unfold InOrder
  rw [List.filterMap_append, List.pairwise_append]
  cases hi : call.instant? with
  | none => simp only [List.filterMap_cons_none hi, List.filterMap_nil]; simp
  | some t =>
    simp only [List.filterMap_cons_some hi, List.filterMap_nil, List.pairwise_singleton, true_and,
      List.mem_singleton, Option.mem_some_iff, forall_eq, forall_eq']

/-- A run in order of time leaves the two alike for whoever asks after it. The induction is from the last
call backwards: what the run before it has left is asked at the instant of that call. -/
theorem alike_foldl (hordered : InOrder calls) (hnow : ∀ t ∈ calls.filterMap Call.instant?, t ≤ now) :
    Alike (calls.foldl Call.enter []) (calls.foldl Call.keep []) now := by
  induction calls using List.reverseRecOn generalizing now with
  | nil => exact .nil now
  | append_singleton calls call ih =>
    obtain ⟨hbefore, hcall⟩ := inOrder_append_singleton.mp hordered
    rw [List.filterMap_append] at hnow
    have hlast : ∀ t ∈ call.instant?, t ≤ now := fun t ht =>
      hnow t (List.mem_append_right _ (List.mem_filterMap.mpr ⟨call, List.mem_singleton_self call, ht⟩))
    rw [List.foldl_append, List.foldl_append]
    refine Alike.enter (ih hbefore fun before hmem => ?_) hlast
    cases hi : call.instant? with
    | none => exact hnow before (List.mem_append_left _ hmem)
    | some t => exact hcall t hi before hmem

theorem answers_append_singleton (write : Counters → Call → Counters) (call : Call) :
    answers write counters (calls ++ [call]) =
      answers write counters calls ++ (call.answer? (calls.foldl write counters)).toList := by
  induction calls generalizing counters with
  | nil => simp [answers]
  | cons first rest ih => simp [answers, ih]

/-- A read after a run in order of time. -/
theorem answer?_foldl {call : Call} (hordered : InOrder (calls ++ [call])) :
    call.answer? (calls.foldl Call.enter []) = call.answer? (calls.foldl Call.keep []) := by
  obtain ⟨hbefore, hcall⟩ := inOrder_append_singleton.mp hordered
  cases call with
  | put | remove => rfl
  | get key now =>
    exact congrArg some ((alike_foldl hbefore (hcall now rfl)).reads key now (Int.le_refl now.ms))

/-- A counter was put under the key, and the key neither put again nor removed since. -/
def LastPut (key : String) (calls : List Call) (counter : Counter) : Prop :=
  ∃ before value ttl set after, calls = before ++ .put key value ttl set :: after ∧
    (∀ call ∈ after, call.written? ≠ some key) ∧ counter = ⟨value, set.after ttl⟩

theorem lastPut_append_singleton {call : Call} {counter : Counter} :
    LastPut key (calls ++ [call]) counter ↔
      (∃ value ttl set, call = .put key value ttl set ∧ counter = ⟨value, set.after ttl⟩) ∨
        call.written? ≠ some key ∧ LastPut key calls counter := by
  constructor
  · rintro ⟨before, value, ttl, set, after, hcalls, hafter, rfl⟩
    rcases List.eq_nil_or_concat after with rfl | ⟨after, last, rfl⟩
    · obtain ⟨rfl, hlast⟩ := List.append_inj' hcalls rfl
      exact .inl ⟨value, ttl, set, List.singleton_inj.mp hlast, rfl⟩
    · rw [List.concat_eq_append, ← List.cons_append, ← List.append_assoc] at hcalls
      obtain ⟨rfl, hlast⟩ := List.append_inj' hcalls rfl
      obtain rfl := List.singleton_inj.mp hlast
      rw [List.concat_eq_append] at hafter
      have hcall := hafter call (List.mem_append_right _ (List.mem_singleton_self call))
      exact .inr ⟨hcall, before, value, ttl, set, after, rfl,
        fun c hc => hafter c (List.mem_append_left _ hc), rfl⟩
  · rintro (⟨value, ttl, set, rfl, rfl⟩ | ⟨hcall, before, value, ttl, set, after, rfl, hafter, rfl⟩)
    · exact ⟨calls, value, ttl, set, [], rfl, fun c hc => absurd hc List.not_mem_nil, rfl⟩
    · refine ⟨before, value, ttl, set, after ++ [call], by rw [List.append_assoc, List.cons_append],
        fun c hc => ?_, rfl⟩
      rcases List.mem_append.mp hc with hc | hc
      · exact hafter c hc
      · obtain rfl := List.mem_singleton.mp hc
        exact hcall

/-- What one call does to the row of a key where nothing is dropped. -/
theorem get?_keep_iff {call : Call} {counter : Counter} :
    Table.get? key (call.keep kept) = some counter ↔
      (∃ value ttl set, call = .put key value ttl set ∧ counter = ⟨value, set.after ttl⟩) ∨
        call.written? ≠ some key ∧ Table.get? key kept = some counter := by
  cases call with
  | put key' value ttl set =>
    unfold Call.keep Call.written?
    rw [Table.get?_put]
    by_cases hkey : key' = key
    · subst hkey
      simp [eq_comm]
    · simp [hkey]
  | remove key' =>
    unfold Call.keep Call.written? Counters.remove
    rw [Table.get?_erase]
    by_cases hkey : key' = key <;> simp [hkey]
  | get key' t => simp [Call.keep, Call.written?]

/-- Where nothing is dropped, the row of a key is the one last put there. -/
theorem get?_foldl_keep_iff {counter : Counter} :
    Table.get? key (calls.foldl Call.keep []) = some counter ↔ LastPut key calls counter := by
  induction calls using List.reverseRecOn with
  | nil =>
    have hnone : ¬ LastPut key [] counter := by
      rintro ⟨before, value, ttl, set, after, hcalls, -⟩
      simp at hcalls
    simp [Table.get?, hnone]
  | append_singleton calls call ih =>
    rw [List.foldl_append, lastPut_append_singleton, ← ih]
    exact get?_keep_iff

theorem get?_eq_some_iff {value : Nat} : counters.get? key now = some value ↔
    ∃ counter, Table.get? key counters = some counter ∧ now < counter.expires ∧ counter.value = value := by
  unfold Counters.get?
  cases Table.get? key counters with
  | none => simp
  | some counter => by_cases h : now < counter.expires <;> simp [h]

theorem answers_eq (hordered : InOrder calls) :
    answers Call.enter [] calls = answers Call.keep [] calls := by
  induction calls using List.reverseRecOn with
  | nil => rfl
  | append_singleton calls call ih =>
    rw [answers_append_singleton, answers_append_singleton, ih (inOrder_append_singleton.mp hordered).1,
      answer?_foldl hordered]

/-- A run is in order up to each of its calls. -/
theorem InOrder.upTo {before after : List Call} {call : Call}
    (h : InOrder (before ++ call :: after)) : InOrder (before ++ [call]) := by
  have hsub : (before ++ [call]).Sublist (before ++ call :: after) :=
    (List.singleton_sublist.mpr List.mem_cons_self).append_left before
  exact h.sublist (hsub.filterMap Call.instant?)

/-- Dropping what has expired is unobservable. Over calls in order of time every read is answered as by
the table that drops nothing, which is the value last put under the key and not removed since, for as long
as its time has not passed. -/
theorem purging_unobservable (hordered : InOrder calls) :
    answers Call.enter [] calls = answers Call.keep [] calls ∧
      ∀ before key now after, calls = before ++ .get key now :: after → ∀ value,
        Counters.get? (before.foldl Call.enter []) key now = some value ↔
          ∃ earlier ttl set later, before = earlier ++ .put key value ttl set :: later ∧
            (∀ call ∈ later, call.written? ≠ some key) ∧ now < set.after ttl := by
  refine ⟨answers_eq hordered, ?_⟩
  rintro before key now after rfl value
  have hread := Option.some.inj (answer?_foldl hordered.upTo)
  rw [hread, get?_eq_some_iff]
  constructor
  · rintro ⟨counter, hrow, hnow, rfl⟩
    obtain ⟨earlier, value, ttl, set, later, hbefore, hlater, rfl⟩ := get?_foldl_keep_iff.mp hrow
    exact ⟨earlier, ttl, set, later, hbefore, hlater, hnow⟩
  · rintro ⟨earlier, ttl, set, later, hbefore, hlater, hnow⟩
    exact ⟨⟨value, set.after ttl⟩,
      get?_foldl_keep_iff.mpr ⟨earlier, value, ttl, set, later, hbefore, hlater, rfl⟩, hnow, rfl⟩

/-- Two counters, the second forgotten at once and dropped by the write of a third that is never forgotten
before the end of all time. -/
def trialCalls : List Call :=
  [.put "a" 1 (.ofSeconds 10) (.ofSeconds 0), .put "b" 2 .zero (.ofSeconds 5), .get "a" (.ofSeconds 9),
    .get "b" (.ofSeconds 9), .put "c" 3 ⟨18446744073709551616⟩ (.ofSeconds 10), .get "a" (.ofSeconds 10),
    .remove "b", .get "c" (.ofMs 9223372036854775806), .get "c" (.ofMs 9223372036854775807)]

theorem purging_unobservable_trial :
    InOrder trialCalls ∧ trialCalls.foldl Call.enter [] ≠ trialCalls.foldl Call.keep [] ∧
      answers Call.keep [] trialCalls = [some 1, none, none, some 3, none] ∧
      answers Call.enter [] trialCalls = answers Call.keep [] trialCalls :=
  have hordered : InOrder trialCalls := by decide +kernel
  ⟨hordered, by decide +kernel, by decide +kernel, (purging_unobservable hordered).1⟩

end SessionBroker.Counters
