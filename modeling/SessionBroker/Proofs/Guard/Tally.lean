import SessionBroker.Proofs.Guard.Counters

/-!
# Tallies

The count of a source is a matter of its own calls alone: of when they were made, and of what came of them.
A tally counts them without the guard: it is the last count that was recorded and the instant of the record.
Whatever the calls of other sources do to the counters, the guard has the tally of every source.
-/

namespace SessionBroker.Guard

/-- What an outcome is for the count of the source. -/
inductive Verdict
  | counts | clears | leaves
deriving DecidableEq, Repr

/-- The counters after a verdict on a call. -/
def Verdict.enter (v : Verdict) (config : GuardConfig) (source : String) (now : Instant)
    (counters : Counters) : Counters :=
  match v with
  | .counts => recordFailure config counters source now
  | .clears => clear counters source
  | .leaves => counters

/-- A call as far as it concerns the guard. -/
structure Entry where
  source : String
  now : Instant
  /-- The guard has a say in the call. -/
  guarded : Bool
  /-- What carrying out the call comes to. -/
  verdict : Verdict
deriving DecidableEq, Repr

/-- What becomes of the count. The call of a blocked source is not carried out, and adds to it. -/
def Entry.effect (config : GuardConfig) (count : Nat) (e : Entry) : Verdict :=
  if !e.guarded then .leaves
  else if config.enabled && config.allowedFails ≤ count then .counts
  else e.verdict

/-- The counters after a call. -/
def Entry.enter (config : GuardConfig) (counters : Counters) (e : Entry) : Counters :=
  (e.effect config (failures counters e.source e.now)).enter config e.source e.now counters

/-- The count of a source as it was recorded last, and when. -/
abbrev Tally := Option (Nat × Instant)

/-- A record is forgotten once the window has passed. -/
def Tally.count (window : Duration) (now : Instant) : Tally → Nat
  | none => 0
  | some (n, recorded) => if now < recorded.after window then n else 0

/-- The tally after one more call of the source. -/
def Tally.enter (config : GuardConfig) (tally : Tally) (e : Entry) : Tally :=
  let count := tally.count config.blockWindow e.now
  match e.effect config count with
  | .counts => some (count + 1, e.now)
  | .clears => none
  | .leaves => tally

/-- The tally of a source over all calls, of which only its own matter. -/
def tallyOf (config : GuardConfig) (source : String) (entries : List Entry) : Tally :=
  (entries.filter (·.source = source)).foldl (Tally.enter config) none

variable {config : GuardConfig} {counters : Counters} {entries : List Entry}

theorem tallyOf_append (source : String) (e : Entry) : tallyOf config source (entries ++ [e]) =
    if e.source = source then (tallyOf config source entries).enter config e
    else tallyOf config source entries := by
  unfold tallyOf
  by_cases h : e.source = source <;> simp [List.filter_append, h]

/-- The guard has the tally of every source, as long as nobody asks for the past. -/
structure Tallied (config : GuardConfig) (entries : List Entry) (counters : Counters) : Prop where
  distinct : Table.KeysNodup counters
  count : ∀ source now, (∀ e ∈ entries, e.now ≤ now) →
    failures counters source now = (tallyOf config source entries).count config.blockWindow now

theorem Tallied.nil : Tallied config [] [] where
  distinct := List.nodup_nil
  count _ _ _ := rfl

theorem Entry.enter_distinct (h : Table.KeysNodup counters) (e : Entry) :
    Table.KeysNodup (e.enter config counters) := by
  unfold Entry.enter Verdict.enter
  split
  · exact Counters.keysNodup_put h _ _
  · exact Counters.keysNodup_remove h
  · exact h

/-- A call leaves the count of other sources alone. -/
theorem Entry.failures_enter_other (h : Table.KeysNodup counters) {e : Entry} {source : String}
    (hsource : e.source ≠ source) {now : Instant} (hnow : e.now ≤ now) :
    failures (e.enter config counters) source now = failures counters source now := by
  unfold Entry.enter Verdict.enter
  split
  · rw [failures_recordFailure h hnow, if_neg hsource]
  · rw [failures_clear, if_neg hsource]
  · rfl

/-- A call changes the count of its source as it changes the tally. -/
theorem Entry.failures_enter (h : Tallied config entries counters) {e : Entry}
    (later : ∀ before ∈ entries, before.now ≤ e.now) {now : Instant} (hnow : e.now ≤ now) :
    failures (e.enter config counters) e.source now =
      ((tallyOf config e.source entries).enter config e).count config.blockWindow now := by
  -- The count that the guard looks up is the one that the tally gives, so both take the same branch.
  have hcount := h.count e.source e.now later
  unfold Entry.enter Tally.enter
  rw [← hcount]
  dsimp only
  cases e.effect config (failures counters e.source e.now) with
  | counts =>
    change failures (recordFailure config counters e.source e.now) e.source now = _
    rw [failures_recordFailure h.distinct hnow, if_pos rfl]
    rfl
  | clears =>
    change failures (clear counters e.source) e.source now = _
    rw [failures_clear, if_pos rfl]
    rfl
  | leaves =>
    have hlater : ∀ before ∈ entries, before.now ≤ now :=
      fun before hb => Int.le_trans (later before hb) hnow
    exact h.count e.source now hlater

theorem Tallied.enter (h : Tallied config entries counters) {e : Entry}
    (later : ∀ before ∈ entries, before.now ≤ e.now) :
    Tallied config (entries ++ [e]) (e.enter config counters) where
  distinct := e.enter_distinct h.distinct
  count source now hnow := by
    have he : e.now ≤ now := hnow e (List.mem_append_right _ List.mem_cons_self)
    have hlater : ∀ before ∈ entries, before.now ≤ now :=
      fun before hb => hnow before (List.mem_append_left _ hb)
    rw [tallyOf_append]
    split
    · next hsource =>
      subst hsource
      exact e.failures_enter h later he
    · next hsource =>
      rw [e.failures_enter_other h.distinct hsource he]
      exact h.count source now hlater

end SessionBroker.Guard
