import SessionBroker.Guard.Basic
import SessionBroker.Proofs.Table

/-!
# What the guard remembers

A counter is read until it expires. Writing one drops the counters that have expired by then, which nobody
can tell who reads later: every source has the count that its own records have given it.
-/

namespace SessionBroker

namespace Counters

variable {counters : Counters} {key key' : String} {now later : Instant}

theorem get?_put_self (value : Nat) (ttl : Duration) :
    (counters.put key value ttl now).get? key later =
      if later < now.after ttl then some value else none := by
  unfold Counters.put Counters.get?
  rw [Table.get?_put, if_pos rfl]

theorem get?_put (h : Table.KeysNodup counters) (value : Nat) (ttl : Duration) (hlater : now ≤ later) :
    (counters.put key value ttl now).get? key' later =
      if key = key' then (if later < now.after ttl then some value else none)
      else counters.get? key' later := by
  by_cases hkey : key = key'
  · subst hkey
    rw [if_pos rfl, get?_put_self]
  · unfold Counters.put Counters.get?
    rw [Table.get?_put, if_neg hkey, if_neg hkey, Table.get?_filter h]
    cases hc : Table.get? key' counters with
    | none => rfl
    | some c =>
      by_cases hnow : now < c.expires
      · simp [Option.filter, hnow]
      · -- What the write drops has expired for every later reader.
        have hexpired : ¬ later < c.expires := by
          simp only [Instant.lt_def, Instant.le_def] at hnow hlater ⊢
          omega
        simp [Option.filter, hnow, hexpired]

theorem get?_remove : (counters.remove key).get? key' now =
    if key = key' then none else counters.get? key' now := by
  unfold remove Counters.get?
  rw [Table.get?_erase]
  by_cases hkey : key = key' <;> simp [hkey]

theorem keysNodup_put (h : Table.KeysNodup counters) (value : Nat) (ttl : Duration) :
    Table.KeysNodup (counters.put key value ttl now) :=
  (h.filter _).put key _

theorem keysNodup_remove (h : Table.KeysNodup counters) : Table.KeysNodup (counters.remove key) :=
  h.erase key

end Counters

namespace Guard

variable {config : GuardConfig} {counters : Counters} {source source' : String} {now later : Instant}

theorem failures_recordFailure_self : failures (recordFailure config counters source now) source later =
    if later < now.after config.blockWindow then failures counters source now + 1 else 0 := by
  unfold recordFailure
  rw [failures, Counters.get?_put_self]
  split <;> rfl

theorem failures_recordFailure (h : Table.KeysNodup counters) (hlater : now ≤ later) :
    failures (recordFailure config counters source now) source' later =
      if source = source' then
        (if later < now.after config.blockWindow then failures counters source now + 1 else 0)
      else failures counters source' later := by
  by_cases hsource : source = source'
  · subst hsource
    rw [if_pos rfl, failures_recordFailure_self]
  · unfold recordFailure
    rw [failures, Counters.get?_put h _ _ hlater, if_neg hsource, if_neg hsource]
    rfl

theorem failures_clear : failures (clear counters source) source' now =
    if source = source' then 0 else failures counters source' now := by
  unfold clear
  rw [failures, Counters.get?_remove]
  split <;> rfl

end Guard

end SessionBroker
