/-!
# Instants and durations

All clocks of the broker count milliseconds. A `Duration` has no upper limit; an `Instant` is a
signed 64-bit count since the epoch, and shifting one stops at the ends of that range instead of
leaving it. The bounds are part of the type, so no later statement has to assume them. The time until a
deadline is a difference of two counts, which is exact as long as it fits the range itself.
-/

namespace SessionBroker

/-- A length of time in milliseconds. -/
structure Duration where
  ms : Nat
deriving DecidableEq, Repr, Inhabited

namespace Duration

def zero : Duration := ⟨0⟩

def ofSeconds (s : Nat) : Duration := ⟨s * 1000⟩

/-- Whole seconds, rounded down. -/
def seconds (d : Duration) : Nat := d.ms / 1000

def isZero (d : Duration) : Bool := d.ms == 0

end Duration

/-- A point in time in milliseconds since the epoch. -/
structure Instant where
  ms : Int
  least_le : -9223372036854775808 ≤ ms
  le_greatest : ms ≤ 9223372036854775807
deriving DecidableEq, Repr

namespace Instant

def least : Int := -9223372036854775808

def greatest : Int := 9223372036854775807

/-- The nearest instant to a count of milliseconds. -/
def ofMs (i : Int) : Instant :=
  if hl : i < -9223372036854775808 then ⟨-9223372036854775808, by decide, by decide⟩
  else if hg : 9223372036854775807 < i then ⟨9223372036854775807, by decide, by decide⟩
  else ⟨i, by omega, by omega⟩

def epoch : Instant := ofMs 0

instance : Inhabited Instant := ⟨epoch⟩

instance : LT Instant := ⟨fun a b => a.ms < b.ms⟩
instance : LE Instant := ⟨fun a b => a.ms ≤ b.ms⟩
instance (a b : Instant) : Decidable (a < b) := inferInstanceAs (Decidable (a.ms < b.ms))
instance (a b : Instant) : Decidable (a ≤ b) := inferInstanceAs (Decidable (a.ms ≤ b.ms))
instance : Ord Instant := ⟨fun a b => compare a.ms b.ms⟩

theorem lt_def {a b : Instant} : a < b ↔ a.ms < b.ms := Iff.rfl
theorem le_def {a b : Instant} : a ≤ b ↔ a.ms ≤ b.ms := Iff.rfl

theorem ofMs_of_bounds {i : Int} (hl : -9223372036854775808 ≤ i) (hg : i ≤ 9223372036854775807) :
    ofMs i = ⟨i, hl, hg⟩ := by
  unfold ofMs
  rw [dif_neg (by omega), dif_neg (by omega)]

@[simp] theorem ofMs_ms (t : Instant) : ofMs t.ms = t :=
  ofMs_of_bounds t.least_le t.le_greatest

theorem ofMs_ms_eq (i : Int) :
    (ofMs i).ms = if i < -9223372036854775808 then -9223372036854775808
      else if 9223372036854775807 < i then 9223372036854775807 else i := by
  unfold ofMs
  split
  · rfl
  · split <;> rfl

/-- Sums and differences of two instants stop at the ends of the range. -/
instance : Add Instant := ⟨fun a b => ofMs (a.ms + b.ms)⟩
instance : Sub Instant := ⟨fun a b => ofMs (a.ms - b.ms)⟩

/-- The instant that lies a duration after the epoch. -/
def ofDuration (d : Duration) : Instant := ofMs d.ms

def ofSeconds (s : Int) : Instant := ofMs (s * 1000)

/-- Whole seconds, rounded down also before the epoch. -/
def seconds (t : Instant) : Int := t.ms / 1000

/-- The instant shifted forwards. -/
def after (t : Instant) (d : Duration) : Instant := t + ofDuration d

/-- The instant shifted backwards. -/
def before (t : Instant) (d : Duration) : Instant := t - ofDuration d

theorem after_ms (t : Instant) (d : Duration) :
    (t.after d).ms = min (t.ms + min (d.ms : Int) 9223372036854775807) 9223372036854775807 := by
  have hl := t.least_le
  change (ofMs (t.ms + (ofMs d.ms).ms)).ms = _
  rw [ofMs_ms_eq, ofMs_ms_eq]
  omega

theorem before_ms (t : Instant) (d : Duration) :
    (t.before d).ms = max (t.ms - min (d.ms : Int) 9223372036854775807) (-9223372036854775808) := by
  have hg := t.le_greatest
  change (ofMs (t.ms - (ofMs d.ms).ms)).ms = _
  rw [ofMs_ms_eq, ofMs_ms_eq]
  omega

/-- How long until the deadline, zero once it has passed. The difference is one of 64-bit counts, and unlike a shift
it wraps around where it leaves their range. -/
def timeUntil (now deadline : Instant) : Duration := ⟨((deadline.ms - now.ms).bmod 18446744073709551616).toNat⟩

theorem timeUntil_ms {now deadline : Instant} (hl : -9223372036854775808 ≤ deadline.ms - now.ms)
    (hg : deadline.ms - now.ms ≤ 9223372036854775807) :
    (now.timeUntil deadline).ms = (deadline.ms - now.ms).toNat := by
  unfold timeUntil
  rw [Int.bmod_eq_of_le (by omega) (by omega)]

end Instant

end SessionBroker
