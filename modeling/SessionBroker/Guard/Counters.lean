import SessionBroker.Table
import SessionBroker.Time.Instant

/-!
# Counters that expire

A counter is remembered until the instant that was set when it was written. Writing any counter drops
those that have expired by then; nobody can tell, since reading ignores them too.
-/

namespace SessionBroker

/-- A value and the instant from which on it is forgotten. -/
structure Counter where
  value : Nat
  expires : Instant
deriving DecidableEq, Repr

/-- Counters by name. -/
abbrev Counters := Table String Counter

namespace Counters

def get? (counters : Counters) (key : String) (now : Instant) : Option Nat :=
  match Table.get? key counters with
  | some c => if now < c.expires then some c.value else none
  | none => none

def put (counters : Counters) (key : String) (value : Nat) (ttl : Duration) (now : Instant) : Counters :=
  Table.put key ⟨value, now.after ttl⟩ (counters.filter fun row => now < row.2.expires)

def remove (counters : Counters) (key : String) : Counters := Table.erase key counters

end Counters

end SessionBroker
