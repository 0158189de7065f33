import SessionBroker.Actor.Identity
import SessionBroker.LogEntry
import SessionBroker.Service
import SessionBroker.Ticket.Record
import SessionBroker.UserService.Basic

/-!
# Records as they are kept

Records are kept as JSON. An instant that has no written form cannot be kept, and neither can a record that holds
one.
-/

namespace SessionBroker

/-- A type whose values are kept. -/
class Kept (α : Type) where
  /-- The instants that a value holds, in the order in which they are written. -/
  instants : α → List Instant

/-- The JSON under which a value is kept. -/
def serialize {α : Type} [ToJson α] [Kept α] (a : α) : Except String Json :=
  if (Kept.instants a).all fun t => (Timestamp.text? t).isSome then .ok (toJson a)
  else .error "timestamp out of range"

instance : Kept Instant := ⟨fun t => [t]⟩

instance : Kept Session := ⟨fun s => s.start :: s.finish.toList⟩

instance : Kept UserService := ⟨fun u =>
  [u.stateDate, u.creationDate, u.inUseDate] ++ u.sessions.flatMap Kept.instants⟩

instance : Kept LogEntry := ⟨fun e => [e.stamp]⟩

instance : Kept ServicePool := ⟨fun p => p.deadline.toList⟩

instance : Kept ActorIdentity := ⟨fun a => [a.stamp]⟩

instance : Kept ServiceTokenAlias := ⟨fun _ => []⟩

instance : Kept TicketValidator := ⟨fun _ => []⟩

end SessionBroker
