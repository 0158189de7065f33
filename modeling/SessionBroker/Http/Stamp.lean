import SessionBroker.Time.Instant

/-!
# Response stamps

Responses carry stamps that increase strictly and are never behind the clock. The last stamp is shared
by all calls, so a call first loads it and then exchanges it for the next one, unless another call was
faster; in that case it tries again with what that call has left.
-/

namespace SessionBroker

/-- The stamp after another. -/
def nextStamp (now : Instant) (current : Int) : Int := max now.ms (current + 1)

/-- How far a call has come on its way to a stamp. -/
inductive StampCall
  | start (now : Instant)
  | loaded (now : Instant) (current : Int)
  | done (stamp : Int)
deriving DecidableEq, Repr

namespace StampCall

/-- One step of a call on the shared stamp: the load, or one attempt to exchange. The attempt fails
where the stamp is not the loaded one any more, and it may fail without a reason. -/
def step (spurious : Bool) (shared : Int) : StampCall → StampCall × Int
  | .start now => (.loaded now shared, shared)
  | .loaded now current =>
    if !spurious && shared = current then (.done (nextStamp now current), nextStamp now current)
    else (.loaded now shared, shared)
  | .done stamp => (.done stamp, shared)

end StampCall

end SessionBroker
