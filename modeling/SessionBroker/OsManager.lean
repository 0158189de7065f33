import SessionBroker.UserService.Basic

/-!
# OS managers

A pool may have a manager for its guest systems. The manager is called when an actor is bound, when the
guest has come up, and when a user comes or goes, and may change the record of the user service each
time. Its policy also limits sessions.
-/

namespace SessionBroker

structure OsManager where
  /-- The orders for an actor that has just been bound. -/
  actorData : UserService → Json × UserService
  /-- Seconds without input that are tolerated. -/
  maxIdle : Option Nat
  ignoreDeadline : Bool
  isRemovableOnLogout : UserService → Bool
  toReady : UserService → UserService
  loggedIn : UserService → String → UserService
  loggedOut : UserService → String → UserService

/-- A fixed policy for the guests of a pool. -/
structure OsPolicy where
  removableOnLogout : Bool
  ignoreDeadline : Bool
  maxIdle : Option Nat
  /-- The name that a machine is given when its actor is bound. -/
  renameTo : Option String
deriving DecidableEq, Repr

namespace OsPolicy

def standard : OsPolicy := ⟨true, false, some 900, none⟩

/-- A manager that renames machines and otherwise leaves them alone. -/
def manager (p : OsPolicy) : OsManager where
  actorData u := match p.renameTo with
    | some name =>
      (Json.object [("action", .str "rename"), ("name", .str name)], { u with friendlyName := name })
    | none => (.obj [], u)
  maxIdle := p.maxIdle
  ignoreDeadline := p.ignoreDeadline
  isRemovableOnLogout _ := p.removableOnLogout
  toReady u := u
  loggedIn u _ := u
  loggedOut u _ := u

end OsPolicy

end SessionBroker
