import SessionBroker.Json.Decode

/-!
# States of a user service

A user service is prepared, used and removed again. Its guest system has a state of its own, and the
cache level says whether it waits in one of the caches or belongs to a user.
-/

namespace SessionBroker

inductive ServiceState
  | preparing | usable | removable | removing | removed | canceling | canceled | error
deriving DecidableEq, Repr

namespace ServiceState

def all : List ServiceState :=
  [.preparing, .usable, .removable, .removing, .removed, .canceling, .canceled, .error]

def name : ServiceState → String
  | .preparing => "PREPARING"
  | .usable => "USABLE"
  | .removable => "REMOVABLE"
  | .removing => "REMOVING"
  | .removed => "REMOVED"
  | .canceling => "CANCELING"
  | .canceled => "CANCELED"
  | .error => "ERROR"

/-- Final states never change again. -/
def isTerminal : ServiceState → Bool
  | .removed | .canceled => true
  | _ => false

/-- States in which an actor may bind to the service. -/
def isValid : ServiceState → Bool
  | .usable | .preparing => true
  | _ => false

end ServiceState

instance : FromJson ServiceState := ⟨Json.decodeVariant (ServiceState.all.map fun s => (s.name, s))⟩
instance : ToJson ServiceState := ⟨fun s => .str s.name⟩

/-- Whether the guest system has come up. -/
inductive OsState
  | preparing | usable
deriving DecidableEq, Repr

def OsState.name : OsState → String
  | .preparing => "PREPARING"
  | .usable => "USABLE"

instance : FromJson OsState := ⟨Json.decodeVariant [("PREPARING", .preparing), ("USABLE", .usable)]⟩
instance : ToJson OsState := ⟨fun s => .str s.name⟩

/-- Where a service is kept. Only an assigned one can carry a user. -/
inductive CacheLevel
  | assigned | l1 | l2
deriving DecidableEq, Repr

namespace CacheLevel

def number : CacheLevel → Nat
  | .assigned => 0
  | .l1 => 1
  | .l2 => 2

def name : CacheLevel → String
  | .assigned => "Assigned"
  | .l1 => "L1"
  | .l2 => "L2"

/-- Numbers that are no level count as the first cache. -/
def ofNumber : Int → CacheLevel
  | 0 => .assigned
  | 2 => .l2
  | _ => .l1

end CacheLevel

instance : FromJson CacheLevel :=
  ⟨Json.decodeVariant [("Assigned", .assigned), ("L1", .l1), ("L2", .l2)]⟩
instance : ToJson CacheLevel := ⟨fun l => .str l.name⟩

/-- Why an operation on a user service was refused or failed. -/
inductive UserServiceError
  | illegalTransition (source target : ServiceState)
  | terminal (state : ServiceState)
  | notAssignable
  | provider (reason : String)
deriving DecidableEq, Repr

def UserServiceError.kind : UserServiceError → String
  | .illegalTransition .. => "IllegalTransition"
  | .terminal _ => "Terminal"
  | .notAssignable => "NotAssignable"
  | .provider _ => "Provider"

def UserServiceError.message : UserServiceError → String
  | .illegalTransition source target => "Cannot move from " ++ source.name ++ " to " ++ target.name ++ "."
  | .terminal state => "The user service is in the final state " ++ state.name ++ "."
  | .notAssignable => "Only services on cache level 0 can be assigned to a user."
  | .provider reason => "The provider failed: " ++ reason

end SessionBroker
