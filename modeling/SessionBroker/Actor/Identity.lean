import SessionBroker.Json.Decode
import SessionBroker.Text.Case

/-!
# Actors and their machines

An actor reports the network interfaces of its machine; a registered actor has an identity, which is
kept under the MAC that it registered with. The ids under which a machine may be known are drawn from
its interfaces by `candidateIds`, and `foldCases` adds the other letter case of each.
-/

namespace SessionBroker

/-- How an actor is bound to the broker. -/
inductive ActorKind
  | managed | unmanaged
deriving DecidableEq, Repr

instance : FromJson ActorKind :=
  ⟨Json.decodeVariant [("managed", .managed), ("unmanaged", .unmanaged)]⟩
instance : ToJson ActorKind := ⟨fun
  | .managed => .str "managed"
  | .unmanaged => .str "unmanaged"⟩

/-- One network interface reported by an actor. -/
structure IdEntry where
  mac : String
  ip : String
deriving DecidableEq, Repr

namespace IdEntry

def reader : RecordReader IdEntry :=
  IdEntry.mk <$> .defaulted "mac" "" <*> .defaulted "ip" ""

instance : FromJson IdEntry := ⟨reader.read "IdEntry"⟩
instance : ToJson IdEntry := ⟨fun e => Json.object [("mac", toJson e.mac), ("ip", toJson e.ip)]⟩

end IdEntry

/-- All reported ips, then the macs of the first ten interfaces. Empty ids name nothing. -/
def candidateIds (entries : List IdEntry) : List String :=
  (entries.map IdEntry.ip ++ (entries.take 10).map IdEntry.mac).filter (· ≠ "")

/-- Adds a text to a strictly increasing list. -/
def insertId (id : String) : List String → List String
  | [] => [id]
  | x :: rest =>
    if id < x then id :: x :: rest
    else if id = x then x :: rest
    else x :: insertId id rest

/-- Both letter cases of every id, since unique ids may be stored either way. The result increases
strictly. -/
def foldCases (ids : List String) : List String :=
  ids.foldl (fun found id => insertId (Case.lower id) (insertId (Case.upper id) found)) []

/-- Commands that a registered actor runs on its side. -/
structure ActorCommands where
  preCommand : String
  postCommand : String
  runOnceCommand : String
  custom : Json
deriving Repr

namespace ActorCommands

def empty : ActorCommands := ⟨"", "", "", .null⟩

def reader : RecordReader ActorCommands :=
  ActorCommands.mk <$> .required "pre_command" <*> .required "post_command"
    <*> .required "run_once_command" <*> .required "custom"

instance : FromJson ActorCommands := ⟨reader.read "ActorCommands"⟩
instance : ToJson ActorCommands := ⟨fun c => Json.object
  [("pre_command", toJson c.preCommand), ("post_command", toJson c.postCommand),
    ("run_once_command", toJson c.runOnceCommand), ("custom", c.custom)]⟩

end ActorCommands

/-- A registered actor. -/
structure ActorIdentity where
  token : String
  mac : String
  ip : String
  ipFrom : String
  hostname : String
  logLevel : Int
  os : String
  subtype : String
  commands : ActorCommands
  username : String
  stamp : Instant
deriving Repr

namespace ActorIdentity

def reader : RecordReader ActorIdentity :=
  ActorIdentity.mk <$> .required "token" <*> .required "mac" <*> .required "ip" <*> .required "ip_from"
    <*> .required "hostname" <*> .requiredWith "log_level" Json.decodeI64 <*> .required "os"
    <*> .required "subtype" <*> .required "commands" <*> .required "username" <*> .required "stamp"

instance : FromJson ActorIdentity := ⟨reader.read "ActorIdentity"⟩

/-- The object form, with the instant written by the caller. -/
def toJsonWith (stamp : Instant → Json) (a : ActorIdentity) : Json := Json.object
  [("token", toJson a.token), ("mac", toJson a.mac), ("ip", toJson a.ip), ("ip_from", toJson a.ipFrom),
    ("hostname", toJson a.hostname), ("log_level", toJson a.logLevel), ("os", toJson a.os),
    ("subtype", toJson a.subtype), ("commands", toJson a.commands), ("username", toJson a.username),
    ("stamp", stamp a.stamp)]

instance : ToJson ActorIdentity := ⟨toJsonWith toJson⟩

end ActorIdentity

/-- A caller of administrative actions. -/
structure StaffUser where
  name : String
  isStaff : Bool
deriving DecidableEq, Repr

end SessionBroker
