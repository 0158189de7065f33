import SessionBroker.Json.Decode
import SessionBroker.Actor.Version

/-!
# Log entries

Actors send log messages for the user service that they run in. Levels are numbered in steps of
10000; actors before version 4.0.0 number them one step lower.
-/

namespace SessionBroker

inductive LogLevel
  | other | debug | info | warning | error | critical
deriving DecidableEq, Repr

namespace LogLevel

def name : LogLevel → String
  | .other => "Other"
  | .debug => "Debug"
  | .info => "Info"
  | .warning => "Warning"
  | .error => "Error"
  | .critical => "Critical"

def number : LogLevel → Nat
  | .other => 10000
  | .debug => 20000
  | .info => 30000
  | .warning => 40000
  | .error => 50000
  | .critical => 60000

def all : List LogLevel := [.other, .debug, .info, .warning, .error, .critical]

/-- Numbers that name no level count as `other`. -/
def ofNumber (value : Int) : LogLevel :=
  if value = 20000 then .debug
  else if value = 30000 then .info
  else if value = 40000 then .warning
  else if value = 50000 then .error
  else if value = 60000 then .critical
  else .other

/-- The level that an actor of the given version means. -/
def ofActor (value : Int) (version : String) : LogLevel :=
  if Version.lt version "4.0.0" then ofNumber (value + 10000) else ofNumber value

end LogLevel

instance : FromJson LogLevel := ⟨Json.decodeVariant (LogLevel.all.map fun l => (l.name, l))⟩
instance : ToJson LogLevel := ⟨fun l => .str l.name⟩

inductive LogSource
  | actor | internal
deriving DecidableEq, Repr

def LogSource.name : LogSource → String
  | .actor => "Actor"
  | .internal => "Internal"

instance : FromJson LogSource := ⟨Json.decodeVariant [("Actor", .actor), ("Internal", .internal)]⟩
instance : ToJson LogSource := ⟨fun s => .str s.name⟩

structure LogEntry where
  owner : Uuid
  level : LogLevel
  source : LogSource
  message : String
  stamp : Instant
deriving DecidableEq, Repr

namespace LogEntry

def reader : RecordReader LogEntry :=
  LogEntry.mk <$> .required "owner" <*> .required "level" <*> .required "source"
    <*> .required "message" <*> .required "stamp"

instance : FromJson LogEntry := ⟨reader.read "LogEntry"⟩
instance : ToJson LogEntry := ⟨fun e => Json.object
  [("owner", toJson e.owner), ("level", toJson e.level), ("source", toJson e.source),
    ("message", toJson e.message), ("stamp", toJson e.stamp)]⟩

end LogEntry

end SessionBroker
