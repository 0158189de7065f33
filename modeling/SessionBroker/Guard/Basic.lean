import SessionBroker.Guard.Counters
import SessionBroker.Json.Decode

/-!
# The guard against guessing

The guard counts failures by source address. A source with too many of them inside the window is
blocked; every further failure starts the window again.
-/

namespace SessionBroker

structure GuardConfig where
  enabled : Bool
  allowedFails : Nat
  /-- How long a failure is remembered. -/
  blockWindow : Duration
  /-- How long a blocked request is held before it is refused. -/
  blockDelay : Duration
deriving DecidableEq, Repr

namespace GuardConfig

def standard : GuardConfig := ⟨true, 5, .ofSeconds 300, .ofSeconds 3⟩

def reader : RecordReader GuardConfig :=
  GuardConfig.mk <$> .defaulted "enabled" standard.enabled
    <*> .defaultedWith "allowed_fails" Json.decodeU64 standard.allowedFails
    <*> .defaulted "block_window" standard.blockWindow <*> .defaulted "block_delay" standard.blockDelay

instance : FromJson GuardConfig := ⟨reader.read "GuardConfig"⟩
instance : ToJson GuardConfig := ⟨fun c => Json.object
  [("enabled", toJson c.enabled), ("allowed_fails", toJson c.allowedFails),
    ("block_window", toJson c.blockWindow), ("block_delay", toJson c.blockDelay)]⟩

end GuardConfig

namespace Guard

/-- The failures of a source that are still remembered. -/
def failures (counters : Counters) (source : String) (now : Instant) : Nat :=
  (counters.get? source now).getD 0

def isBlocked (config : GuardConfig) (counters : Counters) (source : String) (now : Instant) : Bool :=
  config.enabled && config.allowedFails ≤ failures counters source now

def recordFailure (config : GuardConfig) (counters : Counters) (source : String) (now : Instant) :
    Counters :=
  counters.put source (failures counters source now + 1) config.blockWindow now

def clear (counters : Counters) (source : String) : Counters := counters.remove source

end Guard

end SessionBroker
