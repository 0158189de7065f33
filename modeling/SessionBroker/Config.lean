import SessionBroker.Guard.Basic
import SessionBroker.Net.Address
import SessionBroker.Restraint
import SessionBroker.Ticket.Config
import SessionBroker.Toml.Reader

/-!
# Configuration

Every part of the configuration has standard values. It is read from JSON, where an array may stand for
a record, or from a TOML text, where such an array may also be longer than the record.
-/

namespace SessionBroker

/-- A bearer token that makes its holder staff. -/
structure StaffToken where
  token : String
  name : String
deriving DecidableEq, Repr

namespace StaffToken

def reader : RecordReader StaffToken := StaffToken.mk <$> .required "token" <*> .required "name"

instance : FromJson StaffToken := ⟨reader.read "StaffToken"⟩
instance : ToJson StaffToken := ⟨fun t => Json.object
  [("token", toJson t.token), ("name", toJson t.name)]⟩

end StaffToken

structure ServerConfig where
  listen : String
  /-- The ciphers that actors are told to use. -/
  secureCiphers : Option String
  version : String
  /-- Tokens for calls that only staff may make. -/
  staff : List StaffToken
  /-- Peers that may name another source for a call than themselves. -/
  trustedProxies : List IpAddr
deriving DecidableEq, Repr

/-- The version of the broker. -/
def brokerVersion : String := "0.1.0"

/-- Where an array stands for a record, only as many items as the record has fields. -/
def RecordReader.cut {ρ : Type} (r : RecordReader ρ) : Json → Json
  | .arr items => .arr (items.take r.checks.length)
  | other => other

/-- A reader that may ignore what an array has too much. -/
def RecordReader.readFrom {ρ : Type} (r : RecordReader ρ) (cutting : Bool) (name : String) (j : Json) :
    Decoded ρ :=
  r.read name (if cutting then r.cut j else j)

namespace ServerConfig

def standard : ServerConfig := ⟨"0.0.0.0:8000", none, brokerVersion, [], []⟩

def readStaff (cutting : Bool) : Json → Decoded (List StaffToken)
  | .arr items => items.mapM (StaffToken.reader.readFrom cutting "StaffToken")
  | other => .error (.invalidType other.describe "a sequence")

def reader (cutting : Bool) : RecordReader ServerConfig :=
  ServerConfig.mk <$> .defaulted "listen" standard.listen
    <*> .defaulted "secure_ciphers" standard.secureCiphers <*> .defaulted "version" standard.version
    <*> .defaultedWith "staff" (readStaff cutting) standard.staff
    <*> .defaulted "trusted_proxies" standard.trustedProxies

instance : FromJson ServerConfig := ⟨(reader false).read "ServerConfig"⟩
instance : ToJson ServerConfig := ⟨fun c => Json.object
  [("listen", toJson c.listen), ("secure_ciphers", toJson c.secureCiphers),
    ("version", toJson c.version), ("staff", toJson c.staff),
    ("trusted_proxies", toJson c.trustedProxies)]⟩

end ServerConfig

structure BrokerConfig where
  guard : GuardConfig
  tickets : TicketConfig
  restraint : RestraintPolicy
  server : ServerConfig
deriving DecidableEq, Repr

namespace BrokerConfig

def standard : BrokerConfig := ⟨.standard, .standard, .standard, .standard⟩

def reader (cutting : Bool) : RecordReader BrokerConfig :=
  BrokerConfig.mk
    <$> .defaultedWith "guard" (GuardConfig.reader.readFrom cutting "GuardConfig") .standard
    <*> .defaultedWith "tickets" (TicketConfig.reader.readFrom cutting "TicketConfig") .standard
    <*> .defaultedWith "restraint" (RestraintPolicy.reader.readFrom cutting "RestraintPolicy") .standard
    <*> .defaultedWith "server" ((ServerConfig.reader cutting).readFrom cutting "ServerConfig") .standard

instance : FromJson BrokerConfig := ⟨(reader false).read "BrokerConfig"⟩
instance : ToJson BrokerConfig := ⟨fun c => Json.object
  [("guard", toJson c.guard), ("tickets", toJson c.tickets), ("restraint", toJson c.restraint),
    ("server", toJson c.server)]⟩

/-- The configuration that a TOML text denotes. -/
def ofToml? (text : String) : Option BrokerConfig := do
  let table ← Toml.parse? text
  ((reader true).read "BrokerConfig" table).toOption

end BrokerConfig

end SessionBroker
