import SessionBroker.Json.Decode

/-!
# How long tickets are kept

A ticket is valid for a time of its own. The sweep removes it some time after it has expired, and in
any case when it has grown too old.
-/

namespace SessionBroker

structure TicketConfig where
  defaultValidity : Duration
  /-- Tickets older than this are removed whatever their validity. -/
  maxValidity : Duration
  /-- How long an expired ticket is still kept. -/
  grace : Duration
  tunnelValidity : Duration
  cleanupInterval : Duration
deriving DecidableEq, Repr

namespace TicketConfig

def standard : TicketConfig where
  defaultValidity := .ofSeconds 60
  maxValidity := .ofSeconds 604800
  grace := .ofSeconds 600
  tunnelValidity := .ofSeconds 604800
  cleanupInterval := .ofSeconds 60

def reader : RecordReader TicketConfig :=
  TicketConfig.mk <$> .defaulted "default_validity" standard.defaultValidity
    <*> .defaulted "max_validity" standard.maxValidity <*> .defaulted "grace" standard.grace
    <*> .defaulted "tunnel_validity" standard.tunnelValidity
    <*> .defaulted "cleanup_interval" standard.cleanupInterval

instance : FromJson TicketConfig := ⟨reader.read "TicketConfig"⟩
instance : ToJson TicketConfig := ⟨fun c => Json.object
  [("default_validity", toJson c.defaultValidity), ("max_validity", toJson c.maxValidity),
    ("grace", toJson c.grace), ("tunnel_validity", toJson c.tunnelValidity),
    ("cleanup_interval", toJson c.cleanupInterval)]⟩

end TicketConfig

end SessionBroker
