import SessionBroker.Crypto.Cipher
import SessionBroker.Table
import SessionBroker.Ticket.Config
import SessionBroker.Ticket.Record

/-!
# The ticket store

Tickets are short-lived handles to data that stays with the broker. The data of a secure ticket is
encrypted under its owner, who is not stored. Every operation on a ticket finds its record, decides what
is to become of it, and saves it at most once; the decisions are functions of the record, so the order of
the two messages to the repository is visible in one place.
-/

namespace SessionBroker

/-- Where ticket records are kept. -/
structure Repository (σ : Type) where
  find : String → StoreM σ (Option TicketRecord)
  /-- Inserts a record or replaces the one with the same id. -/
  save : TicketRecord → StoreM σ Unit
  /-- Drops the records that are not to be kept, and says how many. -/
  retain : (TicketRecord → Bool) → StoreM σ Nat

/-- Records by id. -/
abbrev TicketTable := Table String TicketRecord

/-- A repository in memory. -/
def memoryRepository : Repository TicketTable where
  find id := do return Table.get? id (← get)
  save record := modify (Table.put record.id record)
  retain keep := do
    let before ← get
    let kept := before.filter fun row => keep row.2
    set kept
    return before.length - kept.length

/-- The messages to a repository. -/
inductive RepositoryOperation
  | find | save | retain
deriving DecidableEq, Repr

/-- A repository some of whose operations are out of order. -/
def Repository.withFaults {σ : Type} (r : Repository σ) (fault : RepositoryOperation → Option String) :
    Repository σ where
  find id := StoreM.guarded (fault .find) (r.find id)
  save record := StoreM.guarded (fault .save) (r.save record)
  retain keep := StoreM.guarded (fault .retain) (r.retain keep)

/-- The random values that a new ticket needs. -/
structure TicketDraws where
  id : String
  /-- The key of a tunnel ticket. -/
  owner : String
  nonce : Bytes
deriving Repr

/-- An operation on tickets. -/
abbrev TicketM (σ α : Type) := ExceptT TicketError (StateM σ) α

namespace Ticket

/-- Stands in for the owner of a secure ticket. -/
def secured : String := "#SECURE#"

def idLength : Nat := 40

def tunnelOwnerLength : Nat := 8

/-- The owner that a ticket is stored with. -/
def persistedOwner (owner : Option String) (secure : Bool) : Option String :=
  if secure then some secured else owner

/-- The stored form of a payload. -/
def protect (cipher : Cipher) (nonce : Bytes) (owner : Option String) (secure : Bool) (payload : Json) :
    Except TicketError Bytes :=
  let plain := Envelope.encode payload
  if secure then match owner with
    | none => .error .missingOwner
    | some key => (cipher.encrypt (Bytes.ofText key) nonce plain).mapError .cipher
  else .ok plain

/-- The payload of a stored form. -/
def reveal (cipher : Cipher) (data : Bytes) (owner : Option String) (secure : Bool) :
    Except TicketError Json :=
  if secure then match owner with
    | none => .error .missingOwner
    | some key => match cipher.decrypt (Bytes.ofText key) data with
      | .ok plain => Envelope.decode plain
      | .error _ => .error (.invalidTicket "cannot decrypt")
  else Envelope.decode data

/-- The record of a new ticket. -/
def make (cipher : Cipher) (config : TicketConfig) (draws : TicketDraws) (payload : Json)
    (validator : Option TicketValidator) (validity : Option Duration) (owner : Option String)
    (secure : Bool) (now : Instant) : Except TicketError TicketRecord := do
  let data ← protect cipher draws.nonce owner secure payload
  return {
    id := draws.id
    owner := persistedOwner owner secure
    stamp := now
    validity := validity.getD config.defaultValidity
    data := data
    validator := validator }

/-- What reading a found record gives. The owner has to be the stored one, the ticket must not have
expired, and the validator has to accept the payload. -/
def read (cipher : Cipher) (found : Option TicketRecord) (owner : Option String) (secure : Bool)
    (now : Instant) : Except TicketError (TicketRecord × Json) :=
  match found.filter (fun r => r.owner = persistedOwner owner secure) with
  | none => .error (.invalidTicket "does not exist")
  | some record =>
    if record.expires < now then .error (.invalidTicket "not valid anymore")
    else do
      let payload ← reveal cipher record.data owner secure
      match record.validator with
      | some validator =>
        if validator.accepts payload then .ok (record, payload)
        else .error (.invalidTicket "validation failed")
      | none => .ok (record, payload)

/-- The record after a read that uses the ticket up: it expired a second ago. -/
def invalidated (record : TicketRecord) (now : Instant) : TicketRecord :=
  { record with stamp := (now.before record.validity).before (.ofSeconds 1) }

/-- The payload with the fields that are not null written over its own. -/
def merge (members : Dict Json) (fields : Dict Json) : Dict Json :=
  fields.foldl (fun m (key, value) => if value.isNull then m else Dict.insert key value m) members

/-- What an update makes of a found record. -/
def amended (cipher : Cipher) (nonce : Bytes) (record : TicketRecord) (owner : Option String)
    (secure : Bool) (check : Json → Bool) (fields : Dict Json) : Except TicketError TicketRecord := do
  let payload ← reveal cipher record.data owner secure
  if !check payload then .error (.invalidTicket "validation failed")
  else match payload with
    | .obj members =>
      let data ← protect cipher nonce owner secure (.obj (merge members fields))
      return { record with data := data }
    | _ => .error (.invalidTicket "payload is not a map")

/-- What a revalidation makes of a found record. A validity of zero leaves the old one. -/
def renewed (found : Option TicketRecord) (validity : Option Duration) (owner : Option String)
    (now : Instant) : Except TicketError TicketRecord :=
  match found.filter (fun r => r.owner = owner) with
  | none => .error (.invalidTicket "does not exist")
  | some record =>
    let validity := match validity with
      | some v => if v.isZero then record.validity else v
      | none => record.validity
    .ok { record with stamp := now, validity := validity }

/-- The sweep keeps a ticket for some time after it has expired, unless it has grown too old. -/
def outlives (config : TicketConfig) (now : Instant) (record : TicketRecord) : Bool :=
  now ≤ record.expires.after config.grace && now.before config.maxValidity ≤ record.stamp

variable {σ : Type} (repository : Repository σ) (cipher : Cipher)

/-- A message to the repository. -/
def ask {α : Type} (m : StoreM σ α) : TicketM σ α := fun s =>
  let (a, s) := m s
  (a.mapError .store, s)

def create (config : TicketConfig) (draws : TicketDraws) (payload : Json)
    (validator : Option TicketValidator) (validity : Option Duration) (owner : Option String)
    (secure : Bool) (now : Instant) : TicketM σ String := do
  let record ← make cipher config draws payload validator validity owner secure now
  ask (repository.save record)
  return record.id

/-- Reads a ticket and, if wanted, uses it up. -/
def fetch (id : String) (invalidate : Bool) (owner : Option String) (secure : Bool) (now : Instant) :
    TicketM σ Json := do
  if secure && owner.isNone then throw .missingOwner
  let found ← ask (repository.find id)
  let (record, payload) ← read cipher found owner secure now
  if invalidate then ask (repository.save (invalidated record now))
  return payload

/-- Writes some fields of a payload anew, if it passes the check. A ticket that no longer exists is left
alone. -/
def update (nonce : Bytes) (id : String) (owner : Option String) (secure : Bool) (check : Json → Bool)
    (fields : Dict Json) : TicketM σ Unit := do
  match ← ask (repository.find id) with
  | none => return
  | some record =>
    let record ← amended cipher nonce record owner secure check fields
    ask (repository.save record)

/-- Starts the validity of a ticket anew. -/
def revalidate (id : String) (validity : Option Duration) (owner : Option String) (now : Instant) :
    TicketM σ Unit := do
  let record ← renewed (← ask (repository.find id)) validity owner now
  ask (repository.save record)

/-- Creates a secure ticket whose key travels at the end of the handle. -/
def createForTunnel (config : TicketConfig) (draws : TicketDraws) (ticket : TunnelTicket)
    (validity : Option Duration) (now : Instant) : TicketM σ String := do
  let validity := validity.getD config.tunnelValidity
  let id ← create repository cipher config draws (toJson ticket) none (some validity) (some draws.owner)
    true now
  return id ++ draws.owner

/-- A handle has 48 characters, all of them ASCII. -/
def isHandle (handle : String) : Bool :=
  handle.toList.all (·.toNat < 128) && handle.toList.length == idLength + tunnelOwnerLength

def fetchForTunnel (handle : String) (now : Instant) : TicketM σ TunnelTicket := do
  if !isHandle handle then
    throw (.invalidTicket ("invalid ticket format: " ++ Quoted.text handle))
  let id := String.ofList (handle.toList.take idLength)
  let owner := String.ofList (handle.toList.drop idLength)
  let payload ← fetch repository cipher id false (some owner) true now
  match (fromJson payload : Decoded TunnelTicket) with
  | .ok ticket => return ticket
  | .error e => throw (.invalidTicket e.message)

/-- Sweeps old tickets and says how many. -/
def cleanup (config : TicketConfig) (now : Instant) : TicketM σ Nat :=
  ask (repository.retain (outlives config now))

end Ticket

end SessionBroker
