import SessionBroker.Broker.Memory
import SessionBroker.Config
import SessionBroker.Crypto.Entropy
import SessionBroker.Executor.Basic

/-!
# Executors in memory

An executor over the broker's own state and a table of tickets, and the random values that its calls
need. Draws come in a fixed order, so that calls are functions of the source.
-/

namespace SessionBroker

def tokenLength : Nat := 40

def sessionIdLength : Nat := 16

/-- The bytes behind the password of a key. -/
def passwordBytes : Nat := 8

/-- The random values of one call. -/
def Draws.draw (e : Entropy) : Draws × Entropy :=
  let (token, e) := e.alphanumeric tokenLength
  let (session, e) := e.alphanumeric sessionIdLength
  let (password, e) := e.hexadecimal passwordBytes
  (⟨token, session, password⟩, e)

/-- The random values of one ticket. Ids of tickets have no upper case letters. -/
def TicketDraws.draw (cipher : Cipher) (e : Entropy) : TicketDraws × Entropy :=
  let (id, e) := e.alphanumeric Ticket.idLength
  let (owner, e) := e.alphanumeric Ticket.tunnelOwnerLength
  let (nonce, e) := e.bytes cipher.nonceLength
  (⟨id.toLower, owner, nonce⟩, e)

namespace Executor

def inMemory (config : BrokerConfig) (cipher : Cipher) (issuer : Issuer) :
    Executor Broker TicketTable where
  backend := Broker.backend
  repository := memoryRepository
  cipher := cipher
  issuer := issuer
  guard := config.guard
  tickets := config.tickets
  version := config.server.version
  ciphers := config.server.secureCiphers

/-- Nothing has happened yet. -/
def State.initial : State Broker TicketTable := ⟨Broker.empty, [], []⟩

end Executor

end SessionBroker
