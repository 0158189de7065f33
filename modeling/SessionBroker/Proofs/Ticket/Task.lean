import SessionBroker.Ticket.Store

/-!
# Tasks of the ticket store

A task is one operation of the ticket store with what it is about, and the random draws that it needs.
-/

namespace SessionBroker.Ticket

inductive Task
  | create (draws : TicketDraws) (payload : Json) (validator : Option TicketValidator)
      (validity : Option Duration) (owner : Option String) (secure : Bool) (now : Instant)
  | fetch (id : String) (invalidate : Bool) (owner : Option String) (secure : Bool) (now : Instant)
  | update (nonce : Bytes) (id : String) (owner : Option String) (secure : Bool) (check : Json → Bool)
      (fields : Dict Json)
  | revalidate (id : String) (validity : Option Duration) (owner : Option String) (now : Instant)
  | createForTunnel (draws : TicketDraws) (ticket : TunnelTicket) (validity : Option Duration)
      (now : Instant)
  | fetchForTunnel (handle : String) (now : Instant)
  | cleanup (now : Instant)

/-- The tickets after a task, whatever came of it. -/
def Task.perform {σ : Type} (repository : Repository σ) (cipher : Cipher) (config : TicketConfig)
    (tickets : σ) : Task → σ
  | create draws payload validator validity owner secure now =>
    (Ticket.create repository cipher config draws payload validator validity owner secure now tickets).2
  | fetch id invalidate owner secure now =>
    (Ticket.fetch repository cipher id invalidate owner secure now tickets).2
  | update nonce id owner secure check fields =>
    (Ticket.update repository cipher nonce id owner secure check fields tickets).2
  | revalidate id validity owner now =>
    (Ticket.revalidate repository id validity owner now tickets).2
  | createForTunnel draws ticket validity now =>
    (Ticket.createForTunnel repository cipher config draws ticket validity now tickets).2
  | fetchForTunnel handle now => (Ticket.fetchForTunnel repository cipher handle now tickets).2
  | cleanup now => (Ticket.cleanup repository config now tickets).2

end SessionBroker.Ticket
