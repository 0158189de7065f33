import SessionBroker.Proofs.Ticket.Envelope
import SessionBroker.Proofs.Ticket.Final

/-!
# The ticket store is a book of tickets

A book notes of each ticket its payload, its stamp, its validity and its validator. Whoever reads, writes and
revalidates tickets under the owner that they were created with gets the answers that the book gives, though the
store keeps bytes in envelopes, encrypts them anew with every update, and counts time in a range that ends.
-/

namespace SessionBroker

namespace Ticket

/-- A call of the ticket store that uses no ticket up. -/
inductive Call
  | create (draws : TicketDraws) (payload : Json) (validator : Option TicketValidator)
      (validity : Option Duration) (owner : Option String) (secure : Bool) (now : Instant)
  | get (id : String) (owner : Option String) (secure : Bool) (now : Instant)
  | update (nonce : Bytes) (id : String) (owner : Option String) (secure : Bool) (check : Json → Bool)
      (fields : Dict Json)
  | revalidate (id : String) (validity : Option Duration) (owner : Option String) (now : Instant)

inductive Answer
  | id (id : String)
  | payload (payload : Json)
  | done

/-- What the store in memory answers, and the tickets after that. -/
def Call.perform (cipher : Cipher) (config : TicketConfig) (t : TicketTable) :
    Call → Except TicketError Answer × TicketTable
  | create draws payload validator validity owner secure now =>
    ((Ticket.create memoryRepository cipher config draws payload validator validity owner secure now t).1.map .id,
      (Ticket.create memoryRepository cipher config draws payload validator validity owner secure now t).2)
  | get id owner secure now =>
    ((fetch memoryRepository cipher id false owner secure now t).1.map .payload,
      (fetch memoryRepository cipher id false owner secure now t).2)
  | update nonce id owner secure check fields =>
    ((Ticket.update memoryRepository cipher nonce id owner secure check fields t).1.map fun () => .done,
      (Ticket.update memoryRepository cipher nonce id owner secure check fields t).2)
  | revalidate id validity owner now =>
    ((Ticket.revalidate memoryRepository id validity owner now t).1.map fun () => .done,
      (Ticket.revalidate memoryRepository id validity owner now t).2)

/-! ## The book -/

/-- What is noted of a ticket. -/
structure Note where
  owner : Option String
  secure : Bool
  payload : Json
  stamp : Instant
  validity : Duration
  validator : Option TicketValidator

/-- The ticket has not expired, by a clock that does not end. -/
def Note.Valid (note : Note) (now : Instant) : Prop := now.ms ≤ note.stamp.ms + note.validity.ms

instance (note : Note) (now : Instant) : Decidable (note.Valid now) :=
  inferInstanceAs (Decidable (_ ≤ _))

/-- The notes by the ids of the tickets. -/
abbrev Book := String → Option Note

def Book.set (book : Book) (id : String) (note : Note) : Book :=
  fun other => if other = id then some note else book other

/-- How the store is used: ids are new and instants not before the epoch, a ticket is named with the owner and
the flag that it was created with and revalidated under the owner that it is stored with, its payloads can be
told exactly, and its key is one that the cipher works with. -/
def Call.Proper (cipher : Cipher) (book : Book) : Call → Prop
  | create draws payload _ _ owner secure now =>
    book draws.id = none ∧ 0 ≤ now.ms ∧ payload.Storable ∧ draws.nonce.length = cipher.nonceLength ∧
      ∀ key, owner = some key → secure = true → cipher.Recovers (Bytes.ofText key)
  | get id owner secure _ => ∀ note, book id = some note → owner = note.owner ∧ secure = note.secure
  | update nonce id owner secure check fields =>
    nonce.length = cipher.nonceLength ∧ ∀ note, book id = some note → owner = note.owner ∧
      secure = note.secure ∧ ∀ members, note.payload = .obj members → check (.obj members) = true →
        (Json.obj (merge members fields)).Storable
  | revalidate id _ owner now =>
    0 ≤ now.ms ∧ ∀ note, book id = some note → owner = persistedOwner note.owner note.secure

/-! ## The store by the book -/

/-- The record holds what is noted. -/
structure Held (cipher : Cipher) (id : String) (note : Note) (record : TicketRecord) : Prop where
  id_eq : record.id = id
  owner_eq : record.owner = persistedOwner note.owner note.secure
  stamp_eq : record.stamp = note.stamp
  validity_eq : record.validity = note.validity
  validator_eq : record.validator = note.validator
  revealed : reveal cipher record.data note.owner note.secure = .ok note.payload
  epoch_le : 0 ≤ note.stamp.ms
  keyed : note.secure = true → ∃ key, note.owner = some key ∧ cipher.Recovers (Bytes.ofText key)

/-- The store holds the tickets that are noted, and no others. -/
def Agrees (cipher : Cipher) (book : Book) (t : TicketTable) : Prop :=
  ∀ id, Option.Rel (Held cipher id) (book id) (t.get? id)

variable {cipher : Cipher} {config : TicketConfig} {book : Book} {t : TicketTable} {id : String} {note : Note}
  {record : TicketRecord} {owner : Option String} {secure : Bool} {now : Instant} {nonce : Bytes}
  {payload : Json}

theorem Agrees.empty : Agrees cipher (fun _ => none) [] := fun _ => .none

/-- A ticket is neither noted nor stored, or both. -/
theorem Agrees.cases (h : Agrees cipher book t) (id : String) : (book id = none ∧ t.get? id = none) ∨
    ∃ note record, book id = some note ∧ t.get? id = some record ∧ Held cipher id note record := by
  have hid := h id
  generalize book id = noted at hid ⊢
  generalize t.get? id = found at hid ⊢
  cases hid with
  | none => exact .inl ⟨rfl, rfl⟩
  | some hheld => exact .inr ⟨_, _, rfl, rfl, hheld⟩

theorem Agrees.set (h : Agrees cipher book t) (hheld : Held cipher id note record) :
    Agrees cipher (book.set id note) (t.put record.id record) := by
  intro other
  rw [Table.get?_put, hheld.id_eq, Book.set]
  by_cases hid : other = id
  · subst hid
    rw [if_pos rfl, if_pos rfl]
    exact .some hheld
  · rw [if_neg hid, if_neg (Ne.symm hid)]
    exact h other

/-- From the epoch on the range of instants does not matter for the end of a ticket. -/
theorem expires_lt_iff (h : 0 ≤ record.stamp.ms) :
    record.expires < now ↔ ¬ now.ms ≤ record.stamp.ms + record.validity.ms := by
  have hgreatest := now.le_greatest
  rw [Instant.lt_def, expires_ms]
  omega

theorem Held.owned (h : Held cipher id note record) : (note.secure && note.owner.isNone) = false := by
  cases hs : note.secure with
  | false => rfl
  | true =>
    obtain ⟨key, hkey, -⟩ := h.keyed hs
    rw [hkey]
    rfl

/-- A record is read as it is noted. -/
theorem Held.read_eq (h : Held cipher id note record) :
    read cipher (some record) note.owner note.secure now =
      if ¬ note.Valid now then .error (.invalidTicket "not valid anymore")
      else if note.validator.all (·.accepts note.payload) then .ok (record, note.payload)
      else .error (.invalidTicket "validation failed") := by
  have hexpires : record.expires < now ↔ ¬ note.Valid now := by
    rw [expires_lt_iff (h.stamp_eq ▸ h.epoch_le), h.stamp_eq, h.validity_eq]
    rfl
  by_cases hvalid : note.Valid now
  · rw [read_some h.owner_eq (fun hlt => hexpires.mp hlt hvalid), h.revealed, h.validator_eq,
      if_neg (not_not_intro hvalid)]
  · rw [read_expired h.owner_eq (hexpires.mpr hvalid), if_pos hvalid]

/-! ## One call -/

/-- The answers to calls one after the other, and the tickets after them. -/
def run (cipher : Cipher) (config : TicketConfig) :
    List Call → TicketTable → List (Except TicketError Answer) × TicketTable
  | [], t => ([], t)
  | call :: rest, t =>
    let (answers, after) := run cipher config rest (call.perform cipher config t).2
    ((call.perform cipher config t).1 :: answers, after)

end Ticket

end SessionBroker
