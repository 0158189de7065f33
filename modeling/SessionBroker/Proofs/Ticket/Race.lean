import SessionBroker.Proofs.Ticket.Envelope
import SessionBroker.Proofs.Ticket.Final
import SessionBroker.Proofs.Ticket.Messages

/-!
# Two operations on one ticket at once

Reading a ticket up and updating it under a check are meant to be won by one caller only. That holds where one
operation is over before the other one begins: the second finds the ticket expired, or its check refuses what
the first has written. Where both look before either writes, nothing tells the second that it has lost, and both
succeed.
-/

namespace SessionBroker.Ticket

open Exchange (interleave)
open Turn (order)

variable {cipher : Cipher} {id : String} {record after : TicketRecord} {t : TicketTable}

/-! ## Reads that use the ticket up -/

/-- A read that uses the ticket up. -/
structure Reader where
  owner : Option String
  secure : Bool
  now : Instant

namespace Reader

variable (cipher id) (x y : Reader)

def fetching : Exchange Json := .fetching cipher id true x.owner x.secure x.now

/-- What comes of the read where nothing else happens. -/
def alone (t : TicketTable) : Except TicketError Json × TicketTable :=
  fetch memoryRepository cipher id true x.owner x.secure x.now t

theorem run_fetching : (x.fetching cipher id).run memoryRepository = x.alone cipher id :=
  Exchange.run_fetching ..

theorem single_fetching : Exchange.Single (x.fetching cipher id) :=
  Exchange.single_fetching cipher id true x.owner x.secure x.now

/-- The record can be read. -/
def CanRead (record : TicketRecord) : Prop :=
  (x.secure && x.owner.isNone) = false ∧ ∃ payload,
    read cipher (some record) x.owner x.secure x.now = .ok (record, payload)

variable {cipher id x}

theorem alone_of_canRead (hfound : t.get? id = some record) (h : x.CanRead cipher record) :
    (x.alone cipher id t).1.isOk ∧ (x.alone cipher id t).2 = t.put record.id (invalidated record x.now) := by
  obtain ⟨howner, payload, hread⟩ := h
  unfold alone
  rw [fetch_eq, howner, hfound, hread]
  exact ⟨rfl, rfl⟩

theorem alone_isOk_iff (hfound : t.get? id = some record) :
    (x.alone cipher id t).1.isOk ↔ x.CanRead cipher record := by
  refine ⟨fun h => ?_, fun h => (alone_of_canRead hfound h).1⟩
  unfold alone at h
  rw [fetch_eq, hfound] at h
  cases howner : x.secure && x.owner.isNone with
  | true =>
    rw [howner] at h
    cases h
  | false =>
    rw [howner] at h
    cases hread : read cipher (some record) x.owner x.secure x.now with
    | error e =>
      rw [hread] at h
      cases h
    | ok result =>
      obtain ⟨found, payload⟩ := result
      obtain ⟨hsame, -⟩ := read_ok_iff.mp hread
      cases hsame
      exact ⟨howner, payload, hread⟩

/-- A ticket that was used up can still be read by whoever could read it at an instant that is no later than
its new end. -/
theorem canRead_invalidated (hx : x.CanRead cipher record) :
    y.CanRead cipher (invalidated record x.now) ↔
      y.CanRead cipher record ∧ y.now ≤ (invalidated record x.now).expires := by
  obtain ⟨-, _, hread⟩ := hx
  obtain ⟨-, -, hvalid, -⟩ := read_ok_iff.mp hread
  have hshorter := invalidated_expires_le hvalid
  constructor
  · rintro ⟨howner, payload, h⟩
    obtain ⟨-, ho, he, hr, hv⟩ := read_ok_iff.mp h
    have hlate : y.now ≤ (invalidated record x.now).expires := Int.not_lt.mp he
    have hlate' : ¬ record.expires < y.now := Int.not_lt.mpr (Int.le_trans hlate hshorter)
    exact ⟨⟨howner, payload, read_ok_iff.mpr ⟨rfl, ho, hlate', hr, hv⟩⟩, hlate⟩
  · rintro ⟨⟨howner, payload, h⟩, hlate⟩
    obtain ⟨-, ho, -, hr, hv⟩ := read_ok_iff.mp h
    exact ⟨howner, payload, read_ok_iff.mpr ⟨rfl, ho, Int.not_lt.mpr hlate, hr, hv⟩⟩

/-- Two reads one after the other. -/
theorem alone_after_alone (ht : Sound t) (hfound : t.get? id = some record) :
    (x.alone cipher id t).1.isOk ∧ (y.alone cipher id (x.alone cipher id t).2).1.isOk ↔
      (x.alone cipher id t).1.isOk ∧ (y.alone cipher id t).1.isOk ∧
        y.now ≤ (invalidated record x.now).expires := by
  refine and_congr_right fun hok => ?_
  have hx := (alone_isOk_iff hfound).mp hok
  have hleft : (x.alone cipher id t).2.get? id = some (invalidated record x.now) := by
    rw [(alone_of_canRead hfound hx).2, Table.get?_put, if_pos (ht.id_of_get? hfound)]
  rw [alone_isOk_iff hleft, alone_isOk_iff hfound]
  exact canRead_invalidated y hx

end Reader

/-! ## Updates under a check -/

/-- An update under a check. -/
structure Writer where
  nonce : Bytes
  owner : Option String
  secure : Bool
  check : Json → Bool
  fields : Dict Json

namespace Writer

variable (cipher id) (x y : Writer)

def updating : Exchange Unit := .updating cipher x.nonce id x.owner x.secure x.check x.fields

def alone (t : TicketTable) : Except TicketError Unit × TicketTable :=
  update memoryRepository cipher x.nonce id x.owner x.secure x.check x.fields t

theorem run_updating : (x.updating cipher id).run memoryRepository = x.alone cipher id :=
  Exchange.run_updating ..

theorem single_updating : Exchange.Single (x.updating cipher id) :=
  Exchange.single_updating cipher x.nonce id x.owner x.secure x.check x.fields

def amended (record : TicketRecord) : Except TicketError TicketRecord :=
  Ticket.amended cipher x.nonce record x.owner x.secure x.check x.fields

/-- What the first update makes of the payload, the check of the second one does not accept. -/
def Excludes (record : TicketRecord) : Prop :=
  ∀ after, x.amended cipher record = .ok after →
    ∀ payload, reveal cipher after.data y.owner y.secure = .ok payload → y.check payload = false

variable {cipher id x y}

/-- A check that does not accept the payload with the first fields merged into it excludes the first update. -/
theorem excludes_of_refused (members : Dict Json) (howner : y.owner = x.owner) (hsecure : y.secure = x.secure)
    (hkey : x.secure = true → ∃ key, x.owner = some key ∧ cipher.Recovers (Bytes.ofText key))
    (hnonce : x.nonce.length = cipher.nonceLength)
    (hfound : reveal cipher record.data x.owner x.secure = .ok (.obj members))
    (hmerged : (Json.obj (merge members x.fields)).Storable)
    (hrefused : y.check (.obj (merge members x.fields)) = false) : x.Excludes cipher y record := by
  intro after hafter payload hpayload
  obtain ⟨members', data, hr, -, hprotect, rfl⟩ := amended_ok hafter
  cases hfound.symm.trans hr
  obtain ⟨data', hprotect', hreveal⟩ := protect_reveal hkey hnonce hmerged
  cases hprotect.symm.trans hprotect'
  rw [howner, hsecure, hreveal] at hpayload
  cases hpayload
  exact hrefused

theorem alone_some (hfound : t.get? id = some record) : x.alone cipher id t =
    match x.amended cipher record with
    | .error e => (.error e, t)
    | .ok after => (.ok (), t.put after.id after) := by
  unfold alone
  rw [update_eq, hfound]
  rfl

theorem alone_isOk_iff (hfound : t.get? id = some record) :
    (x.alone cipher id t).1.isOk ↔ (x.amended cipher record).isOk := by
  rw [alone_some hfound]
  cases x.amended cipher record <;> rfl

/-- Of two updates one after the other the second one fails. -/
theorem alone_after_alone (ht : Sound t) (hfound : t.get? id = some record)
    (h : x.Excludes cipher y record) :
    ¬ ((x.alone cipher id t).1.isOk ∧ (y.alone cipher id (x.alone cipher id t).2).1.isOk) := by
  rintro ⟨hx, hy⟩
  rw [alone_some hfound] at hx hy
  cases hafter : x.amended cipher record with
  | error e =>
    rw [hafter] at hx
    cases hx
  | ok after =>
    rw [hafter] at hy
    obtain ⟨_, _, -, -, -, rfl⟩ := amended_ok hafter
    rw [alone_isOk_iff (by rw [Table.get?_put, if_pos (ht.id_of_get? hfound)])] at hy
    cases hlost : y.amended cipher _ with
    | error e =>
      rw [hlost] at hy
      cases hy
    | ok last =>
      obtain ⟨members, _, hr, hcheck, -⟩ := amended_ok hlost
      rw [h _ hafter _ hr] at hcheck
      cases hcheck

end Writer

/-! ## The race -/

/-- What two operations come to, one after the other in either order or at once, as conditions on the calls
alone. -/
theorem both_ok_iff {α : Type} {schedule : List Turn} {x y : Exchange α} {a b : Except TicketError α}
    {t' : TicketTable} (hx : Exchange.Single x) (hy : Exchange.Single y) (late early : Prop)
    (hleft : (x.run memoryRepository t).1.isOk ∧ (y.run memoryRepository (x.run memoryRepository t).2).1.isOk ↔
      (x.run memoryRepository t).1.isOk ∧ (y.run memoryRepository t).1.isOk ∧ late)
    (hright : (y.run memoryRepository t).1.isOk ∧
        (x.run memoryRepository (y.run memoryRepository t).2).1.isOk ↔
      (y.run memoryRepository t).1.isOk ∧ (x.run memoryRepository t).1.isOk ∧ early)
    (h : interleave memoryRepository schedule (x, y, t) = (.done a, .done b, t')) :
    a.isOk ∧ b.isOk ↔ (x.run memoryRepository t).1.isOk ∧ (y.run memoryRepository t).1.isOk ∧
      match order schedule with
      | .leftFirst => late
      | .rightFirst => early
      | .overlapping => True := by
  have outcomes := Exchange.interleave_outcomes hx hy h
  cases ho : order schedule with
  | leftFirst =>
    rw [ho] at outcomes
    obtain ⟨rfl, rfl⟩ := outcomes
    exact hleft
  | rightFirst =>
    rw [ho] at outcomes
    obtain ⟨rfl, rfl⟩ := outcomes
    rw [and_comm, hright]
    exact and_left_comm
  | overlapping =>
    rw [ho] at outcomes
    obtain ⟨rfl, rfl⟩ := outcomes
    simp only [and_true]

/-- Two reads that use the ticket up both succeed exactly if each of them would alone, and they overlap, or the
second comes at an instant at which even the ticket that was used up is valid. Two updates, each with a check
that refuses what the other one writes, both succeed exactly if each of them would alone and they overlap. -/
theorem race_unnoticed_iff (cipher : Cipher) {config : TicketConfig} {t : TicketTable}
    (ht : Reachable cipher config t) {id : String} {record : TicketRecord}
    (hfound : t.get? id = some record) (schedule : List Turn) :
    (∀ (x y : Reader) a b t', interleave memoryRepository schedule
        (x.fetching cipher id, y.fetching cipher id, t) = (.done a, .done b, t') →
      (a.isOk ∧ b.isOk ↔ (x.alone cipher id t).1.isOk ∧ (y.alone cipher id t).1.isOk ∧
        match order schedule with
        | .leftFirst => y.now ≤ (invalidated record x.now).expires
        | .rightFirst => x.now ≤ (invalidated record y.now).expires
        | .overlapping => True)) ∧
    (∀ (x y : Writer) a b t', x.Excludes cipher y record → y.Excludes cipher x record →
      interleave memoryRepository schedule (x.updating cipher id, y.updating cipher id, t) =
        (.done a, .done b, t') →
      (a.isOk ∧ b.isOk ↔ (x.alone cipher id t).1.isOk ∧ (y.alone cipher id t).1.isOk ∧
        order schedule = .overlapping)) := by
  constructor
  · intro x y a b t' h
    simp only [← Reader.run_fetching]
    refine both_ok_iff (x.single_fetching cipher id) (y.single_fetching cipher id) _ _ ?_ ?_ h
    · simpa only [Reader.run_fetching] using x.alone_after_alone y ht.sound hfound
    · simpa only [Reader.run_fetching] using y.alone_after_alone x ht.sound hfound
  · intro x y a b t' hxy hyx h
    simp only [← Writer.run_updating]
    rw [both_ok_iff (x.single_updating cipher id) (y.single_updating cipher id) False False ?_ ?_ h]
    · cases order schedule <;> simp
    · simpa only [Writer.run_updating, and_false, iff_false] using x.alone_after_alone ht.sound hfound hxy
    · simpa only [Writer.run_updating, and_false, iff_false] using y.alone_after_alone ht.sound hfound hyx

/-! ## A trial -/

/-- A ticket that holds a number and is valid for a hundred seconds. -/
def trialTicket : TicketRecord :=
  ⟨"a", none, .epoch, .ofSeconds 100, Envelope.encode (.obj [("n", .int 1)]), none⟩

def trialReader (seconds : Int) : Reader := ⟨none, false, .ofSeconds seconds⟩

/-- Writes another number, if the first one is still there. -/
def trialWriter (n : Int) : Writer :=
  ⟨[], none, false, (·.same (.obj [("n", .int 1)])), [("n", .int n)]⟩

/-- Two reads, the second one with an instant two seconds before that of the first, and two updates, each of
which wants to be the first: which of them both succeed is told without sending the messages. -/
theorem race_unnoticed_iff_trial :
    (∃ a b t', interleave memoryRepository [.left, .left, .right, .right]
        ((trialReader 52).fetching TaggedXor.cipher "a", (trialReader 50).fetching TaggedXor.cipher "a",
          [("a", trialTicket)]) = (.done a, .done b, t') ∧
      a.isOk ∧ b.isOk) ∧
    (∃ a b t', interleave memoryRepository [.left, .left, .right, .right]
        ((trialWriter 2).updating TaggedXor.cipher "a", (trialWriter 3).updating TaggedXor.cipher "a",
          [("a", trialTicket)]) = (.done a, .done b, t') ∧
      ¬ (a.isOk ∧ b.isOk)) := by
  have ht : Reachable TaggedXor.cipher .standard [("a", trialTicket)] := .save .start trialTicket
  have hfound : Table.get? "a" [("a", trialTicket)] = some trialTicket := rfl
  obtain ⟨readers, writers⟩ := race_unnoticed_iff TaggedXor.cipher ht hfound [.left, .left, .right, .right]
  have excludes (n m : Int) (hn : n = 2 ∨ n = 3) :
      (trialWriter n).Excludes TaggedXor.cipher (trialWriter m) trialTicket := by
    refine Writer.excludes_of_refused [("n", .int 1)] rfl rfl nofun rfl rfl ?_ ?_
    · exact ⟨⟨List.pairwise_singleton _ _, ⟨by omega, by omega⟩, trivial⟩, show 2 < 128 by decide⟩
    · rcases hn with rfl | rfl <;> rfl
  refine ⟨⟨.ok (.obj [("n", .int 1)]), .ok (.obj [("n", .int 1)]), _, rfl, ?_⟩,
    .ok (), .error (.invalidTicket "validation failed"), _, rfl, fun h => ?_⟩
  · have late : (trialReader 50).now ≤ (invalidated trialTicket (trialReader 52).now).expires := by decide
    exact (readers (trialReader 52) (trialReader 50) _ _ _ rfl).mpr ⟨rfl, rfl, late⟩
  · have overlap := (writers (trialWriter 2) (trialWriter 3) _ _ _ (excludes 2 3 (.inl rfl))
      (excludes 3 2 (.inr rfl)) rfl).mp h
    exact absurd overlap.2.2 (by decide)

/-- Two reads at one instant and two updates that overlap all succeed though one update is lost, and so do two
reads one after the other of which the second one comes with the earlier instant. -/
theorem lost_race_unnoticed :
    (∃ t', interleave memoryRepository [.left, .right, .left, .right]
      ((trialReader 52).fetching TaggedXor.cipher "a", (trialReader 52).fetching TaggedXor.cipher "a",
        [("a", trialTicket)]) =
        (.done (.ok (.obj [("n", .int 1)])), .done (.ok (.obj [("n", .int 1)])), t')) ∧
    (∃ t', interleave memoryRepository [.left, .left, .right, .right]
      ((trialReader 52).fetching TaggedXor.cipher "a", (trialReader 50).fetching TaggedXor.cipher "a",
        [("a", trialTicket)]) =
        (.done (.ok (.obj [("n", .int 1)])), .done (.ok (.obj [("n", .int 1)])), t')) ∧
    (∃ t', interleave memoryRepository [.left, .right, .left, .right]
      ((trialWriter 2).updating TaggedXor.cipher "a", (trialWriter 3).updating TaggedXor.cipher "a",
        [("a", trialTicket)]) = (.done (.ok ()), .done (.ok ()), t') ∧
      (fetch memoryRepository TaggedXor.cipher "a" false none false .epoch t').1 =
        .ok (.obj [("n", .int 3)])) :=
  ⟨⟨_, rfl⟩, ⟨_, rfl⟩, _, rfl, rfl⟩

end SessionBroker.Ticket
