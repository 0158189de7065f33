import SessionBroker.Proofs.Ticket.Reach

/-!
# A ticket that is used up stays so

A read that uses a ticket up moves its stamp so far back that the ticket has expired just before the read,
also where the range of instants ends on the way. Reads can only move the stamp back further, updates leave it
where it is, and a sweep at most removes the record; so only a revalidation, or another ticket under the same
id, could bring the ticket back.
-/

namespace SessionBroker.Ticket

variable {cipher : Cipher} {config : TicketConfig} {t t' : TicketTable} {task : Task} {id : String}
  {now : Instant}

/-! ## The stamp of a ticket that is used up -/

theorem expires_ms (record : TicketRecord) : record.expires.ms =
    min (record.stamp.ms + min (record.validity.ms : Int) 9223372036854775807) 9223372036854775807 :=
  Instant.after_ms record.stamp record.validity

theorem invalidated_stamp_ms (record : TicketRecord) (now : Instant) : (invalidated record now).stamp.ms =
    max (now.ms - min (record.validity.ms : Int) 9223372036854775807 - 1000) (-9223372036854775808) := by
  change ((now.before record.validity).before (.ofSeconds 1)).ms = _
  rw [Instant.before_ms, Instant.before_ms, show (Duration.ofSeconds 1).ms = 1000 from rfl]
  omega

/-- A read at the epoch or later leaves a ticket that has expired before it. -/
theorem invalidated_expires_lt (record : TicketRecord) (h : 0 ≤ now.ms) :
    (invalidated record now).expires < now := by
  have hstamp := invalidated_stamp_ms record now
  rw [Instant.lt_def, expires_ms, show (invalidated record now).validity = record.validity from rfl]
  omega

/-- A read does not make a ticket last longer than it did. -/
theorem invalidated_expires_le {record : TicketRecord} (h : ¬ record.expires < now) :
    (invalidated record now).expires ≤ record.expires := by
  have hstamp := invalidated_stamp_ms record now
  have hleast := record.stamp.least_le
  rw [Instant.lt_def, expires_ms] at h
  rw [Instant.le_def, expires_ms, expires_ms,
    show (invalidated record now).validity = record.validity from rfl]
  omega

/-! ## Tickets that are spent -/

/-- No ticket of that id can be read at the instant any more, nor later. -/
def Spent (id : String) (now : Instant) (t : TicketTable) : Prop :=
  ∀ record, t.get? id = some record → record.expires < now

theorem Spent.mono {later : Instant} (h : Spent id now t) (hlater : now ≤ later) : Spent id later t :=
  fun record hr => Int.lt_of_lt_of_le (h record hr) hlater

/-- One task leaves a spent ticket spent, unless it revalidates it or creates one of its id. -/
theorem Change.spent (h : Change cipher config t task t') (ht : Sound t) (hs : Spent id now t)
    (hminted : task.minted ≠ some id) (hrevalidated : task.revalidated ≠ some id) : Spent id now t' := by
  refine h.keeps ht hs hminted ?used ?amended fun hthis => absurd hthis hrevalidated
  case used =>
    intro record now' hspent hvalid
    exact Int.lt_of_le_of_lt (invalidated_expires_le hvalid) hspent
  case amended =>
    intro nonce record owner secure check fields after hspent hamended
    obtain ⟨_, _, -, -, -, rfl⟩ := amended_ok hamended
    exact hspent

/-- The task neither creates a ticket of that id nor revalidates it. -/
def Task.Spares (id : String) (task : Task) : Prop :=
  task.minted ≠ some id ∧ task.revalidated ≠ some id

theorem performAll_spent {tasks : List Task} (ht : Sound t) (hs : Spent id now t)
    (h : ∀ task ∈ tasks, task.Spares id) : Spent id now (performAll cipher config tasks t) := by
  refine (performAll_keeps ht hs fun task hmem _ _ change ht hs => ?_).2
  obtain ⟨hminted, hrevalidated⟩ := h task hmem
  exact change.spent ht hs hminted hrevalidated

/-- A ticket that is spent cannot be read by anyone. -/
theorem Spent.fetch_fails (hs : Spent id now t) (cipher : Cipher) {later : Instant} (hlater : now ≤ later)
    (invalidate : Bool) (owner : Option String) (secure : Bool) :
    ∃ e, (fetch memoryRepository cipher id invalidate owner secure later t).1 = .error e := by
  rw [fetch_eq]
  split
  · exact ⟨_, rfl⟩
  · cases h : read cipher (t.get? id) owner secure later with
    | error e => exact ⟨e, rfl⟩
    | ok result =>
      obtain ⟨found, -, hvalid, -, -⟩ := read_ok_iff.mp h
      exact absurd (hs.mono hlater result.1 found) hvalid

/-- Nor does it open a tunnel. -/
theorem Spent.fetchForTunnel_fails {handle : String} (hs : Spent (handleId handle) now t)
    {later : Instant} (hlater : now ≤ later) :
    ∃ e, (fetchForTunnel memoryRepository cipher handle later t).1 = .error e := by
  rw [fetchForTunnel_eq]
  split
  · obtain ⟨e, he⟩ := hs.fetch_fails cipher hlater false (handleOwner handle) true
    exact ⟨e, by rw [he]; rfl⟩
  · exact ⟨_, rfl⟩

/-- A read that uses a ticket up leaves it spent. -/
theorem fetch_spent (ht : Sound t) {owner : Option String} {secure : Bool} {payload : Json}
    (hnow : 0 ≤ now.ms)
    (h : (fetch memoryRepository cipher id true owner secure now t).1 = .ok payload) :
    Spent id now (fetch memoryRepository cipher id true owner secure now t).2 := by
  rw [fetch_eq] at h ⊢
  split at h
  · cases h
  · next hpre =>
    rw [if_neg hpre]
    cases hread : read cipher (t.get? id) owner secure now with
    | error e =>
      rw [hread] at h
      cases h
    | ok result =>
      obtain ⟨found, -⟩ := read_ok_iff.mp hread
      intro record hr
      change Table.get? id (t.put result.1.id (invalidated result.1 now)) = _ at hr
      rw [Table.get?_put, if_pos (ht.id_of_get? found)] at hr
      cases hr
      exact invalidated_expires_lt result.1 hnow

end SessionBroker.Ticket
