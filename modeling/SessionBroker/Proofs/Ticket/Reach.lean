import SessionBroker.Proofs.Table
import SessionBroker.Proofs.Ticket.Operation
import SessionBroker.Proofs.Ticket.Task

/-!
# What a ticket store can come to

A store in memory starts empty. It is changed by the tasks of the ticket store, and by whoever saves a record
in its repository directly. `Change` says everything that a task can do to a table, and a table that comes
about so is sound: each record stands once, under its own id. What is to hold of the record of one id needs to
be kept by the three decisions that rewrite a record only.
-/

namespace SessionBroker.Ticket

/-- Each record stands once, under its own id. -/
structure Sound (t : TicketTable) : Prop where
  keys : t.KeysNodup
  ids : ∀ row ∈ t, row.2.id = row.1

namespace Sound

variable {t : TicketTable}

theorem empty : Sound [] := ⟨List.nodup_nil, fun _ h => absurd h List.not_mem_nil⟩

theorem id_of_get? (h : Sound t) {id : String} {record : TicketRecord} (hr : t.get? id = some record) :
    record.id = id :=
  h.ids _ (Table.mem_of_get? hr)

theorem put (h : Sound t) (record : TicketRecord) : Sound (t.put record.id record) where
  keys := h.keys.put _ _
  ids row hrow := by
    rcases Table.mem_put hrow with rfl | hrow
    · rfl
    · exact h.ids row hrow

theorem filter (h : Sound t) (keep : String × TicketRecord → Bool) : Sound (t.filter keep) where
  keys := h.keys.filter keep
  ids row hrow := h.ids row (List.mem_filter.mp hrow).1

end Sound

/-- The id that a task gives to a new ticket. -/
def Task.minted : Task → Option String
  | create draws .. => some draws.id
  | createForTunnel draws .. => some draws.id
  | _ => none

/-- The ticket that a task gives a new validity. -/
def Task.revalidated : Task → Option String
  | revalidate id .. => some id
  | _ => none

/-- All that a task can do to a table. -/
inductive Change (cipher : Cipher) (config : TicketConfig) (t : TicketTable) : Task → TicketTable → Prop
  | kept (task : Task) : Change cipher config t task t
  | created {draws payload validator validity owner secure now record}
      (h : make cipher config draws payload validator validity owner secure now = .ok record) :
      Change cipher config t (.create draws payload validator validity owner secure now)
        (t.put record.id record)
  | createdForTunnel {draws ticket validity now record}
      (h : make cipher config draws (toJson ticket) none (some (validity.getD config.tunnelValidity))
        (some draws.owner) true now = .ok record) :
      Change cipher config t (.createForTunnel draws ticket validity now) (t.put record.id record)
  | used {id owner secure now record payload}
      (h : read cipher (t.get? id) owner secure now = .ok (record, payload)) :
      Change cipher config t (.fetch id true owner secure now)
        (t.put record.id (invalidated record now))
  | amended {nonce id owner secure check fields record after} (found : t.get? id = some record)
      (h : Ticket.amended cipher nonce record owner secure check fields = .ok after) :
      Change cipher config t (.update nonce id owner secure check fields) (t.put after.id after)
  | renewed {id validity owner now after}
      (h : Ticket.renewed (t.get? id) validity owner now = .ok after) :
      Change cipher config t (.revalidate id validity owner now) (t.put after.id after)
  | swept (now : Instant) :
      Change cipher config t (.cleanup now) (t.filter fun row => outlives config now row.2)

theorem Task.perform_change (cipher : Cipher) (config : TicketConfig) (t : TicketTable) (task : Task) :
    Change cipher config t task (task.perform memoryRepository cipher config t) := by
  cases task with
  | create draws payload validator validity owner secure now =>
    simp only [Task.perform, create_eq]
    cases h : make cipher config draws payload validator validity owner secure now with
    | error e => exact .kept _
    | ok record => exact .created h
  | createForTunnel draws ticket validity now =>
    simp only [Task.perform, createForTunnel_eq]
    cases h : make cipher config draws (toJson ticket) none (some (validity.getD config.tunnelValidity))
        (some draws.owner) true now with
    | error e => exact .kept _
    | ok record => exact .createdForTunnel h
  | fetch id invalidate owner secure now =>
    cases invalidate with
    | false =>
      rw [Task.perform, fetch_looks]
      exact .kept _
    | true =>
      simp only [Task.perform, fetch_eq]
      split
      · exact .kept _
      · cases h : read cipher (t.get? id) owner secure now with
        | error e => exact .kept _
        | ok result => exact .used h
  | update nonce id owner secure check fields =>
    simp only [Task.perform, update_eq]
    cases found : t.get? id with
    | none => exact .kept _
    | some record =>
      dsimp only
      cases h : Ticket.amended cipher nonce record owner secure check fields with
      | error e => exact .kept _
      | ok after => exact .amended found h
  | revalidate id validity owner now =>
    simp only [Task.perform, revalidate_eq]
    cases h : Ticket.renewed (t.get? id) validity owner now with
    | error e => exact .kept _
    | ok after => exact .renewed h
  | fetchForTunnel handle now =>
    simp only [Task.perform, fetchForTunnel_eq]
    split <;> exact .kept _
  | cleanup now => exact .swept now

section Keeps

variable {cipher : Cipher} {config : TicketConfig} {t t' : TicketTable} {task : Task} {id : String}

theorem Change.sound (h : Change cipher config t task t') (ht : Sound t) : Sound t' := by
  cases h with
  | kept _ => exact ht
  | created h => exact ht.put _
  | createdForTunnel h => exact ht.put _
  | @used _ _ _ now record _ h => exact ht.put (invalidated record now)
  | amended _ h => exact ht.put _
  | renewed h => exact ht.put _
  | swept now => exact ht.filter _

/-- What holds of the record of an id and of what is written for it holds after the write. -/
theorem get?_put_keeps {P : TicketRecord → Prop} (h : ∀ found, t.get? id = some found → P found)
    (record : TicketRecord) (hr : record.id = id → P record) :
    ∀ found, (t.put record.id record).get? id = some found → P found := by
  intro found hfound
  rw [Table.get?_put] at hfound
  split at hfound
  · next hid =>
    cases hfound
    exact hr hid
  · exact h found hfound

/-- What holds of the record of an id still holds after a task that creates no ticket of that id, if it is kept
where a record is used up, amended or renewed. -/
theorem Change.keeps {P : TicketRecord → Prop} (hc : Change cipher config t task t') (ht : Sound t)
    (h : ∀ record, t.get? id = some record → P record) (hminted : task.minted ≠ some id)
    (used : ∀ {record now}, P record → ¬ record.expires < now → P (invalidated record now))
    (amended : ∀ {nonce record owner secure check fields after}, P record →
      Ticket.amended cipher nonce record owner secure check fields = .ok after → P after)
    (renewed : task.revalidated = some id → ∀ {record now validity}, P record →
      P { record with stamp := now, validity := validity }) :
    ∀ record, t'.get? id = some record → P record := by
  cases hc with
  | kept _ => exact h
  | created hmake =>
    obtain ⟨_, -, rfl⟩ := make_ok hmake
    exact get?_put_keeps h _ fun hid => absurd (congrArg some hid) hminted
  | createdForTunnel hmake =>
    obtain ⟨_, -, rfl⟩ := make_ok hmake
    exact get?_put_keeps h _ fun hid => absurd (congrArg some hid) hminted
  -- the record that is written has the id of the one that was found, and that is the id it was found by
  | @used id' _ _ now record _ hread =>
    obtain ⟨found, -, hvalid, -, -⟩ := read_ok_iff.mp hread
    refine get?_put_keeps h (invalidated record now) fun hid => ?_
    have hid' : id' = id := (ht.id_of_get? found).symm.trans hid
    subst hid'
    exact used (h record found) hvalid
  | @amended _ id' _ _ _ _ record after found hamended =>
    have hsame : after.id = record.id := by
      obtain ⟨_, _, -, -, -, rfl⟩ := amended_ok hamended
      rfl
    refine get?_put_keeps h _ fun hid => ?_
    have hid' : id' = id := (ht.id_of_get? found).symm.trans (hsame.symm.trans hid)
    subst hid'
    exact amended (h record found) hamended
  | @renewed id' _ _ _ after hrenewed =>
    obtain ⟨record, _, found, -, rfl⟩ := renewed_ok hrenewed
    refine get?_put_keeps h _ fun hid => ?_
    have hid' : id' = id := (ht.id_of_get? found).symm.trans hid
    subst hid'
    exact renewed rfl (h record found)
  | swept now =>
    intro record hr
    rw [Table.get?_filter ht.keys] at hr
    exact h record (Option.eq_some_of_filter_eq_some hr)

end Keeps

/-! ## Runs -/

/-- The table can come about by tasks and by records that are saved directly. -/
inductive Reachable (cipher : Cipher) (config : TicketConfig) : TicketTable → Prop
  | start : Reachable cipher config []
  | task {t} (before : Reachable cipher config t) (task : Task) :
      Reachable cipher config (task.perform memoryRepository cipher config t)
  | save {t} (before : Reachable cipher config t) (record : TicketRecord) :
      Reachable cipher config (t.put record.id record)

theorem Reachable.sound {cipher : Cipher} {config : TicketConfig} {t : TicketTable}
    (h : Reachable cipher config t) : Sound t := by
  induction h with
  | start => exact .empty
  | task _ task ih => exact (task.perform_change cipher config _).sound ih
  | save _ record ih => exact ih.put record

/-- The tickets after tasks one after the other. -/
def performAll (cipher : Cipher) (config : TicketConfig) (tasks : List Task) (t : TicketTable) :
    TicketTable :=
  tasks.foldl (fun t task => task.perform memoryRepository cipher config t) t

/-- What every task of a run keeps holds at its end, along with soundness. -/
theorem performAll_keeps {cipher : Cipher} {config : TicketConfig} {Q : TicketTable → Prop}
    {tasks : List Task} {t : TicketTable} (ht : Sound t) (h : Q t)
    (step : ∀ task ∈ tasks, ∀ {t t'}, Change cipher config t task t' → Sound t → Q t → Q t') :
    Sound (performAll cipher config tasks t) ∧ Q (performAll cipher config tasks t) := by
  induction tasks generalizing t with
  | nil => exact ⟨ht, h⟩
  | cons task rest ih =>
    have change := task.perform_change cipher config t
    exact ih (change.sound ht) (step task List.mem_cons_self change ht h)
      fun task' hmem => step task' (List.mem_cons_of_mem _ hmem)

end SessionBroker.Ticket
