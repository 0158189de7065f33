import SessionBroker.Crypto.TaggedXor
import SessionBroker.Proofs.Ticket.Sweep

/-!
# Operations on tickets keep to their ticket

Every operation of the ticket store decides on the record that it found before it writes, and writes once. So one
that fails has changed nothing. One that succeeds has changed the record of its own ticket at most, and of that
record what it is for: a read that uses the ticket up the stamp, an update the data, a revalidation the stamp and
the validity.
-/

namespace SessionBroker.Ticket

/-- Whether a task succeeds, and if not why. -/
def Task.outcome {σ : Type} (repository : Repository σ) (cipher : Cipher) (config : TicketConfig)
    (tickets : σ) : Task → Except TicketError Unit
  | create draws payload validator validity owner secure now =>
    (Ticket.create repository cipher config draws payload validator validity owner secure now tickets).1.map
      fun _ => ()
  | fetch id invalidate owner secure now =>
    (Ticket.fetch repository cipher id invalidate owner secure now tickets).1.map fun _ => ()
  | update nonce id owner secure check fields =>
    (Ticket.update repository cipher nonce id owner secure check fields tickets).1
  | revalidate id validity owner now => (Ticket.revalidate repository id validity owner now tickets).1
  | createForTunnel draws ticket validity now =>
    (Ticket.createForTunnel repository cipher config draws ticket validity now tickets).1.map fun _ => ()
  | fetchForTunnel handle now =>
    (Ticket.fetchForTunnel repository cipher handle now tickets).1.map fun _ => ()
  | cleanup now => (Ticket.cleanup repository config now tickets).1.map fun _ => ()

/-- A ticket has been written under an id, which is one more if the id is new. -/
structure Added (id : String) (t t' : TicketTable) : Prop where
  others : ∀ other, other ≠ id → t'.get? other = t.get? other
  appended : t.get? id = none → ∃ record, record.id = id ∧ t' = t ++ [(id, record)]

/-- The record of a ticket has been rewritten in its place, and all others are as they were. -/
structure Rewritten (rewrite : TicketRecord → TicketRecord → Prop) (id : String) (t t' : TicketTable) : Prop where
  keys : t'.keys = t.keys
  others : ∀ other, other ≠ id → t'.get? other = t.get? other
  this : ∃ record after, t.get? id = some record ∧ t'.get? id = some after ∧ rewrite record after

/-- What a task that succeeds has done to the tickets. -/
def Task.Effect (config : TicketConfig) (t t' : TicketTable) : Task → Prop
  | create draws .. => Added draws.id t t'
  | createForTunnel draws .. => Added draws.id t t'
  | fetch _ false .. => t' = t
  | fetch id true _ _ now => Rewritten (fun record after =>
      after = { record with stamp := (now.before record.validity).before (.ofSeconds 1) }) id t t'
  | fetchForTunnel .. => t' = t
  | update _ id .. => (t.get? id = none ∧ t' = t) ∨
      Rewritten (fun record after => ∃ data, after = { record with data := data }) id t t'
  | revalidate id validity _ now => Rewritten (fun record after =>
      after = { record with stamp := now, validity := renewedValidity record.validity validity }) id t t'
  | cleanup now => t' = swept config now t

variable {cipher : Cipher} {config : TicketConfig} {t : TicketTable} {record after : TicketRecord}
  {id : String}

/-! ## What is written -/

theorem get?_put_other (record : TicketRecord) {other : String} (hother : other ≠ record.id) :
    (t.put record.id record).get? other = t.get? other := by
  rw [Table.get?_put, if_neg (Ne.symm hother)]

theorem added_put (t : TicketTable) (record : TicketRecord) : Added record.id t (t.put record.id record) where
  others _ hother := get?_put_other record hother
  appended hnew := ⟨record, rfl, Table.put_of_get?_none hnew record⟩

/-- A record that was found and keeps its id is rewritten in its place. -/
theorem rewritten_put {rewrite : TicketRecord → TicketRecord → Prop} (ht : Sound t)
    (found : t.get? id = some record) (hkept : after.id = record.id) (h : rewrite record after) :
    Rewritten rewrite id t (t.put after.id after) := by
  obtain rfl : after.id = id := hkept.trans (ht.id_of_get? found)
  have hmem : after.id ∈ t.keys := List.mem_map.mpr ⟨_, Table.mem_of_get? found, rfl⟩
  exact
    { keys := by rw [Table.keys_put, if_pos hmem]
      others := fun _ hother => get?_put_other after hother
      this := ⟨record, after, found, by rw [Table.get?_put, if_pos rfl], h⟩ }

/-! ## Tickets that a task leaves alone -/

/-- The task neither writes under the id nor sweeps. -/
def Task.Leaves (id : String) : Task → Prop
  | create draws .. => draws.id ≠ id
  | createForTunnel draws .. => draws.id ≠ id
  | fetch id' invalidate .. => invalidate = true → id' ≠ id
  | fetchForTunnel .. => True
  | update _ id' .. => id' ≠ id
  | revalidate id' .. => id' ≠ id
  | cleanup _ => False

theorem Change.leaves {t' : TicketTable} {task : Task} (h : Change cipher config t task t') (ht : Sound t)
    (hleaves : task.Leaves id) : t'.get? id = t.get? id := by
  cases h with
  | kept _ => rfl
  | created hmake =>
    obtain ⟨_, -, rfl⟩ := make_ok hmake
    exact get?_put_other _ (Ne.symm hleaves)
  | createdForTunnel hmake =>
    obtain ⟨_, -, rfl⟩ := make_ok hmake
    exact get?_put_other _ (Ne.symm hleaves)
  -- a record that was found is written under the id that it was found by
  | @used _ _ _ now record _ hread =>
    obtain ⟨found, -⟩ := read_ok_iff.mp hread
    obtain rfl := ht.id_of_get? found
    exact get?_put_other (invalidated record now) (Ne.symm (hleaves rfl))
  | amended found hamended =>
    obtain ⟨_, _, -, -, -, rfl⟩ := amended_ok hamended
    obtain rfl := ht.id_of_get? found
    exact get?_put_other _ (Ne.symm hleaves)
  | renewed hrenewed =>
    obtain ⟨_, _, found, -, rfl⟩ := renewed_ok hrenewed
    obtain rfl := ht.id_of_get? found
    exact get?_put_other _ (Ne.symm hleaves)
  | swept _ => exact hleaves.elim

theorem performAll_leaves {tasks : List Task} (ht : Sound t) (h : ∀ task ∈ tasks, task.Leaves id) :
    (performAll cipher config tasks t).get? id = t.get? id :=
  (performAll_keeps (Q := fun t' => t'.get? id = t.get? id) ht rfl fun task hmem _ _ change hsound hsame =>
    (change.leaves hsound (h task hmem)).trans hsame).2

/-! ## One operation after the other -/

/-- A task that fails leaves the tickets as they are, and one that succeeds does what it is for. -/
def Task.Local (cipher : Cipher) (config : TicketConfig) (t : TicketTable) (task : Task) : Prop :=
  (∀ e, task.outcome memoryRepository cipher config t = .error e →
    task.perform memoryRepository cipher config t = t) ∧
  (task.outcome memoryRepository cipher config t = .ok () →
    task.Effect config t (task.perform memoryRepository cipher config t))

section
variable {task : Task}

theorem Task.Local.of_error {e : TicketError} (h : task.outcome memoryRepository cipher config t = .error e)
    (same : task.perform memoryRepository cipher config t = t) : task.Local cipher config t := by
  refine ⟨fun _ _ => same, fun hok => ?_⟩
  rw [h] at hok
  cases hok

theorem Task.Local.of_ok (h : task.outcome memoryRepository cipher config t = .ok ())
    (effect : task.Effect config t (task.perform memoryRepository cipher config t)) :
    task.Local cipher config t := by
  refine ⟨fun e herror => ?_, fun _ => effect⟩
  rw [h] at herror
  cases herror

end

theorem create_local (draws : TicketDraws) (payload : Json) (validator : Option TicketValidator)
    (validity : Option Duration) (owner : Option String) (secure : Bool) (now : Instant) :
    (Task.create draws payload validator validity owner secure now).Local cipher config t := by
  cases hmake : make cipher config draws payload validator validity owner secure now with
  | error e =>
    refine .of_error (e := e) ?_ ?_
    · rw [Task.outcome, create_eq, hmake]; rfl
    · rw [Task.perform, create_eq, hmake]
  | ok record =>
    have hid : record.id = draws.id := by
      obtain ⟨_, -, rfl⟩ := make_ok hmake
      rfl
    refine .of_ok ?_ ?_
    · rw [Task.outcome, create_eq, hmake]; rfl
    · rw [Task.perform, create_eq, hmake, Task.Effect, ← hid]
      exact added_put t record

/-- A tunnel ticket is created as any secure ticket is. -/
theorem createForTunnel_local (draws : TicketDraws) (ticket : TunnelTicket) (validity : Option Duration)
    (now : Instant) : (Task.createForTunnel draws ticket validity now).Local cipher config t := by
  let secured : Task :=
    .create draws (toJson ticket) none (some (validity.getD config.tunnelValidity)) (some draws.owner) true now
  have houtcome : (Task.createForTunnel draws ticket validity now).outcome memoryRepository cipher config t =
      secured.outcome memoryRepository cipher config t := by
    simp only [secured, Task.outcome, createForTunnel_eq, create_eq]
    cases make cipher config draws (toJson ticket) none (some (validity.getD config.tunnelValidity))
      (some draws.owner) true now <;> rfl
  have hperform : (Task.createForTunnel draws ticket validity now).perform memoryRepository cipher config t =
      secured.perform memoryRepository cipher config t := by
    simp only [secured, Task.perform, createForTunnel_eq, create_eq]
    cases make cipher config draws (toJson ticket) none (some (validity.getD config.tunnelValidity))
      (some draws.owner) true now <;> rfl
  unfold Task.Local
  rw [houtcome, hperform]
  exact create_local ..

theorem fetch_local (ht : Sound t) (id : String) (invalidate : Bool) (owner : Option String) (secure : Bool)
    (now : Instant) : (Task.fetch id invalidate owner secure now).Local cipher config t := by
  cases invalidate with
  | false =>
    have looks : (Task.fetch id false owner secure now).perform memoryRepository cipher config t = t :=
      fetch_looks ..
    exact ⟨fun _ _ => looks, fun _ => looks⟩
  | true =>
    cases hmissing : secure && owner.isNone with
    | true =>
      refine .of_error (e := .missingOwner) ?_ ?_
      · rw [Task.outcome, fetch_eq, hmissing]; rfl
      · rw [Task.perform, fetch_eq, hmissing]; rfl
    | false =>
      cases hread : read cipher (t.get? id) owner secure now with
      | error e =>
        refine .of_error (e := e) ?_ ?_
        · rw [Task.outcome, fetch_eq, hmissing, hread]; rfl
        · rw [Task.perform, fetch_eq, hmissing, hread]; rfl
      | ok result =>
        obtain ⟨found, -⟩ := read_ok_iff.mp hread
        refine .of_ok ?_ ?_
        · rw [Task.outcome, fetch_eq, hmissing, hread]; rfl
        · rw [Task.perform, fetch_eq, hmissing, hread]
          change Rewritten _ id t (t.put (invalidated result.1 now).id (invalidated result.1 now))
          exact rewritten_put ht found rfl rfl

theorem update_local (ht : Sound t) (nonce : Bytes) (id : String) (owner : Option String) (secure : Bool)
    (check : Json → Bool) (fields : Dict Json) :
    (Task.update nonce id owner secure check fields).Local cipher config t := by
  cases found : t.get? id with
  | none =>
    refine .of_ok ?_ (.inl ⟨found, ?_⟩)
    · rw [Task.outcome, update_eq, found]
    · rw [Task.perform, update_eq, found]
  | some record =>
    cases hamended : amended cipher nonce record owner secure check fields with
    | error e =>
      refine .of_error (e := e) ?_ ?_
      · simp only [Task.outcome, update_eq, found, hamended]
      · simp only [Task.perform, update_eq, found, hamended]
    | ok after =>
      obtain ⟨_, data, -, -, -, hafter⟩ := amended_ok hamended
      refine .of_ok ?_ (.inr ?_)
      · simp only [Task.outcome, update_eq, found, hamended]
      · simp only [Task.perform, update_eq, found, hamended]
        exact rewritten_put ht found (by rw [hafter]) ⟨data, hafter⟩

theorem revalidate_local (ht : Sound t) (id : String) (validity : Option Duration) (owner : Option String)
    (now : Instant) : (Task.revalidate id validity owner now).Local cipher config t := by
  cases found : t.get? id with
  | none =>
    refine .of_error (e := .invalidTicket "does not exist") ?_ ?_
    · rw [Task.outcome, revalidate_eq, found]; rfl
    · rw [Task.perform, revalidate_eq, found]; rfl
  | some record =>
    by_cases howner : record.owner = owner
    · refine .of_ok ?_ ?_
      · rw [Task.outcome, revalidate_eq, found, renewed_some howner]
      · rw [Task.perform, revalidate_eq, found, renewed_some howner]
        exact rewritten_put ht found rfl rfl
    · refine .of_error (e := .invalidTicket "does not exist") ?_ ?_
      · rw [Task.outcome, revalidate_eq, found, renewed_other howner]
      · rw [Task.perform, revalidate_eq, found, renewed_other howner]

theorem fetchForTunnel_local (handle : String) (now : Instant) :
    (Task.fetchForTunnel handle now).Local cipher config t := by
  have looks : (Task.fetchForTunnel handle now).perform memoryRepository cipher config t = t := by
    rw [Task.perform, fetchForTunnel_eq]
    split <;> rfl
  exact ⟨fun _ _ => looks, fun _ => looks⟩

/-- Every operation on tickets fails without a trace or does what it is for: it adds one ticket, or changes one
field or two of the ticket that it names, or only looks, or sweeps. -/
theorem tasks_atomic_local (cipher : Cipher) (config : TicketConfig) (ht : Sound t) (task : Task) :
    task.Local cipher config t := by
  cases task with
  | create draws payload validator validity owner secure now => exact create_local ..
  | fetch id invalidate owner secure now => exact fetch_local ht ..
  | update nonce id owner secure check fields => exact update_local ht ..
  | revalidate id validity owner now => exact revalidate_local ht ..
  | createForTunnel draws ticket validity now => exact createForTunnel_local ..
  | fetchForTunnel handle now => exact fetchForTunnel_local ..
  | cleanup now => exact .of_ok rfl rfl

/-- Of two tickets one is used up, and the other one stays as it is when an update of it is refused. -/
theorem tasks_atomic_local_pair :
    let plain (id : String) : Task := .create ⟨id, "", []⟩ (.obj [("n", .int 1)]) none none none false .epoch
    let t := performAll TaggedXor.cipher .standard [plain "a", plain "b"] []
    let use : Task := .fetch "a" true none false (.ofSeconds 60)
    let refused : Task := .update [] "b" none false (fun _ => false) [("n", .int 2)]
    Sound t ∧ use.outcome memoryRepository TaggedXor.cipher .standard t = .ok () ∧
      use.Effect .standard t (use.perform memoryRepository TaggedXor.cipher .standard t) ∧
      refused.outcome memoryRepository TaggedXor.cipher .standard t =
        .error (.invalidTicket "validation failed") ∧
      refused.perform memoryRepository TaggedXor.cipher .standard t = t := by
  intro plain t use refused
  have hreach : Reachable TaggedXor.cipher .standard t := (Reachable.start.task (plain "a")).task (plain "b")
  have hused : use.outcome memoryRepository TaggedXor.cipher .standard t = .ok () := rfl
  have hrefused : refused.outcome memoryRepository TaggedXor.cipher .standard t =
      .error (.invalidTicket "validation failed") := rfl
  exact ⟨hreach.sound, hused, (tasks_atomic_local _ _ hreach.sound use).2 hused, hrefused,
    (tasks_atomic_local _ _ hreach.sound refused).1 _ hrefused⟩

end SessionBroker.Ticket
