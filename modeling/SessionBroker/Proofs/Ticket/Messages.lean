import SessionBroker.Proofs.Ticket.Operation
import SessionBroker.Proofs.Turns

/-!
# Operations message by message

An operation on a ticket is an exchange of messages with the repository, and nothing keeps the messages of
another one from coming in between. `run` sends the messages of one exchange, and is the operation itself on
every repository; `interleave` sends those of two exchanges in the order of a schedule. An operation that looks
once and then writes once at most settles its outcome when it looks, so what comes of two of them is told by
which of them looked before the other wrote.
-/

namespace SessionBroker.Ticket

open Turn (order swap)

/-- An operation as the messages that it sends, and what it makes of the answers. -/
inductive Exchange (α : Type)
  | done (outcome : Except TicketError α)
  | find (id : String) (next : Except StoreError (Option TicketRecord) → Exchange α)
  | save (record : TicketRecord) (next : Except StoreError Unit → Exchange α)

namespace Exchange

variable {σ α β : Type}

/-- Sends all messages. -/
def run (repository : Repository σ) : Exchange α → TicketM σ α
  | done outcome => fun s => (outcome, s)
  | find id next => fun s =>
    let (answer, s) := repository.find id s
    run repository (next answer) s
  | save record next => fun s =>
    let (answer, s) := repository.save record s
    run repository (next answer) s

/-- Sends the next message. -/
def step (repository : Repository σ) : Exchange α → σ → Exchange α × σ
  | done outcome, s => (done outcome, s)
  | find id next, s =>
    let (answer, s) := repository.find id s
    (next answer, s)
  | save record next, s =>
    let (answer, s) := repository.save record s
    (next answer, s)

theorem run_step (repository : Repository σ) (x : Exchange α) (s : σ) :
    (x.step repository s).1.run repository (x.step repository s).2 = x.run repository s := by
  cases x <;> rfl

/-! ## The operations as exchanges -/

/-- Looks a ticket up. -/
def look (id : String) (next : Option TicketRecord → Exchange α) : Exchange α :=
  find id fun
    | .ok found => next found
    | .error e => done (.error (.store e))

/-- Writes a record, and nothing after it. -/
def write (record : TicketRecord) (result : α) : Exchange α :=
  save record fun
    | .ok () => done (.ok result)
    | .error e => done (.error (.store e))

def fetching (cipher : Cipher) (id : String) (invalidate : Bool) (owner : Option String) (secure : Bool)
    (now : Instant) : Exchange Json :=
  if secure && owner.isNone then done (.error .missingOwner)
  else look id fun found => match read cipher found owner secure now with
    | .error e => done (.error e)
    | .ok (record, payload) =>
      if invalidate then write (invalidated record now) payload else done (.ok payload)

def updating (cipher : Cipher) (nonce : Bytes) (id : String) (owner : Option String) (secure : Bool)
    (check : Json → Bool) (fields : Dict Json) : Exchange Unit :=
  look id fun
    | none => done (.ok ())
    | some record => match amended cipher nonce record owner secure check fields with
      | .error e => done (.error e)
      | .ok after => write after ()

section Run

variable (repository : Repository σ) (cipher : Cipher) (id : String) (owner : Option String) (secure : Bool)

theorem run_look (next : Option TicketRecord → Exchange α) :
    (look id next).run repository =
      (do (next (← ask (repository.find id))).run repository : TicketM σ α) := by
  funext s
  rw [Effect.run_bind]
  simp only [look, run, ask]
  cases repository.find id s with
  | mk answer s => cases answer <;> rfl

theorem run_write (record : TicketRecord) (result : α) :
    (write record result).run repository =
      (do ask (repository.save record); return result : TicketM σ α) := by
  funext s
  rw [Effect.run_bind]
  simp only [write, run, ask]
  cases repository.save record s with
  | mk answer s => cases answer <;> rfl

/-- Reading is its exchange, on every repository. -/
theorem run_fetching (invalidate : Bool) (now : Instant) :
    (fetching cipher id invalidate owner secure now).run repository =
      fetch repository cipher id invalidate owner secure now := by
  unfold fetching fetch
  cases secure && owner.isNone with
  | true => rfl
  | false =>
    refine (run_look repository id _).trans (congrArg (ask (repository.find id) >>= ·) (funext fun found => ?_))
    cases read cipher found owner secure now with
    | error e => rfl
    | ok result =>
      cases invalidate with
      | false => rfl
      | true => exact run_write repository _ _

/-- Updating is its exchange, on every repository. -/
theorem run_updating (nonce : Bytes) (check : Json → Bool) (fields : Dict Json) :
    (updating cipher nonce id owner secure check fields).run repository =
      update repository cipher nonce id owner secure check fields := by
  refine (run_look repository id _).trans (congrArg (ask (repository.find id) >>= ·) (funext fun found => ?_))
  cases found with
  | none => rfl
  | some record =>
    dsimp only
    cases amended cipher nonce record owner secure check fields with
    | error e => rfl
    | ok after => exact (run_write repository after ()).trans bind_pure_unit

end Run

/-! ## Two exchanges at once -/

/-- Sends the messages of two exchanges in the order of the schedule. -/
def interleave (repository : Repository σ) :
    List Turn → Exchange α × Exchange β × σ → Exchange α × Exchange β × σ
  | [], both => both
  | .left :: rest, (x, y, s) =>
    interleave repository rest ((x.step repository s).1, y, (x.step repository s).2)
  | .right :: rest, (x, y, s) =>
    interleave repository rest (x, (y.step repository s).1, (y.step repository s).2)

variable {x : Exchange α} {y : Exchange β} {a a' : Except TicketError α} {b b' : Except TicketError β}
  {s t t' : TicketTable}

/-- Whatever the table is by now, the exchange ends with its next message, and with that outcome. -/
def Settled (x : Exchange α) (a : Except TicketError α) : Prop :=
  ∀ t, (x.step memoryRepository t).1 = done a

/-- The exchange looks once and then writes once at most. -/
def Single (x : Exchange α) : Prop :=
  ∀ t, (x.step memoryRepository t).2 = t ∧ ∃ a, Settled (x.step memoryRepository t).1 a

theorem Settled.done (a : Except TicketError α) : Settled (done a) a := fun _ => rfl

theorem Settled.step (h : Settled x a) (t : TicketTable) : Settled (x.step memoryRepository t).1 a := by
  rw [h t]
  exact .done a

theorem Settled.eq (h : Settled (Exchange.done a') a) : a' = a := Exchange.done.inj (h [])

theorem Settled.run (h : Settled x a) (t : TicketTable) :
    x.run memoryRepository t = (a, (x.step memoryRepository t).2) := by
  rw [← run_step, h t]
  rfl

theorem Single.settled (h : Single x) (t : TicketTable) :
    Settled (x.step memoryRepository t).1 (x.run memoryRepository t).1 := by
  obtain ⟨-, a, ha⟩ := h t
  rw [← run_step, ha.run]
  exact ha

theorem Single.looks (h : Single x) (t : TicketTable) : (x.step memoryRepository t).2 = t := (h t).1

/-- After two messages the exchange is over. -/
theorem Single.finish (h : Single x) (t : TicketTable) :
    (x.step memoryRepository t).1.step memoryRepository (x.step memoryRepository t).2 =
      (done (x.run memoryRepository t).1, (x.run memoryRepository t).2) := by
  have hrun := (h.settled t).run (x.step memoryRepository t).2
  rw [run_step] at hrun
  exact Prod.ext (h.settled t _) (congrArg Prod.snd hrun).symm

theorem Single.of_done (a : Except TicketError α) : Single (Exchange.done a) :=
  fun _ => ⟨rfl, a, .done a⟩

theorem single_look {id : String} {next : Option TicketRecord → Exchange α}
    (h : ∀ found, ∃ a, Settled (next found) a) : Single (look id next) :=
  fun t => ⟨rfl, h (t.get? id)⟩

theorem settled_write (record : TicketRecord) (result : α) : Settled (write record result) (.ok result) :=
  fun _ => rfl

theorem single_fetching (cipher : Cipher) (id : String) (invalidate : Bool) (owner : Option String)
    (secure : Bool) (now : Instant) : Single (fetching cipher id invalidate owner secure now) := by
  unfold fetching
  split
  · exact .of_done _
  · refine single_look fun found => ?_
    cases read cipher found owner secure now with
    | error e => exact ⟨_, .done _⟩
    | ok result =>
      cases invalidate with
      | false => exact ⟨_, .done _⟩
      | true => exact ⟨_, settled_write _ _⟩

theorem single_updating (cipher : Cipher) (nonce : Bytes) (id : String) (owner : Option String)
    (secure : Bool) (check : Json → Bool) (fields : Dict Json) :
    Single (updating cipher nonce id owner secure check fields) := by
  refine single_look fun found => ?_
  cases found with
  | none => exact ⟨_, .done _⟩
  | some record =>
    dsimp only
    cases amended cipher nonce record owner secure check fields with
    | error e => exact ⟨_, .done _⟩
    | ok after => exact ⟨_, settled_write _ _⟩

/-- Once both have looked, no order of what is left changes what comes of them. -/
theorem interleave_settled {schedule : List Turn} (hx : Settled x a) (hy : Settled y b)
    (h : interleave memoryRepository schedule (x, y, t) = (done a', done b', t')) : a' = a ∧ b' = b := by
  induction schedule generalizing x y t with
  | nil =>
    cases h
    exact ⟨hx.eq, hy.eq⟩
  | cons turn rest ih =>
    cases turn with
    | left => exact ih (hx.step t) hy h
    | right => exact ih hx (hy.step t) h

/-- An exchange that is over leaves the other one to itself. -/
theorem interleave_done {schedule : List Turn}
    (h : interleave memoryRepository schedule (done a, y, t) = (done a', done b', t')) :
    a' = a ∧ b' = (y.run memoryRepository t).1 := by
  induction schedule generalizing y t with
  | nil =>
    cases h
    exact ⟨rfl, rfl⟩
  | cons turn rest ih =>
    cases turn with
    | left => exact ih h
    | right =>
      rw [← run_step]
      exact ih h

theorem interleave_swap {repository : Repository σ} {schedule : List Turn} {x' : Exchange α}
    {y' : Exchange β} {s s' : σ} (h : interleave repository schedule (x, y, s) = (x', y', s')) :
    interleave repository (swap schedule) (y, x, s) = (y', x', s') := by
  induction schedule generalizing x y s with
  | nil =>
    cases h
    rfl
  | cons turn rest ih => cases turn <;> exact ih h

/-- What comes of two operations that look once and write once at most: where one was over before the other
one began, the other one finds what it left, and else both come to what they would come to alone. -/
theorem interleave_outcomes {schedule : List Turn} (hx : Single x) (hy : Single y)
    (h : interleave memoryRepository schedule (x, y, t) = (done a, done b, t')) :
    match order schedule with
    | .leftFirst => a = (x.run memoryRepository t).1 ∧
        b = (y.run memoryRepository (x.run memoryRepository t).2).1
    | .rightFirst => b = (y.run memoryRepository t).1 ∧
        a = (x.run memoryRepository (y.run memoryRepository t).2).1
    | .overlapping => a = (x.run memoryRepository t).1 ∧ b = (y.run memoryRepository t).1 := by
  -- for exchanges of any two results, so that it serves for both orders
  have leftFirst {α β : Type} {x : Exchange α} {y : Exchange β} {a b rest} (hx : Single x)
      (h : interleave memoryRepository (.left :: .left :: rest) (x, y, t) = (done a, done b, t')) :
      a = (x.run memoryRepository t).1 ∧ b = (y.run memoryRepository (x.run memoryRepository t).2).1 := by
    rw [interleave, interleave, hx.finish] at h
    exact interleave_done h
  match schedule with
  | [] =>
    cases h
    exact ⟨rfl, rfl⟩
  | [.left] =>
    simp only [interleave, Prod.mk.injEq] at h
    obtain ⟨hover, rfl, -⟩ := h
    exact ⟨(hover ▸ hx.settled t).eq, rfl⟩
  | [.right] =>
    simp only [interleave, Prod.mk.injEq] at h
    obtain ⟨rfl, hover, -⟩ := h
    exact ⟨rfl, (hover ▸ hy.settled t).eq⟩
  | .left :: .left :: rest => exact leftFirst hx h
  | .right :: .right :: rest => exact leftFirst hy (interleave_swap h)
  -- neither look changes the table, so both look at the same one, and are settled then
  | .left :: .right :: rest =>
    rw [interleave, interleave, hx.looks] at h
    exact interleave_settled (hx.settled t) (hy.settled t) h
  | .right :: .left :: rest =>
    rw [interleave, interleave, hy.looks] at h
    exact interleave_settled (hx.settled t) (hy.settled t) h

end Exchange

end SessionBroker.Ticket
