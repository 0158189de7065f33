import SessionBroker.Proofs.Ticket.Envelope
import SessionBroker.Proofs.Ticket.Reach

/-!
# What strangers can do to a ticket

A ticket belongs to the owner that it was created for, whatever is done to it later. Whoever presents another
owner, or none, never reads it. A plain ticket, however, is updated for anyone, and the owner that all secure
tickets are stored with is a text like any other, under which anyone revalidates them.
-/

namespace SessionBroker

/-- What a cipher is trusted with: it tells keys apart, and encrypted bytes from envelopes. -/
structure Cipher.Separates (cipher : Cipher) : Prop where
  /-- What was encrypted under one key is rejected under every other one. -/
  other_key : ∀ {key nonce plain sealed}, cipher.encrypt key nonce plain = .ok sealed →
    ∀ {key'}, key' ≠ key → ∃ e, cipher.decrypt key' sealed = .error e
  /-- An envelope that was not encrypted is rejected under every key. -/
  envelope : ∀ key payload, ∃ e, cipher.decrypt key (Envelope.encode payload) = .error e
  /-- An envelope that was encrypted is none any more. -/
  hidden : ∀ {key nonce payload sealed}, cipher.encrypt key nonce (Envelope.encode payload) = .ok sealed →
    ∃ e, Envelope.decode sealed = .error e

namespace Ticket

variable {cipher : Cipher} {config : TicketConfig} {t t' : TicketTable} {task : Task} {id : String}
  {owner stranger : Option String} {secure flag : Bool} {record : TicketRecord}

/-! ## Whose ticket it is -/

/-- The record is of a ticket that was created for the owner. -/
structure Belongs (cipher : Cipher) (owner : Option String) (secure : Bool) (record : TicketRecord) :
    Prop where
  owner_eq : record.owner = persistedOwner owner secure
  data_of : ∃ nonce payload, protect cipher nonce owner secure payload = .ok record.data

/-- The payload is revealed under the flag that the ticket was created with only, and if it is secure to its
owner only. -/
theorem Belongs.reveal_ok (hb : Belongs cipher owner secure record) (h : cipher.Separates) {payload : Json}
    (hr : reveal cipher record.data stranger flag = .ok payload) :
    flag = secure ∧ (secure = true → stranger = owner) := by
  obtain ⟨nonce, stored, hdata⟩ := hb.data_of
  cases secure with
  | false =>
    cases flag with
    | false => exact ⟨rfl, nofun⟩
    | true =>
      obtain ⟨key, plain, -, hopened, -⟩ := reveal_secure hr
      rw [protect_plain] at hdata
      rw [← Except.ok.inj hdata] at hopened
      obtain ⟨e, he⟩ := h.envelope (Bytes.ofText key) stored
      exact absurd (hopened.symm.trans he) nofun
  | true =>
    obtain ⟨key, rfl, hsealed⟩ := protect_secure hdata
    cases flag with
    | false =>
      obtain ⟨e, he⟩ := h.hidden hsealed
      exact absurd (hr.symm.trans he) nofun
    | true =>
      obtain ⟨key', plain, rfl, hopened, -⟩ := reveal_secure hr
      refine ⟨rfl, fun _ => ?_⟩
      by_cases hkey : Bytes.ofText key' = Bytes.ofText key
      · rw [Bytes.ofText_injective hkey]
      · obtain ⟨e, he⟩ := h.other_key hsealed hkey
        exact absurd (hopened.symm.trans he) nofun

/-- All records of that id belong to the owner. -/
def Owned (cipher : Cipher) (id : String) (owner : Option String) (secure : Bool) (t : TicketTable) : Prop :=
  ∀ record, t.get? id = some record → Belongs cipher owner secure record

/-- No task takes a ticket from its owner, unless it creates another one of its id. -/
theorem Change.owned (hc : Change cipher config t task t') (h : cipher.Separates) (hsound : Sound t)
    (ht : Owned cipher id owner secure t) (hminted : task.minted ≠ some id) :
    Owned cipher id owner secure t' := by
  refine hc.keeps hsound ht hminted ?used ?amended ?renewed
  case used => exact fun hb _ => ⟨hb.owner_eq, hb.data_of⟩
  case amended =>
    intro nonce record o s check fields after hb hamended
    obtain ⟨members, data, hr, -, hp, rfl⟩ := amended_ok hamended
    obtain ⟨rfl, howner⟩ := hb.reveal_ok h hr
    refine ⟨hb.owner_eq, nonce, .obj (merge members fields), ?_⟩
    -- a plain payload is stored alike for all, a secure one was revealed to its owner
    cases s with
    | false => exact hp
    | true => rwa [howner rfl] at hp
  case renewed => exact fun _ _ _ _ hb => ⟨hb.owner_eq, hb.data_of⟩

theorem performAll_owned {tasks : List Task} (h : cipher.Separates) (hsound : Sound t)
    (ht : Owned cipher id owner secure t) (htasks : ∀ task ∈ tasks, task.minted ≠ some id) :
    Sound (performAll cipher config tasks t) ∧
      Owned cipher id owner secure (performAll cipher config tasks t) :=
  performAll_keeps hsound ht fun task hmem _ _ change hsound ht => change.owned h hsound ht (htasks task hmem)

theorem create_owned {draws : TicketDraws} {payload : Json} {validator : Option TicketValidator}
    {validity : Option Duration} {now : Instant}
    (h : (create memoryRepository cipher config draws payload validator validity owner secure now t).1 =
      .ok draws.id) :
    Owned cipher draws.id owner secure
      (create memoryRepository cipher config draws payload validator validity owner secure now t).2 := by
  rw [create_eq] at h ⊢
  cases hmake : make cipher config draws payload validator validity owner secure now with
  | error e =>
    rw [hmake] at h
    cases h
  | ok record =>
    obtain ⟨data, hp, rfl⟩ := make_ok hmake
    intro found hfound
    dsimp only at hfound
    rw [Table.get?_put, if_pos rfl] at hfound
    cases hfound
    exact ⟨rfl, _, _, hp⟩

/-! ## What strangers come to -/

/-- A stranger reads nothing. -/
theorem Owned.fetch_fails (ht : Owned cipher id owner secure t) (h : cipher.Separates)
    (hstranger : stranger ≠ owner) (invalidate : Bool) (now : Instant) :
    ∃ e, fetch memoryRepository cipher id invalidate stranger flag now t = (.error e, t) := by
  rw [fetch_eq]
  split
  · exact ⟨_, rfl⟩
  · cases hread : read cipher (t.get? id) stranger flag now with
    | error e => exact ⟨e, rfl⟩
    | ok result =>
      obtain ⟨found, ho, -, hr, -⟩ := read_ok_iff.mp hread
      have hb := ht _ found
      obtain ⟨rfl, howner⟩ := hb.reveal_ok h hr
      rw [hb.owner_eq] at ho
      cases flag with
      | true => exact absurd (howner rfl) hstranger
      | false => exact absurd ho.symm hstranger

/-- A stranger updates nothing, unless both the ticket and the update are plain. -/
theorem Owned.update_keeps (ht : Owned cipher id owner secure t) (h : cipher.Separates)
    (hstranger : stranger ≠ owner) (hgap : ¬ (secure = false ∧ flag = false)) (nonce : Bytes)
    (check : Json → Bool) (fields : Dict Json) :
    (update memoryRepository cipher nonce id stranger flag check fields t).2 = t := by
  rw [update_eq]
  cases found : t.get? id with
  | none => rfl
  | some record =>
    dsimp only
    cases hamended : amended cipher nonce record stranger flag check fields with
    | error e => rfl
    | ok after =>
      obtain ⟨_, _, hr, -⟩ := amended_ok hamended
      obtain ⟨rfl, howner⟩ := (ht record found).reveal_ok h hr
      cases flag with
      | true => exact absurd (howner rfl) hstranger
      | false => exact absurd ⟨rfl, rfl⟩ hgap

/-- A stranger revalidates nothing, unless the ticket is secure and the stranger presents the owner that it is
stored with. -/
theorem Owned.revalidate_fails (ht : Owned cipher id owner secure t) (hstranger : stranger ≠ owner)
    (hgap : ¬ (secure = true ∧ stranger = some secured)) (validity : Option Duration) (now : Instant) :
    ∃ e, revalidate memoryRepository id validity stranger now t = (.error e, t) := by
  rw [revalidate_eq]
  cases found : t.get? id with
  | none => exact ⟨_, rfl⟩
  | some record =>
    have ho : record.owner ≠ stranger := by
      rw [(ht record found).owner_eq]
      cases secure with
      | true => exact fun heq => hgap ⟨rfl, heq.symm⟩
      | false => exact fun heq => hstranger heq.symm
    rw [renewed_other ho]
    exact ⟨_, rfl⟩

/-- What a stranger can do to a ticket, whatever was done to it since it was created: to read it fails always.
An update of a plain ticket does what it does for the owner, and any other one changes nothing. A secure ticket
is revalidated under the owner that it is stored with, and any other revalidation fails. -/
theorem stranger_reach (h : cipher.Separates) (ht : Reachable cipher config t) (draws : TicketDraws)
    (payload : Json) (validator : Option TicketValidator) (validity : Option Duration) (owner : Option String)
    (secure : Bool) (now : Instant)
    (hcreated : (create memoryRepository cipher config draws payload validator validity owner secure now t).1 =
      .ok draws.id)
    (tasks : List Task) (htasks : ∀ task ∈ tasks, task.minted ≠ some draws.id) (stranger : Option String)
    (hstranger : stranger ≠ owner) :
    let t' := performAll cipher config tasks
      (create memoryRepository cipher config draws payload validator validity owner secure now t).2
    (∀ invalidate flag later,
      ∃ e, fetch memoryRepository cipher draws.id invalidate stranger flag later t' = (.error e, t')) ∧
    (∀ nonce flag check fields,
      if secure = false ∧ flag = false then
        update memoryRepository cipher nonce draws.id stranger flag check fields t' =
          update memoryRepository cipher nonce draws.id owner flag check fields t'
      else (update memoryRepository cipher nonce draws.id stranger flag check fields t').2 = t') ∧
    (∀ validity later,
      if secure = true ∧ stranger = some secured then
        ∀ record, t'.get? draws.id = some record →
          revalidate memoryRepository draws.id validity stranger later t' = (.ok (), t'.put draws.id
            { record with stamp := later, validity := renewedValidity record.validity validity })
      else ∃ e, revalidate memoryRepository draws.id validity stranger later t' = (.error e, t')) := by
  intro t'
  have hsound : Sound (create memoryRepository cipher config draws payload validator validity owner secure
      now t).2 :=
    (Reachable.task ht (.create draws payload validator validity owner secure now)).sound
  obtain ⟨hsound', howned⟩ : Sound t' ∧ Owned cipher draws.id owner secure t' :=
    performAll_owned h hsound (create_owned hcreated) htasks
  refine ⟨fun invalidate flag later => howned.fetch_fails h hstranger invalidate later,
    fun nonce flag check fields => ?_, fun validity later => ?_⟩
  · split
    · next hplain =>
      obtain ⟨-, rfl⟩ := hplain
      rfl
    · next hgap => exact howned.update_keeps h hstranger hgap nonce check fields
  · split
    · next hgap =>
      obtain ⟨rfl, rfl⟩ := hgap
      intro record found
      have howner : record.owner = some secured := (howned record found).owner_eq
      rw [revalidate_eq, found, renewed_some howner, ← hsound'.id_of_get? found]
    · next hgap => exact howned.revalidate_fails hstranger hgap validity later

/-! ## A cipher that is trusted rightly -/

/-- What `labelled` writes in front of a text: the key, with its end marked. -/
def label (key : Bytes) : Bytes := 0 :: (key.flatMap fun b => [1, b]) ++ [0]

/-- A cipher that hides nothing, but tells by which key a text was written. -/
def labelled : Cipher where
  nonceLength := 0
  encrypt key _ plain := .ok (label key ++ plain)
  decrypt key sealed :=
    if label key <+: sealed then .ok (sealed.drop (label key).length) else .error "wrong key"

theorem label_inj {key key' plain : Bytes} (h : label key <+: label key' ++ plain) : key = key' := by
  have marks (key key' : Bytes) (h : (key.flatMap fun b => [1, b]) ++ [0] <+:
      (key'.flatMap fun b => [1, b]) ++ 0 :: plain) : key = key' := by
    induction key generalizing key' with
    | nil => cases key' with
      | nil => rfl
      | cons b' key' => simp at h
    | cons b key ih => cases key' with
      | nil => simp at h
      | cons b' key' =>
        simp only [List.flatMap_cons, List.cons_append, List.nil_append, List.cons_prefix_cons, true_and] at h
        rw [h.1, ih key' h.2]
  refine marks key key' ?_
  simpa [label] using h

theorem labelled_rejects {key sealed : Bytes} (h : ¬ label key <+: sealed) :
    labelled.decrypt key sealed = .error "wrong key" :=
  if_neg h

theorem labelled_separates : labelled.Separates where
  other_key := by
    intro key nonce plain sealed hsealed key' hne
    cases hsealed
    exact ⟨_, labelled_rejects fun hprefix => hne (label_inj hprefix)⟩
  envelope key payload := by
    obtain ⟨rest, hrest⟩ := Envelope.encode_head payload
    refine ⟨_, labelled_rejects ?_⟩
    rw [hrest]
    simp [label]
  hidden := by
    intro key nonce payload sealed hsealed
    cases hsealed
    exact ⟨_, Envelope.decode_null _⟩

/-- A secure ticket that its owner has written to and that was revalidated: a stranger fails to read it, changes
nothing by an update, and fails to revalidate it. -/
theorem stranger_reach_secure :
    let t := performAll labelled .standard
      [.update [] "a" (some "alice") true (fun _ => true) [("n", .int 2)],
        .revalidate "a" none (some secured) .epoch]
      (create memoryRepository labelled .standard ⟨"a", "", []⟩ (.obj [("n", .int 1)]) none none (some "alice")
        true .epoch []).2
    (∃ e, fetch memoryRepository labelled "a" false (some "mallory") true .epoch t = (.error e, t)) ∧
      (update memoryRepository labelled [] "a" (some "mallory") true (fun _ => true) [("n", .int 3)] t).2 = t ∧
      ∃ e, revalidate memoryRepository "a" none (some "mallory") .epoch t = (.error e, t) := by
  intro t
  have hcreated : (create memoryRepository labelled .standard ⟨"a", "", []⟩ (.obj [("n", .int 1)]) none none
      (some "alice") true .epoch []).1 = .ok "a" := rfl
  obtain ⟨reads, updates, revalidates⟩ := stranger_reach labelled_separates .start ⟨"a", "", []⟩ _ none none
    (some "alice") true .epoch hcreated
    [.update [] "a" (some "alice") true (fun _ => true) [("n", .int 2)],
      .revalidate "a" none (some secured) .epoch] (by simp [Task.minted]) (some "mallory") (by decide)
  have hupdate := updates [] true (fun _ => true) [("n", .int 3)]
  have hrevalidate := revalidates none .epoch
  rw [if_neg (by decide)] at hupdate hrevalidate
  exact ⟨reads false true .epoch, hupdate, hrevalidate⟩

/-- A stranger writes to a plain ticket of another owner, and makes an expired secure ticket readable again. -/
theorem strangers_write :
    let plain := (create memoryRepository labelled .standard ⟨"a", "", []⟩ (.obj [("n", .int 1)]) none
      none (some "alice") false .epoch []).2
    let secret := (create memoryRepository labelled .standard ⟨"a", "", []⟩ (.obj [("n", .int 1)]) none
      none (some "alice") true .epoch []).2
    let late : Instant := .ofSeconds 100
    (fetch memoryRepository labelled "a" false (some "alice") false .epoch
        (update memoryRepository labelled [] "a" (some "mallory") false (fun _ => true)
          [("n", .int 2)] plain).2).1 = .ok (.obj [("n", .int 2)]) ∧
      (fetch memoryRepository labelled "a" false (some "alice") true late secret).1 =
        .error (.invalidTicket "not valid anymore") ∧
      (fetch memoryRepository labelled "a" false (some "alice") true late
        (revalidate memoryRepository "a" none (some "#SECURE#") late secret).2).1 =
          .ok (.obj [("n", .int 1)]) :=
  ⟨rfl, rfl, rfl⟩

end Ticket

end SessionBroker
