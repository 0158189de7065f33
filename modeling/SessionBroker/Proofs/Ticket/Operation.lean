import Mathlib.Data.List.Induction
import SessionBroker.Proofs.Effect
import SessionBroker.Ticket.Store

/-!
# Operations on tickets one by one

What each decision asks of the record that was found, and what each operation comes to on a table in memory:
it leaves the table as it is, or it writes one record, or it sweeps.
-/

namespace SessionBroker.Ticket

variable {cipher : Cipher} {found : Option TicketRecord} {record after : TicketRecord}
  {owner : Option String} {secure : Bool} {now : Instant} {payload : Json}

/-! ## Decisions -/

theorem protect_plain (nonce : Bytes) :
    protect cipher nonce owner false payload = .ok (Envelope.encode payload) := rfl

/-- A secure payload is revealed by the key that the caller presents. -/
theorem reveal_secure {data : Bytes} (h : reveal cipher data owner true = .ok payload) :
    ∃ key plain, owner = some key ∧ cipher.decrypt (Bytes.ofText key) data = .ok plain ∧
      Envelope.decode plain = .ok payload := by
  cases owner with
  | none => cases h
  | some key =>
    unfold reveal at h
    cases hd : cipher.decrypt (Bytes.ofText key) data with
    | ok plain =>
      simp only [hd, if_true] at h
      exact ⟨key, plain, rfl, hd, h⟩
    | error e =>
      simp only [hd, if_true] at h
      cases h

/-- A secure payload is sealed under the key that the caller presents. -/
theorem protect_secure {nonce data : Bytes} (h : protect cipher nonce owner true payload = .ok data) :
    ∃ key, owner = some key ∧
      cipher.encrypt (Bytes.ofText key) nonce (Envelope.encode payload) = .ok data := by
  cases owner with
  | none => cases h
  | some key =>
    refine ⟨key, rfl, ?_⟩
    change (cipher.encrypt (Bytes.ofText key) nonce (Envelope.encode payload)).mapError
      TicketError.cipher = _ at h
    cases he : cipher.encrypt (Bytes.ofText key) nonce (Envelope.encode payload) with
    | ok sealed =>
      rw [he] at h
      cases h
      rfl
    | error e =>
      rw [he] at h
      cases h

theorem make_ok {config : TicketConfig} {draws : TicketDraws} {validator : Option TicketValidator}
    {validity : Option Duration}
    (h : make cipher config draws payload validator validity owner secure now = .ok record) :
    ∃ data, protect cipher draws.nonce owner secure payload = .ok data ∧
      record = ⟨draws.id, persistedOwner owner secure, now, validity.getD config.defaultValidity, data,
        validator⟩ := by
  unfold make at h
  cases hp : protect cipher draws.nonce owner secure payload with
  | ok data =>
    rw [hp] at h
    cases h
    exact ⟨data, rfl, rfl⟩
  | error e =>
    rw [hp] at h
    cases h

/-- A record that is the caller's and has not expired is read by its payload and its validator. -/
theorem read_some (ho : record.owner = persistedOwner owner secure) (he : ¬ record.expires < now) :
    read cipher (some record) owner secure now =
      match reveal cipher record.data owner secure with
      | .error e => .error e
      | .ok payload =>
        if record.validator.all (·.accepts payload) then .ok (record, payload)
        else .error (.invalidTicket "validation failed") := by
  unfold read
  simp only [Option.filter_some, ho, decide_true, if_true, if_neg he]
  cases reveal cipher record.data owner secure with
  | error e => rfl
  | ok payload => cases record.validator <;> rfl

theorem read_expired (ho : record.owner = persistedOwner owner secure) (he : record.expires < now) :
    read cipher (some record) owner secure now = .error (.invalidTicket "not valid anymore") := by
  unfold read
  simp only [Option.filter_some, ho, decide_true, if_true, if_pos he]

theorem read_other (ho : record.owner ≠ persistedOwner owner secure) :
    read cipher (some record) owner secure now = .error (.invalidTicket "does not exist") := by
  unfold read
  simp only [Option.filter_some, decide_eq_false ho, Bool.false_eq_true, if_false]

theorem read_ok_iff : read cipher found owner secure now = .ok (record, payload) ↔
    found = some record ∧ record.owner = persistedOwner owner secure ∧ ¬ record.expires < now ∧
      reveal cipher record.data owner secure = .ok payload ∧
      record.validator.all (·.accepts payload) = true := by
  constructor
  · intro h
    cases found with
    | none => cases h
    | some r =>
      by_cases ho : r.owner = persistedOwner owner secure
      · by_cases he : r.expires < now
        · rw [read_expired ho he] at h
          cases h
        · rw [read_some ho he] at h
          cases hr : reveal cipher r.data owner secure with
          | error e =>
            rw [hr] at h
            cases h
          | ok p =>
            rw [hr] at h
            dsimp only at h
            split at h
            · next hv =>
              cases h
              exact ⟨rfl, ho, he, hr, hv⟩
            · cases h
      · rw [read_other ho] at h
        cases h
  · rintro ⟨rfl, ho, he, hr, hv⟩
    rw [read_some ho he, hr]
    exact if_pos hv

/-- A payload that is revealed is amended by its check and its fields. -/
theorem amended_revealed {nonce : Bytes} {check : Json → Bool} {fields : Dict Json} :
    reveal cipher record.data owner secure = .ok payload →
    amended cipher nonce record owner secure check fields =
      if !check payload then .error (.invalidTicket "validation failed")
      else match payload with
        | .obj members => (protect cipher nonce owner secure (.obj (merge members fields))).map
          fun data => { record with data := data }
        | _ => .error (.invalidTicket "payload is not a map") := by
  intro h
  unfold amended
  rw [h]
  change (if !check payload then _ else _) = _
  cases check payload with
  | false => rfl
  | true => cases payload <;> rfl

theorem amended_ok {nonce : Bytes} {check : Json → Bool} {fields : Dict Json}
    (h : amended cipher nonce record owner secure check fields = .ok after) :
    ∃ members data, reveal cipher record.data owner secure = .ok (.obj members) ∧
      check (.obj members) = true ∧
      protect cipher nonce owner secure (.obj (merge members fields)) = .ok data ∧
      after = { record with data := data } := by
  cases hr : reveal cipher record.data owner secure with
  | error e =>
    unfold amended at h
    rw [hr] at h
    cases h
  | ok p =>
    rw [amended_revealed hr] at h
    cases hc : check p with
    | false =>
      rw [hc] at h
      cases h
    | true =>
      rw [hc] at h
      cases p with
      | obj members =>
        cases hp : protect cipher nonce owner secure (.obj (merge members fields)) with
        | error e =>
          simp only [hp] at h
          cases h
        | ok data =>
          simp only [hp] at h
          cases h
          exact ⟨members, data, rfl, hc, hp, rfl⟩
      | _ => cases h

/-- A field after an update has the last value for it that is not null, and else the value that it had. -/
theorem find?_merge (members fields : Dict Json) (key : String) :
    Dict.find? key (merge members fields) =
      ((fields.filter fun e => e.1 = key && !e.2.isNull).getLast?.map Prod.snd).or
        (Dict.find? key members) := by
  induction fields using List.reverseRecOn with
  | nil => rfl
  | append_singleton fields e ih =>
    have hlast : merge members (fields ++ [e]) =
        if e.2.isNull then merge members fields else Dict.insert e.1 e.2 (merge members fields) :=
      List.foldl_append ..
    rw [hlast, List.filter_append]
    cases hnull : e.2.isNull with
    | true => simp [hnull, ih]
    | false =>
      by_cases hkey : e.1 = key
      · simp [hnull, hkey, Dict.find?_insert]
      · simp [hnull, hkey, Dict.find?_insert, ih]

/-- The validity after a revalidation. -/
def renewedValidity (old : Duration) : Option Duration → Duration
  | some v => if v.isZero then old else v
  | none => old

theorem renewed_some {validity : Option Duration} (ho : record.owner = owner) :
    renewed (some record) validity owner now =
      .ok { record with stamp := now, validity := renewedValidity record.validity validity } := by
  unfold renewed
  simp only [Option.filter_some, ho, decide_true, if_true]
  cases validity <;> rfl

theorem renewed_other {validity : Option Duration} (ho : record.owner ≠ owner) :
    renewed (some record) validity owner now = .error (.invalidTicket "does not exist") := by
  unfold renewed
  simp only [Option.filter_some, decide_eq_false ho, Bool.false_eq_true, if_false]

theorem renewed_ok {validity : Option Duration}
    (h : renewed found validity owner now = .ok after) :
    ∃ record validity, found = some record ∧ record.owner = owner ∧
      after = { record with stamp := now, validity := validity } := by
  cases found with
  | none => cases h
  | some r =>
    by_cases ho : r.owner = owner
    · rw [renewed_some ho] at h
      exact ⟨r, _, rfl, ho, (Except.ok.inj h).symm⟩
    · rw [renewed_other ho] at h
      cases h

/-! ## Operations on a table in memory -/

section Operations

variable (cipher : Cipher) (id : String) (owner : Option String) (secure : Bool) (now : Instant)
  (t : TicketTable)

theorem fetch_eq (invalidate : Bool) :
    fetch memoryRepository cipher id invalidate owner secure now t =
      if secure && owner.isNone then (.error .missingOwner, t)
      else match read cipher (t.get? id) owner secure now with
        | .error e => (.error e, t)
        | .ok (record, payload) =>
          (.ok payload, if invalidate then t.put record.id (invalidated record now) else t) := by
  have find : ask (memoryRepository.find id) t = (.ok (t.get? id), t) := rfl
  unfold fetch
  cases secure && owner.isNone with
  | true => rfl
  | false =>
    refine (Effect.run_bind_of_ok find _).trans ?_
    cases read cipher (t.get? id) owner secure now with
    | error e => rfl
    | ok result => cases invalidate <;> rfl

/-- A read of the store succeeds as the read of the record that was found does. -/
theorem fetch_ok_iff (invalidate : Bool) {payload : Json} :
    (fetch memoryRepository cipher id invalidate owner secure now t).1 = .ok payload ↔
      ∃ record, read cipher (t.get? id) owner secure now = .ok (record, payload) := by
  rw [fetch_eq]
  cases hmissing : secure && owner.isNone with
  | true =>
    -- a secure ticket is not revealed to nobody
    obtain ⟨rfl, hnone⟩ := (Bool.and_eq_true _ _).mp hmissing
    obtain rfl := Option.isNone_iff_eq_none.mp hnone
    refine iff_of_false nofun ?_
    rintro ⟨record, hread⟩
    exact nomatch (read_ok_iff.mp hread).2.2.2.1
  | false =>
    cases hread : read cipher (t.get? id) owner secure now with
    | error e => simp
    | ok result =>
      obtain ⟨record, revealed⟩ := result
      simp

theorem update_eq (nonce : Bytes) (check : Json → Bool) (fields : Dict Json) :
    update memoryRepository cipher nonce id owner secure check fields t =
      match t.get? id with
      | none => (.ok (), t)
      | some record => match amended cipher nonce record owner secure check fields with
        | .error e => (.error e, t)
        | .ok record => (.ok (), t.put record.id record) := by
  have find : ask (memoryRepository.find id) t = (.ok (t.get? id), t) := rfl
  refine (Effect.run_bind_of_ok find _).trans ?_
  cases t.get? id with
  | none => rfl
  | some record =>
    dsimp only
    cases amended cipher nonce record owner secure check fields <;> rfl

theorem revalidate_eq (validity : Option Duration) :
    revalidate memoryRepository id validity owner now t =
      match renewed (t.get? id) validity owner now with
      | .error e => (.error e, t)
      | .ok record => (.ok (), t.put record.id record) := by
  have find : ask (memoryRepository.find id) t = (.ok (t.get? id), t) := rfl
  refine (Effect.run_bind_of_ok find _).trans ?_
  cases renewed (t.get? id) validity owner now <;> rfl

theorem create_eq (config : TicketConfig) (draws : TicketDraws) (payload : Json)
    (validator : Option TicketValidator) (validity : Option Duration) :
    create memoryRepository cipher config draws payload validator validity owner secure now t =
      match make cipher config draws payload validator validity owner secure now with
      | .error e => (.error e, t)
      | .ok record => (.ok record.id, t.put record.id record) := by
  unfold create
  cases make cipher config draws payload validator validity owner secure now <;> rfl

theorem createForTunnel_eq (config : TicketConfig) (draws : TicketDraws) (ticket : TunnelTicket)
    (validity : Option Duration) :
    createForTunnel memoryRepository cipher config draws ticket validity now t =
      match make cipher config draws (toJson ticket) none (some (validity.getD config.tunnelValidity))
        (some draws.owner) true now with
      | .error e => (.error e, t)
      | .ok record => (.ok (record.id ++ draws.owner), t.put record.id record) := by
  unfold createForTunnel
  rw [Effect.run_bind, create_eq]
  cases make cipher config draws (toJson ticket) none (some (validity.getD config.tunnelValidity))
    (some draws.owner) true now <;> rfl

/-- A read that does not use the ticket up changes nothing. -/
theorem fetch_looks : (fetch memoryRepository cipher id false owner secure now t).2 = t := by
  rw [fetch_eq]
  cases secure && owner.isNone with
  | true => rfl
  | false => cases read cipher (t.get? id) owner secure now <;> rfl

/-- The id of the ticket that a handle is for. -/
def handleId (handle : String) : String := String.ofList (handle.toList.take idLength)

/-- The key that travels in a handle. -/
def handleOwner (handle : String) : String := String.ofList (handle.toList.drop idLength)

/-- What a tunnel server makes of a payload. -/
def tunnelOf (payload : Json) : Except TicketError TunnelTicket :=
  match (fromJson payload : Decoded TunnelTicket) with
  | .ok ticket => .ok ticket
  | .error e => .error (.invalidTicket e.message)

theorem fetchForTunnel_eq (handle : String) :
    fetchForTunnel memoryRepository cipher handle now t =
      if isHandle handle then
        ((fetch memoryRepository cipher (handleId handle) false (handleOwner handle) true now t).1.bind
          tunnelOf, t)
      else (.error (.invalidTicket ("invalid ticket format: " ++ Quoted.text handle)), t) := by
  unfold fetchForTunnel
  cases isHandle handle with
  | false => rfl
  | true =>
    have looks := fetch_looks cipher (handleId handle) (handleOwner handle) true now t
    change (fetch memoryRepository cipher (handleId handle) false (handleOwner handle) true now >>= _) t = _
    rw [Effect.run_bind]
    cases hf : fetch memoryRepository cipher (handleId handle) false (handleOwner handle) true now t with
    | mk outcome s =>
      rw [hf] at looks
      cases looks
      cases outcome with
      | error e => rfl
      | ok payload =>
        simp only [Except.bind, tunnelOf, if_true]
        cases (fromJson payload : Decoded TunnelTicket) <;> rfl

end Operations

end SessionBroker.Ticket
