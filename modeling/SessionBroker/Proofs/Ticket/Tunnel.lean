import SessionBroker.Executor.Memory
import SessionBroker.Proofs.Json.Record
import SessionBroker.Proofs.Ticket.Locality
import SessionBroker.Proofs.Ticket.Refinement

/-!
# Handles of tunnels

A tunnel ticket is kept as a secure ticket whose key travels at the end of the handle. The handle is cut where the
id ends, the key opens what was stored, and the payload is read field by field. So whoever holds the handle gets
the ticket that it was made for, as often as wanted until it expires, whatever becomes of other tickets meanwhile.
-/

namespace SessionBroker

/-- A text of so many characters, all of them ASCII. -/
def AsciiOf (length : Nat) (s : String) : Prop := s.toList.length = length ∧ ∀ c ∈ s.toList, c.toNat < 128

theorem AsciiOf.append {m n : Nat} {s s' : String} (h : AsciiOf m s) (h' : AsciiOf n s') :
    AsciiOf (m + n) (s ++ s') := by
  unfold AsciiOf
  rw [String.toList_append, List.length_append, h.1, h'.1]
  exact ⟨rfl, fun c hc => (List.mem_append.mp hc).elim (h.2 c) (h'.2 c)⟩

/-! ## Random draws of a ticket -/

namespace Entropy

theorem length_below (bound n : Nat) (e : Entropy) : (below bound n e).1.length = n := by
  induction n generalizing e with
  | zero => rfl
  | succ n ih => exact congrArg (· + 1) (ih _)

theorem length_alphanumeric (length : Nat) (e : Entropy) : (alphanumeric length e).1.toList.length = length := by
  simp [alphanumeric, length_below]

theorem mem_alphanumeric {length : Nat} {e : Entropy} {c : Char} (h : c ∈ (alphanumeric length e).1.toList) :
    c ∈ alphabet.toList := by
  simp only [alphanumeric, String.toList_ofList, List.mem_map] at h
  obtain ⟨n, -, rfl⟩ := h
  cases hn : alphabet.toList[n]? with
  | none => exact (by decide : 'A' ∈ alphabet.toList)
  | some c => exact List.mem_of_getElem? hn

theorem ascii_alphanumeric (length : Nat) (e : Entropy) : AsciiOf length (alphanumeric length e).1 := by
  -- said with `all`: of a bounded quantifier, `decide` may try every character there is
  have hascii : alphabet.toList.all (·.toNat < 128) := by decide
  exact ⟨length_alphanumeric length e,
    fun c hc => of_decide_eq_true (List.all_eq_true.mp hascii c (mem_alphanumeric hc))⟩

theorem ascii_toLower_alphanumeric (length : Nat) (e : Entropy) :
    AsciiOf length (alphanumeric length e).1.toLower := by
  have hlower : alphabet.toList.all (·.toLower.toNat < 128) := by decide
  change AsciiOf length (String.map Char.toLower (alphanumeric length e).1)
  unfold AsciiOf
  rw [String.toList_map, List.length_map]
  refine ⟨length_alphanumeric length e, fun c hc => ?_⟩
  obtain ⟨c', hc', rfl⟩ := List.mem_map.mp hc
  exact of_decide_eq_true (List.all_eq_true.mp hlower c' (mem_alphanumeric hc'))

theorem length_bytes (length : Nat) (e : Entropy) : (bytes length e).1.length = length := by
  simp [bytes, length_below]

end Entropy

/-- The draws have the lengths that they should have, and their texts are ASCII. -/
structure TicketDraws.Proper (cipher : Cipher) (draws : TicketDraws) : Prop where
  id : AsciiOf Ticket.idLength draws.id
  owner : AsciiOf Ticket.tunnelOwnerLength draws.owner
  nonce : draws.nonce.length = cipher.nonceLength

theorem TicketDraws.draw_proper (cipher : Cipher) (e : Entropy) : (draw cipher e).1.Proper cipher where
  id := e.ascii_toLower_alphanumeric Ticket.idLength
  owner := (e.alphanumeric Ticket.idLength).2.ascii_alphanumeric Ticket.tunnelOwnerLength
  nonce := Entropy.length_bytes cipher.nonceLength _

/-! ## Payloads -/

theorem decodeU16_nat {n : Nat} (h : n ≤ 65535) : Json.decodeU16 (toJson n) = .ok n := by
  have hread : Json.decodeInt 0 (65535 : Nat) "u16" (.int n) = .ok n := if_pos (by simpa using h)
  change (Json.decodeInt 0 (65535 : Nat) "u16" (.int n)).map Int.toNat = _
  rw [hread]
  rfl

namespace TunnelTicket

/-- What of a ticket survives its payload: ports have 16 bits, and what comes extra is told exactly in JSON, is not
nested too deep, and is not null. -/
structure Proper (ticket : TunnelTicket) : Prop where
  port_le : ticket.port ≤ 65535
  extra : ∀ e ∈ ticket.extra, e ≠ .null ∧ e.Exact ∧ e.levels + 2 < Json.nestingLimit

variable {ticket : TunnelTicket}

theorem Proper.readsBack (h : ticket.Proper) : ReadsBack ticket := by
  obtain ⟨user, userService, host, port, extra⟩ := ticket
  have hhost : ReadsBack host := .option fun text _ => ⟨.string text, nofun⟩
  have hextra : ReadsBack extra := .option fun e he => ⟨.json e, (h.extra e he).1⟩
  refine RecordReader.Reads.object (.seq (.seq (.seq (.seq (.map ?user _) ?userService) ?host) ?port) ?extra)
    (by simp) "TunnelTicket"
  case user | userService => exact .required (.uuid _) rfl
  case host => exact .optional hhost rfl
  case port => exact .one rfl (decodeU16_nat h.port_le)
  case extra => exact .optional hextra rfl

theorem Proper.storable (h : ticket.Proper) : (toJson ticket : Json).Storable := by
  obtain ⟨user, userService, host, port, extra⟩ := ticket
  have hport : port ≤ 65535 := h.port_le
  have hhost : (toJson host : Json).Exact ∧ (toJson host : Json).levels = 0 := by
    cases host <;> exact ⟨trivial, rfl⟩
  have hextra : (toJson extra : Json).Exact ∧ (toJson extra : Json).levels + 2 < Json.nestingLimit := by
    cases extra with
    | none => exact ⟨trivial, by decide⟩
    | some e => exact (h.extra e rfl).2
  have hexact : (toJson (TunnelTicket.mk user userService host port extra) : Json).Exact := by
    refine .object ?_
    simp only [List.forall_mem_cons, List.not_mem_nil, false_implies, implies_true, and_true]
    exact ⟨trivial, trivial, hhost.1, ⟨by omega, by omega⟩, hextra.1⟩
  have hlevels : (toJson (TunnelTicket.mk user userService host port extra) : Json).levels ≤
      (toJson extra : Json).levels + 1 := by
    refine Json.levels_object_le ?_
    simp only [List.forall_mem_cons, List.not_mem_nil, false_implies, implies_true, and_true]
    exact ⟨Nat.zero_le _, Nat.zero_le _, hhost.2.le.trans (Nat.zero_le _), Nat.zero_le _, Nat.le_refl _⟩
  exact ⟨hexact, by omega⟩

end TunnelTicket

/-! ## Handles -/

namespace Ticket

variable {cipher : Cipher} {config : TicketConfig} {t : TicketTable} {draws : TicketDraws} {ticket : TunnelTicket}
  {now created : Instant}

theorem isHandle_iff {handle : String} : isHandle handle = true ↔ AsciiOf (idLength + tunnelOwnerLength) handle := by
  simp [isHandle, AsciiOf, and_comm]

theorem handleId_append {id owner : String} (h : AsciiOf idLength id) : handleId (id ++ owner) = id := by
  rw [handleId, String.toList_append, ← h.1, List.take_left, String.ofList_toList]

theorem handleOwner_append {id owner : String} (h : AsciiOf idLength id) : handleOwner (id ++ owner) = owner := by
  rw [handleOwner, String.toList_append, ← h.1, List.drop_left, String.ofList_toList]

/-- Both ciphers work with the key of a tunnel, as it is not empty. -/
theorem recovers_owner (hcipher : cipher = TaggedXor.cipher ∨ cipher = StandardCipher.cipher)
    (hdraws : draws.Proper cipher) : cipher.Recovers (Bytes.ofText draws.owner) := by
  rcases hcipher with rfl | rfl
  · refine TaggedXor.recovers fun hempty => ?_
    have howner : draws.owner = "" := Bytes.ofText_injective hempty
    have hlength := hdraws.owner.1
    rw [howner] at hlength
    cases hlength
  · exact StandardCipher.recovers _

/-- What is noted of a tunnel ticket. -/
def tunnelNote (config : TicketConfig) (draws : TicketDraws) (ticket : TunnelTicket) (validity : Option Duration)
    (created : Instant) : Note :=
  ⟨some draws.owner, true, toJson ticket, created, validity.getD config.tunnelValidity, none⟩

/-- A tunnel ticket is stored as it is noted. -/
theorem createForTunnel_held (config : TicketConfig) (hkey : cipher.Recovers (Bytes.ofText draws.owner))
    (hdraws : draws.Proper cipher) (hticket : ticket.Proper) (validity : Option Duration)
    (hcreated : 0 ≤ created.ms) (t : TicketTable) :
    ∃ record, Held cipher draws.id (tunnelNote config draws ticket validity created) record ∧
      createForTunnel memoryRepository cipher config draws ticket validity created t =
        (.ok (draws.id ++ draws.owner), t.put draws.id record) := by
  have hkeyed : true = true → ∃ key, some draws.owner = some key ∧ cipher.Recovers (Bytes.ofText key) :=
    fun _ => ⟨_, rfl, hkey⟩
  obtain ⟨data, hprotect, hreveal⟩ := protect_reveal hkeyed hdraws.nonce hticket.storable
  refine ⟨⟨draws.id, some secured, created, validity.getD config.tunnelValidity, data, none⟩,
    ⟨rfl, rfl, rfl, rfl, rfl, hreveal, hcreated, hkeyed⟩, ?_⟩
  have hmake : make cipher config draws (toJson ticket) none (some (validity.getD config.tunnelValidity))
      (some draws.owner) true created =
        .ok ⟨draws.id, some secured, created, validity.getD config.tunnelValidity, data, none⟩ := by
    unfold make
    rw [hprotect]
    rfl
  rw [createForTunnel_eq, hmake]

/-- The handle of a tunnel ticket that is stored as it is noted gives the ticket until it expires. -/
theorem Held.fetchForTunnel_eq {validity : Option Duration} {record : TicketRecord}
    (h : Held cipher draws.id (tunnelNote config draws ticket validity created) record)
    (hdraws : draws.Proper cipher) (hticket : ticket.Proper) (found : t.get? draws.id = some record) (now : Instant) :
    fetchForTunnel memoryRepository cipher (draws.id ++ draws.owner) now t =
      (if now.ms ≤ created.ms + (validity.getD config.tunnelValidity).ms then .ok ticket
        else .error (.invalidTicket "not valid anymore"), t) := by
  have hread : read cipher (some record) (some draws.owner) true now = _ := h.read_eq
  have htunnel : tunnelOf (toJson ticket) = .ok ticket := by
    unfold tunnelOf
    rw [hticket.readsBack]
  rw [Ticket.fetchForTunnel_eq, if_pos (isHandle_iff.mpr (hdraws.id.append hdraws.owner)), handleId_append hdraws.id,
    handleOwner_append hdraws.id, fetch_eq, found, hread]
  by_cases hvalid : (tunnelNote config draws ticket validity created).Valid now
  · have hms : now.ms ≤ created.ms + (validity.getD config.tunnelValidity).ms := hvalid
    rw [if_neg (not_not_intro hvalid), if_pos hms]
    exact Prod.ext htunnel rfl
  · have hms : ¬ now.ms ≤ created.ms + (validity.getD config.tunnelValidity).ms := hvalid
    rw [if_pos hvalid, if_neg hms]
    rfl

/-- A tunnel ticket is given a handle of 48 characters. The handle gives the ticket again up to the end of its
validity, by a clock that does not end, and never after that; and reading it changes nothing, so this holds any
number of times, whatever is done to other tickets in between. A text that is no handle gives no ticket. -/
theorem tunnel_restored (hcipher : cipher = TaggedXor.cipher ∨ cipher = StandardCipher.cipher)
    (config : TicketConfig) :
    (∀ {t draws ticket created}, Sound t → draws.Proper cipher → ticket.Proper → 0 ≤ created.ms →
      ∀ validity,
      (createForTunnel memoryRepository cipher config draws ticket validity created t).1 =
          .ok (draws.id ++ draws.owner) ∧
        AsciiOf 48 (draws.id ++ draws.owner) ∧
        ∀ tasks : List Task, (∀ task ∈ tasks, task.Leaves draws.id) → ∀ now,
          let after := performAll cipher config tasks
            (createForTunnel memoryRepository cipher config draws ticket validity created t).2
          fetchForTunnel memoryRepository cipher (draws.id ++ draws.owner) now after =
            (if now.ms ≤ created.ms + (validity.getD config.tunnelValidity).ms then .ok ticket
              else .error (.invalidTicket "not valid anymore"), after)) ∧
    ∀ handle, ¬ AsciiOf 48 handle → ∀ now t, ∃ reason,
      fetchForTunnel memoryRepository cipher handle now t = (.error (.invalidTicket reason), t) := by
  refine ⟨fun {t draws ticket created} ht hdraws hticket hcreated validity => ?_, fun handle hhandle now t => ?_⟩
  · have hkey := recovers_owner hcipher hdraws
    obtain ⟨record, hheld, hcreate⟩ := createForTunnel_held config hkey hdraws hticket validity hcreated t
    rw [hcreate]
    refine ⟨rfl, hdraws.id.append hdraws.owner, fun tasks htasks now => ?_⟩
    have hsound : Sound (t.put draws.id record) := hheld.id_eq ▸ ht.put record
    have found : (performAll cipher config tasks (t.put draws.id record)).get? draws.id = some record := by
      rw [performAll_leaves hsound htasks, Table.get?_put, if_pos rfl]
    exact hheld.fetchForTunnel_eq hdraws hticket found now
  · have hrefused := fetchForTunnel_eq cipher now t handle
    rw [if_neg fun h => hhandle (isHandle_iff.mp h)] at hrefused
    exact ⟨_, hrefused⟩

/-- A handle of the standard cipher, used once before and then at the last instant of its time and right after it. -/
theorem tunnel_restored_last_instant :
    let draws := (TicketDraws.draw StandardCipher.cipher ⟨7⟩).1
    let ticket : TunnelTicket := ⟨.nil, .nil, none, 65535, some (.obj [("t", .arr [.null, .int (-1)])])⟩
    let handle := draws.id ++ draws.owner
    let tasks : List Task := [.fetchForTunnel handle .epoch,
      .create ⟨"other", "", []⟩ .null none none none false .epoch]
    let after := performAll StandardCipher.cipher .standard tasks
      (createForTunnel memoryRepository StandardCipher.cipher .standard draws ticket none .epoch []).2
    draws.Proper StandardCipher.cipher ∧ ticket.Proper ∧ (∀ task ∈ tasks, task.Leaves draws.id) ∧
      ¬ AsciiOf 48 "handle" ∧
      fetchForTunnel memoryRepository StandardCipher.cipher handle (.ofSeconds 604800) after = (.ok ticket, after) ∧
      fetchForTunnel memoryRepository StandardCipher.cipher handle (.ofMs 604800001) after =
        (.error (.invalidTicket "not valid anymore"), after) ∧
      ∃ reason, fetchForTunnel memoryRepository StandardCipher.cipher "handle" .epoch after =
        (.error (.invalidTicket reason), after) := by
  intro draws ticket handle tasks after
  have hdraws : draws.Proper StandardCipher.cipher := TicketDraws.draw_proper _ _
  have hextra : Json.Exact (.obj [("t", .arr [.null, .int (-1)])]) :=
    ⟨List.pairwise_singleton .., ⟨trivial, ⟨by decide, by decide⟩, trivial⟩, trivial⟩
  have hticket : ticket.Proper := ⟨Nat.le_refl _, fun e he => by cases he; exact ⟨nofun, hextra, by decide⟩⟩
  have hother : "other" ≠ draws.id := fun h => absurd (h ▸ hdraws.id.1) (by decide)
  have htasks : ∀ task ∈ tasks, task.Leaves draws.id := by
    simp only [tasks, List.forall_mem_cons, List.not_mem_nil, false_implies, implies_true, and_true]
    exact ⟨trivial, hother⟩
  have hhandle : ¬ AsciiOf 48 "handle" := fun h => absurd h.1 (by decide)
  obtain ⟨restored, refused⟩ := tunnel_restored (.inr rfl) .standard
  obtain ⟨-, -, reads⟩ := restored Sound.empty hdraws hticket (show 0 ≤ Instant.epoch.ms by decide) none
  exact ⟨hdraws, hticket, htasks, hhandle, reads tasks htasks (.ofSeconds 604800),
    reads tasks htasks (.ofMs 604800001), refused "handle" hhandle .epoch after⟩

end Ticket

end SessionBroker
