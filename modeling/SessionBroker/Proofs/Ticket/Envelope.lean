import SessionBroker.Proofs.Crypto.Recovery
import SessionBroker.Proofs.Json.RoundTrip
import SessionBroker.Proofs.Text.Utf8
import SessionBroker.Proofs.Ticket.Operation

/-!
# Payloads survive their envelope

A payload that can be told exactly in JSON is found again in the bytes of its envelope, and so in the stored
form of a ticket if its cipher works with the key. Bytes that do not begin like an object or an array are no
envelope.
-/

namespace SessionBroker

open Json (Source readRecord readWanted)

/-- The payload is told exactly, and nested so deep at most that its envelope can be read. -/
structure Json.Storable (payload : Json) : Prop where
  exact : payload.Exact
  levels_lt : payload.levels + 1 < nestingLimit

namespace Envelope

/-- What stands between the braces of an envelope, with the closing one. -/
def inside (payload : Json) : Source :=
  (Json.quote "v").map some ++ some ':' :: ((Json.chars (.int 1)).map some ++
    some ',' :: ((Json.quote "data").map some ++ some ':' :: (payload.chars.map some ++ [some '\x7d'])))

theorem scan_encode (payload : Json) : Utf8.scan (encode payload) = some '\x7b' :: inside payload := by
  rw [encode, Utf8.scan_ofText, Utf8.scanText]
  simp only [String.toList_append, Json.compact, String.toList_ofList, List.map_append, List.append_assoc]
  rfl

theorem readWanted_inside {payload : Json} (h : payload.Storable) {fuel : Nat}
    (hfuel : 2 * payload.chars.length + 6 ≤ fuel) :
    readWanted ["v", "data"] 127 (fuel + 2) [] true (inside payload) =
      some ([("data", payload), ("v", .int 1)], []) := by
  have hv {rest : Source} : Json.readValue (fuel + 1) (some 127) ((Json.chars (.int 1)).map some ++
      some ',' :: rest) = some (.int 1, some ',' :: rest) :=
    Json.readValue_chars (.int 1) ⟨by decide, by decide⟩ (by change 2 ≤ fuel + 1; omega) (by decide)
      (.inl rfl)
  have hdata : Json.readValue fuel (some 127) (payload.chars.map some ++ [some '\x7d']) =
      some (payload, [some '\x7d']) :=
    Json.readValue_chars payload h.exact (by omega) (Nat.lt_of_succ_lt_succ h.levels_lt) (.inr (.inr rfl))
  refine (Json.readWanted_member rfl rfl rfl (by change 1 < fuel + 1; omega) hv).trans ?_
  refine (Json.readWanted_member rfl rfl rfl (by change 4 < fuel; omega) hdata).trans ?_
  rfl

theorem readRecord_encode {payload : Json} (h : payload.Storable) :
    readRecord ["v", "data"] Json.nestingLimit (Utf8.scan (encode payload)) =
      some (.obj [("data", payload), ("v", .int 1)], []) := by
  have hlength : 2 * payload.chars.length + 6 ≤ 2 * (inside payload).length := by
    simp only [inside, List.length_append, List.length_map, List.length_cons, List.length_nil]
    omega
  rw [scan_encode, readRecord, Json.skipSpace_cons rfl]
  change (readWanted ["v", "data"] 127 (2 * (inside payload).length + 2) [] true (inside payload)).map _ = _
  rw [readWanted_inside h hlength]
  rfl

theorem decode_encode {payload : Json} (h : payload.Storable) : decode (encode payload) = .ok payload := by
  have hread : read? (encode payload) = some (1, payload) := by
    unfold read?
    rw [readRecord_encode h]
    rfl
  rw [decode, hread]
  rfl

/-- An envelope begins with a brace. -/
theorem encode_head (payload : Json) : ∃ rest, encode payload = 0x7b :: rest := by
  rw [encode, Bytes.ofText_eq]
  simp only [String.toList_append]
  exact ⟨_, rfl⟩

/-- What begins with a null character is no envelope. -/
theorem decode_null (rest : Bytes) : decode (0 :: rest) = .error (.invalidTicket "undecodable payload") := by
  have hscan : Utf8.scan (0 :: rest) = some (Char.ofNat 0) :: Utf8.scan rest :=
    Utf8.scan_char (by decide) rfl
  have hread : read? (0 :: rest) = none := by
    rw [read?, hscan]
    rfl
  rw [decode, hread]

end Envelope

/-- A payload that is stored is revealed again. -/
theorem Ticket.protect_reveal {cipher : Cipher} {owner : Option String} {secure : Bool} {nonce : Bytes}
    {payload : Json} (hkey : secure = true → ∃ key, owner = some key ∧ cipher.Recovers (Bytes.ofText key))
    (hnonce : nonce.length = cipher.nonceLength) (hpayload : payload.Storable) :
    ∃ data, protect cipher nonce owner secure payload = .ok data ∧
      reveal cipher data owner secure = .ok payload := by
  cases secure with
  | false => exact ⟨_, protect_plain nonce, Envelope.decode_encode hpayload⟩
  | true =>
    obtain ⟨key, rfl, hrecovers⟩ := hkey rfl
    obtain ⟨sealed, hencrypt, hdecrypt⟩ := hrecovers nonce (Envelope.encode payload) hnonce
    refine ⟨sealed, ?_, ?_⟩
    · simp [protect, hencrypt, Except.mapError]
    · simp [reveal, hdecrypt, Envelope.decode_encode hpayload]

end SessionBroker
