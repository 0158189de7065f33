import SessionBroker.Proofs.Crypto.Recovery

/-!
# What the trial cipher accepts

`TaggedXor.Sealed` says byte by byte what the trial cipher makes of a text: eight bytes that come from the key
alone, and behind them one byte for each byte of the text. Under one key a text has exactly one such form, and
the text is found again in it. So the cipher opens what it encrypted under the same key and refuses all else,
whatever the lengths of key and text.
-/

namespace SessionBroker.TaggedXor

variable {key plain text sealed other : Bytes} {i : Nat}

/-! ## The form, byte by byte -/

/-- The bytes are the hash of the key, the least significant byte first, and then every byte of the text combined
with the byte of the key that its place falls on when the key is repeated. -/
structure Sealed (key plain sealed : Bytes) : Prop where
  length : sealed.length = plain.length + 8
  tag : ∀ i, i < 8 → sealed[i]? = some (UInt8.ofNat ((keyHash key).toNat >>> (8 * i)))
  text : ∀ i (h : i < plain.length),
    ∃ k, key[i % key.length]? = some k ∧ sealed[i + 8]? = some (plain[i] ^^^ k ^^^ 0x5A)

/-- Under one key a text has one sealed form. -/
theorem Sealed.unique (h : Sealed key plain sealed) (h' : Sealed key plain other) : sealed = other := by
  refine List.ext_getElem? fun i => ?_
  by_cases htag : i < 8
  · rw [h.tag i htag, h'.tag i htag]
  obtain ⟨place, rfl⟩ := Nat.exists_eq_add_of_le' (Nat.not_lt.mp htag)
  by_cases hplain : place < plain.length
  · obtain ⟨k, hk, hbyte⟩ := h.text place hplain
    obtain ⟨k', hk', hbyte'⟩ := h'.text place hplain
    obtain rfl : k = k' := Option.some.inj (hk.symm.trans hk')
    rw [hbyte, hbyte']
  · have hlength := h.length
    have hlength' := h'.length
    rw [List.getElem?_eq_none (by omega), List.getElem?_eq_none (by omega)]

/-! ## What is computed has the form -/

theorem length_mask (key text : Bytes) : (mask key text).length = text.length := List.length_mapIdx

theorem littleEndian_eq (word : UInt64) :
    littleEndian word = (List.range 8).map fun i => UInt8.ofNat (word.toNat >>> (8 * i)) := rfl

theorem getElem?_tag (key : Bytes) (h : i < 8) :
    (tag key)[i]? = some (UInt8.ofNat ((keyHash key).toNat >>> (8 * i))) := by
  rw [tag, littleEndian_eq, List.getElem?_map, List.getElem?_range h]
  rfl

/-- A key that has bytes has one for every place. -/
theorem exists_keyByte (hkey : key ≠ []) (i : Nat) : ∃ k, key[i % key.length]? = some k := by
  have hplace : i % key.length < key.length := Nat.mod_lt i (List.length_pos_iff.mpr hkey)
  exact ⟨key[i % key.length], List.getElem?_eq_getElem hplace⟩

theorem getElem?_mask {k : UInt8} (hk : key[i % key.length]? = some k) (h : i < text.length) :
    (mask key text)[i]? = some (text[i] ^^^ k ^^^ 0x5A) := by
  rw [mask, List.getElem?_mapIdx, List.getElem?_eq_getElem h, hk]
  rfl

theorem sealed_append (hkey : key ≠ []) (plain : Bytes) : Sealed key plain (tag key ++ mask key plain) where
  length := by rw [List.length_append, length_tag, length_mask, Nat.add_comm]
  tag i hi := by rw [List.getElem?_append_left (by rwa [length_tag]), getElem?_tag key hi]
  text i hi := by
    obtain ⟨k, hk⟩ := exists_keyByte hkey i
    refine ⟨k, hk, ?_⟩
    rw [List.getElem?_append_right (by rw [length_tag]; omega), length_tag, Nat.add_sub_cancel, getElem?_mask hk hi]

/-- The bytes have the form exactly if they are computed so. -/
theorem sealed_iff (hkey : key ≠ []) : Sealed key plain sealed ↔ sealed = tag key ++ mask key plain := by
  constructor
  · intro h
    exact h.unique (sealed_append hkey plain)
  · rintro rfl
    exact sealed_append hkey plain

/-! ## Encryption and decryption -/

theorem encrypt_eq_ok_iff : encrypt key plain = .ok sealed ↔ key ≠ [] ∧ sealed = tag key ++ mask key plain := by
  unfold encrypt
  by_cases hkey : key = []
  · simp [hkey]
  · simp [hkey, eq_comm (a := sealed)]

theorem encrypt_eq_error_iff : encrypt key plain = .error "empty key" ↔ key = [] := by
  unfold encrypt
  by_cases hkey : key = [] <;> simp [hkey]

/-- What passes the comparison of tags is cut where the tag ends, and masking the rest again gives it back. -/
theorem decrypt_eq_ok_iff : decrypt key sealed = .ok plain ↔ key ≠ [] ∧ sealed = tag key ++ mask key plain := by
  constructor
  · intro h
    unfold decrypt at h
    split at h
    · cases h
    · rename_i hpasses
      simp only [Bool.or_eq_true, List.isEmpty_iff, decide_eq_true_eq, not_or, not_not] at hpasses
      obtain ⟨⟨hkey, -⟩, htag⟩ := hpasses
      obtain rfl : mask key (sealed.drop 8) = plain := by simpa using h
      refine ⟨hkey, ?_⟩
      calc sealed = sealed.take 8 ++ sealed.drop 8 := (List.take_append_drop 8 sealed).symm
        _ = tag key ++ mask key (mask key (sealed.drop 8)) := by rw [htag, mask_mask]
  · rintro ⟨hkey, rfl⟩
    exact decrypt_append hkey plain

theorem decrypt_eq_error_iff :
    decrypt key sealed = .error "wrong key" ↔ ∀ plain, decrypt key sealed ≠ .ok plain := by
  unfold decrypt
  split <;> simp

/-- Under every key but the empty one, the cipher opens exactly what it gives: bytes are opened to a text if and only
if the text is encrypted to them. What it gives is the sealed form of the text, and every text has one. All other
bytes count as encrypted under another key. -/
theorem opened_iff_encrypted (key sealed : Bytes) :
    (∀ plain, decrypt key sealed = .ok plain ↔ key ≠ [] ∧ encrypt key plain = .ok sealed) ∧
    (∀ plain, encrypt key plain = .ok sealed ↔ key ≠ [] ∧ Sealed key plain sealed) ∧
    (∀ plain, (∃ given, encrypt key plain = .ok given) ↔ key ≠ []) ∧
    (∀ plain, encrypt key plain = .error "empty key" ↔ key = []) ∧
    (decrypt key sealed = .error "wrong key" ↔ ∀ plain, encrypt key plain ≠ .ok sealed) := by
  have hopens (plain : Bytes) : decrypt key sealed = .ok plain ↔ encrypt key plain = .ok sealed := by
    rw [decrypt_eq_ok_iff, encrypt_eq_ok_iff]
  refine ⟨fun plain => ?_, fun plain => ?_, fun plain => ?_, fun plain => encrypt_eq_error_iff, ?_⟩
  · rw [hopens, encrypt_eq_ok_iff, ← and_assoc, and_self]
  · rw [encrypt_eq_ok_iff]
    exact and_congr_right fun hkey => (sealed_iff hkey).symm
  · simp only [encrypt_eq_ok_iff, exists_and_left, exists_eq, and_true]
  · rw [decrypt_eq_error_iff]
    exact forall_congr' fun plain => not_congr (hopens plain)

/-- A key that differs in the last letter is noticed. -/
example : (encrypt (Bytes.ofText "abc") (Bytes.ofText "hello")).bind (decrypt (Bytes.ofText "abd")) =
    .error "wrong key" := rfl

end SessionBroker.TaggedXor
