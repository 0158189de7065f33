import SessionBroker.Proofs.Crypto.Recovery

/-!
# What the standard cipher accepts

`Gcm.Sealed` says byte by byte what Galois counter mode makes of a text: each byte of it is masked with one byte
of the encrypted counters, and behind them stands the masked hash of the result. Under one key and nonce there is
exactly one such form of each text (`Gcm.sealed_iff`), and it is found again from nothing else
(`Gcm.decrypt?_eq_some_iff`). The standard cipher accepts a nonce in front of such a form and nothing else, so
what it accepts is 28 bytes longer than the text. All this holds at every length, also beyond the 64 GiB that the
standard allows.
-/

namespace SessionBroker

namespace Gcm

variable {keys : List Aes.Block} {nonce plain text sealed : Bytes}

/-! ## The form, byte by byte -/

/-- A byte of the encrypted counters, the first of which is one. -/
def streamByte (keys : List Aes.Block) (nonce : Bytes) (place : Nat) : UInt8 :=
  (Aes.encrypt keys (blockOf (nonce ++ ofNumber 4 (place / 16 + 1)))).get ⟨place % 16, Nat.mod_lt place (by decide)⟩

/-- The hash of a text under a key: its blocks of 16 bytes, the last one filled up with zeros, are the coefficients
of a polynomial, the length in bits is the last one, and the polynomial is evaluated at `h`. -/
def polynomialHash (h : Nat) (text : Bytes) : Nat :=
  let coefficient (i : Nat) : Nat := toNumber (blockOf ((text.drop (16 * i)).take 16)).toList
  let blocks := (List.range ((text.length + 15) / 16)).foldl (fun sum i => multiply (sum ^^^ coefficient i) h) 0
  multiply (blocks ^^^ (8 * text.length)) h

/-- The point at which hashes are evaluated: the block of zeros, encrypted. -/
def hashPoint (keys : List Aes.Block) : Nat := toNumber (Aes.encrypt keys (Vector.replicate 16 0)).toList

/-- The bytes are what Galois counter mode makes of the text: every byte of it masked, then the masked hash, the most
significant byte first. The first sixteen bytes of the encrypted counters mask the hash. -/
structure Sealed (keys : List Aes.Block) (nonce plain sealed : Bytes) : Prop where
  length : sealed.length = plain.length + 16
  text : ∀ i (h : i < plain.length), sealed[i]? = some (plain[i] ^^^ streamByte keys nonce (i + 16))
  tag : ∀ i, i < 16 → sealed[plain.length + i]? =
    some (UInt8.ofNat (polynomialHash (hashPoint keys) (sealed.take plain.length) >>> (8 * (15 - i))) ^^^
      streamByte keys nonce i)

/-- Under one key and nonce a text has one sealed form. -/
theorem Sealed.unique {other : Bytes} (h : Sealed keys nonce plain sealed) (h' : Sealed keys nonce plain other) :
    sealed = other := by
  have htext : sealed.take plain.length = other.take plain.length := by
    refine List.ext_getElem? fun i => ?_
    rw [List.getElem?_take, List.getElem?_take]
    split
    · rename_i hi
      rw [h.text i hi, h'.text i hi]
    · rfl
  refine List.ext_getElem? fun i => ?_
  by_cases hplain : i < plain.length
  · rw [h.text i hplain, h'.text i hplain]
  · obtain ⟨k, rfl⟩ := Nat.exists_eq_add_of_le (Nat.not_lt.mp hplain)
    by_cases hk : k < 16
    · rw [h.tag k hk, h'.tag k hk, htext]
    · have hlength := h.length
      have hlength' := h'.length
      rw [List.getElem?_eq_none (by omega), List.getElem?_eq_none (by omega)]

/-! ## What is computed has the form -/

theorem getElem?_combine {text stream : Bytes} {i : Nat} {b s : UInt8} (hb : text[i]? = some b)
    (hs : stream[i]? = some s) : (combine text stream)[i]? = some (b ^^^ s) := by
  rw [combine, List.getElem?_zipWith, hb, hs]

theorem getElem?_streamBlock (keys : List Aes.Block) (nonce : Bytes) (block : Nat) {i : Nat} (h : i < 16) :
    (streamBlock keys nonce (block + 1))[i]? = some (streamByte keys nonce (16 * block + i)) := by
  have hblock : (16 * block + i) / 16 = block := by omega
  have hplace : (16 * block + i) % 16 = i := by omega
  rw [streamBlock, List.getElem?_eq_getElem (by rwa [Vector.length_toList])]
  simp only [streamByte, hblock, hplace]
  rfl

theorem getElem?_ofNumber (n : Nat) : ∀ {last i : Nat}, i < last + 1 →
    (ofNumber (last + 1) n)[i]? = some (UInt8.ofNat (n >>> (8 * (last - i))))
  | last, 0, _ => by
    rw [Nat.shiftRight_eq_div_pow, Nat.pow_mul]
    rfl
  | last + 1, i + 1, h => by
    rw [Nat.add_sub_add_right]
    exact getElem?_ofNumber n (Nat.lt_of_succ_lt_succ h)

theorem getElem?_flatMap_range {α : Type} {f : Nat → List α} {width : Nat} (hf : ∀ i, (f i).length = width) :
    ∀ {count block i : Nat}, block < count → i < width →
      ((List.range count).flatMap f)[width * block + i]? = (f block)[i]?
  | count + 1, block, i, hblock, hi => by
    have hlength : ((List.range count).flatMap f).length = width * count := by
      rw [List.length_flatMap]
      simp only [hf, List.map_const', List.sum_replicate_nat, List.length_range, Nat.mul_comm]
    rw [List.range_succ, List.flatMap_append, List.flatMap_singleton]
    by_cases h : block < count
    · have hinside : width * block + i < ((List.range count).flatMap f).length := by
        rw [hlength]
        calc width * block + i < width * block + width := by omega
          _ = width * (block + 1) := rfl
          _ ≤ width * count := Nat.mul_le_mul_left _ h
      rw [List.getElem?_append_left hinside, getElem?_flatMap_range hf h hi]
    · obtain rfl : block = count := by omega
      rw [List.getElem?_append_right (by omega), hlength, Nat.add_sub_cancel_left]

/-- The stream starts with the second counter. -/
theorem getElem?_stream (keys : List Aes.Block) (nonce : Bytes) {length i : Nat} (h : i < length) :
    (stream keys nonce length)[i]? = some (streamByte keys nonce (i + 16)) := by
  have hmod : i % 16 < 16 := Nat.mod_lt _ (by decide)
  have hread := getElem?_flatMap_range (fun i => length_streamBlock keys nonce (i + 2))
    (show i / 16 < (length + 15) / 16 by omega) hmod
  rw [Nat.div_add_mod] at hread
  rw [stream, hread, getElem?_streamBlock keys nonce (i / 16 + 1) hmod]
  congr 2
  omega

theorem absorb_eq (h : Nat) (count sum : Nat) (text : Bytes) :
    absorb h count sum text = (List.range count).foldl
      (fun sum i => multiply (sum ^^^ toNumber (blockOf ((text.drop (16 * i)).take 16)).toList) h) sum := by
  induction count generalizing sum text with
  | zero => rfl
  | succ count ih =>
    have hshift (i : Nat) : (text.drop 16).drop (16 * i) = text.drop (16 * (i + 1)) := by
      rw [List.drop_drop, Nat.add_comm]
      rfl
    rw [absorb, ih, List.range_succ_eq_map, List.foldl_cons, List.foldl_map]
    simp only [hshift, Nat.mul_zero, List.drop_zero, Nat.succ_eq_add_one]

theorem tag_eq (keys : List Aes.Block) (nonce text : Bytes) :
    tag keys nonce text =
      combine (ofNumber 16 (polynomialHash (hashPoint keys) text)) (streamBlock keys nonce 1) := by
  unfold tag polynomialHash
  simp only [absorb_eq, hashPoint]

theorem sealed_encrypt (key nonce plain : Bytes) :
    Sealed (Aes.roundKeys key) nonce plain (encrypt key nonce plain) := by
  have hlength := length_combine (length_stream (Aes.roundKeys key) nonce plain.length)
  have htext {i : Nat} (hi : i < plain.length) := getElem?_combine (List.getElem?_eq_getElem hi)
    (getElem?_stream (Aes.roundKeys key) nonce hi)
  change Sealed _ _ _ (combine plain (stream (Aes.roundKeys key) nonce plain.length) ++ tag (Aes.roundKeys key) nonce
    (combine plain (stream (Aes.roundKeys key) nonce plain.length)))
  generalize combine plain (stream (Aes.roundKeys key) nonce plain.length) = text at hlength htext ⊢
  refine ⟨?_, fun i hi => ?_, fun i hi => ?_⟩
  · rw [List.length_append, hlength, length_tag]
    rfl
  · rw [List.getElem?_append_left (by rwa [hlength]), htext hi]
  · have hmask := getElem?_streamBlock (Aes.roundKeys key) nonce 0 hi
    simp only [Nat.mul_zero, Nat.zero_add] at hmask
    rw [List.getElem?_append_right (by omega), hlength, Nat.add_sub_cancel_left, List.take_left' hlength, tag_eq]
    exact getElem?_combine (getElem?_ofNumber _ hi) hmask

/-- The bytes have the form exactly if they are computed so. -/
theorem sealed_iff (key nonce plain sealed : Bytes) :
    Sealed (Aes.roundKeys key) nonce plain sealed ↔ sealed = encrypt key nonce plain :=
  ⟨fun h => h.unique (sealed_encrypt key nonce plain), fun h => h ▸ sealed_encrypt key nonce plain⟩

/-- A text is found in its sealed form and in nothing else. -/
theorem decrypt?_eq_some_iff (key nonce : Bytes) {sealed plain : Bytes} :
    decrypt? key nonce sealed = some plain ↔ sealed = encrypt key nonce plain := by
  constructor
  · intro h
    unfold decrypt? at h
    simp only [Option.ite_none_left_eq_some, Option.ite_none_right_eq_some, Option.some.injEq] at h
    obtain ⟨-, htag, hplain⟩ := h
    have hlong := length_stream (Aes.roundKeys key) nonce (sealed.take (sealed.length - tagLength)).length
    have hlength : plain.length = (sealed.take (sealed.length - tagLength)).length := by
      rw [← hplain, length_combine hlong]
    have hback : combine plain (stream (Aes.roundKeys key) nonce plain.length) =
        sealed.take (sealed.length - tagLength) := by
      rw [hlength, ← hplain, combine_combine hlong]
    unfold encrypt
    simp only [hback, ← htag, List.take_append_drop]
  · rintro rfl
    exact decrypt?_encrypt key nonce plain

end Gcm

/-! ## Key lengths -/

/-- A hash has 32 bytes, as the block cipher needs them. -/
theorem Sha256.length_hash (message : Bytes) : (hash message).length = 32 := rfl

namespace Aes

theorem length_expand (n : Nat) (done : List Word) : (expand n done).length = done.length + n := by
  induction n generalizing done with
  | zero => rfl
  | succ n ih => rw [expand, ih, List.length_cons, Nat.add_assoc, Nat.add_comm 1]

theorem length_wordsOf (b : Bytes) : (wordsOf b).length = b.length / 4 := by
  fun_induction wordsOf b with
  | case1 a b c d rest ih => simp only [List.length_cons, ih]; omega
  | case2 b h =>
    have hshort : b.length < 4 := by
      match b with
      | [] | [_] | [_, _] | [_, _, _] => simp
      | a :: b :: c :: d :: rest => exact absurd rfl (h a b c d rest)
    simp [Nat.div_eq_of_lt hshort]

theorem length_blocksOf (w : List Word) : (blocksOf w).length = w.length / 4 := by
  fun_induction blocksOf w with
  | case1 a b c d rest ih => simp only [List.length_cons, ih]; omega
  | case2 w h =>
    have hshort : w.length < 4 := by
      match w with
      | [] | [_] | [_, _] | [_, _, _] => simp
      | a :: b :: c :: d :: rest => exact absurd rfl (h a b c d rest)
    simp [Nat.div_eq_of_lt hshort]

/-- A key of 32 bytes has the fifteen round keys of the standard. -/
theorem length_roundKeys {key : Bytes} (h : key.length = 32) : (roundKeys key).length = 15 := by
  rw [roundKeys, length_blocksOf, List.length_reverse, length_expand, List.length_reverse, length_wordsOf, h]

end Aes

/-! ## The standard cipher -/

namespace StandardCipher

variable {key sealed plain : Bytes}

/-- What is accepted is exactly what some nonce of twelve bytes gives. -/
theorem decrypt_eq_ok_iff : decrypt key sealed = .ok plain ↔
    ∃ nonce : Bytes, nonce.length = 12 ∧ sealed = encrypt key nonce plain := by
  constructor
  · intro h
    unfold decrypt at h
    split at h
    · cases h
    · rename_i hlong
      split at h
      · rename_i found hfound
        obtain rfl : found = plain := by simpa using h
        refine ⟨sealed.take Gcm.nonceLength, ?_, ?_⟩
        · rw [List.length_take, Nat.min_eq_left (Nat.not_lt.mp hlong)]
          rfl
        · rw [encrypt, ← (Gcm.decrypt?_eq_some_iff _ _).mp hfound, List.take_append_drop]
      · cases h
  · rintro ⟨nonce, hnonce, rfl⟩
    exact decrypt_encrypt key plain hnonce

theorem decrypt_eq_truncated_iff : decrypt key sealed = .error .truncated ↔ sealed.length < 12 := by
  unfold decrypt
  split
  · rename_i h
    exact ⟨fun _ => h, fun _ => rfl⟩
  · rename_i h
    refine ⟨fun hError => ?_, fun hshort => absurd hshort h⟩
    split at hError <;> cases hError

theorem length_of_decrypt (h : decrypt key sealed = .ok plain) : sealed.length = plain.length + 28 := by
  obtain ⟨nonce, hnonce, rfl⟩ := decrypt_eq_ok_iff.mp h
  rw [encrypt, List.length_append, hnonce, (Gcm.sealed_encrypt _ nonce plain).length]
  omega

/-- Under every key, whose hash always is a key of the block cipher, the accepted strings are exactly a nonce of
twelve bytes and the sealed form of the text under it. Hence every encryption is opened again, and what is opened is
28 bytes longer than the text. Strings too short for a nonce are told apart from all others that are rejected. -/
theorem accepts_exactly_sealed (key : Bytes) :
    (Aes.roundKeys (Sha256.hash key)).length = 15 ∧
    (∀ sealed plain : Bytes, decrypt key sealed = .ok plain ↔ ∃ nonce body : Bytes, sealed = nonce ++ body ∧
      nonce.length = 12 ∧ Gcm.Sealed (Aes.roundKeys (Sha256.hash key)) nonce plain body) ∧
    (∀ nonce plain : Bytes, nonce.length = 12 → decrypt key (encrypt key nonce plain) = .ok plain) ∧
    (∀ sealed plain : Bytes, decrypt key sealed = .ok plain → sealed.length = plain.length + 28) ∧
    (∀ sealed : Bytes, sealed.length < 12 → decrypt key sealed = .error .truncated) ∧
    ∀ sealed : Bytes, 12 ≤ sealed.length → (∀ plain, decrypt key sealed ≠ .ok plain) →
      decrypt key sealed = .error .decrypt := by
  refine ⟨Aes.length_roundKeys (Sha256.length_hash key), fun sealed plain => ?_, fun nonce plain hnonce => ?_,
    fun _ _ => length_of_decrypt, fun sealed => decrypt_eq_truncated_iff.mpr, fun sealed hlong hrejected => ?_⟩
  · rw [decrypt_eq_ok_iff]
    constructor
    · rintro ⟨nonce, hnonce, rfl⟩
      exact ⟨nonce, _, rfl, hnonce, Gcm.sealed_encrypt _ nonce plain⟩
    · rintro ⟨nonce, body, rfl, hnonce, hbody⟩
      exact ⟨nonce, hnonce, by rw [encrypt, (Gcm.sealed_iff _ _ _ _).mp hbody]⟩
  · exact decrypt_eq_ok_iff.mpr ⟨nonce, hnonce, rfl⟩
  · cases hopened : decrypt key sealed with
    | ok plain => exact absurd hopened (hrejected plain)
    | error e =>
      cases e with
      | truncated => exact absurd (decrypt_eq_truncated_iff.mp hopened) (Nat.not_lt.mpr hlong)
      | decrypt => rfl

/-- An empty text under an empty key, and strings between the shortest with a nonce and the shortest that is
accepted. -/
theorem accepts_exactly_sealed_empty :
    decrypt [] (encrypt [] (List.replicate 12 0) []) = .ok [] ∧
    (encrypt [] (List.replicate 12 0) []).length = 28 ∧
    decrypt [] (List.replicate 11 0) = .error .truncated ∧
    decrypt [] (List.replicate 12 0) = .error .decrypt ∧ decrypt [] (List.replicate 27 0) = .error .decrypt := by
  obtain ⟨-, -, hopens, hlength, hshort, hrejected⟩ := accepts_exactly_sealed []
  have hopened := hopens (List.replicate 12 0) [] rfl
  have hbetween (n : Nat) (hn : 12 ≤ n) (hn' : n < 28) :
      decrypt [] (List.replicate n 0) = .error .decrypt := by
    refine hrejected _ (by rwa [List.length_replicate]) fun plain h => ?_
    have := hlength _ _ h
    rw [List.length_replicate] at this
    omega
  exact ⟨hopened, hlength _ _ hopened, hshort _ (by decide), hbetween 12 (by decide) (by decide),
    hbetween 27 (by decide) (by decide)⟩

end StandardCipher

end SessionBroker
