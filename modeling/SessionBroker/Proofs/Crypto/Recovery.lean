import Mathlib.Data.LawfulXor.Basic
import SessionBroker.Crypto.Standard
import SessionBroker.Crypto.TaggedXor

/-!
# Ciphers find again what they encrypted

Both ciphers combine a text with bytes that depend on the key, the nonce and the length of the text only, so
doing it twice gives the text back. What they compare before, a tag, they compute from what they are given in
the same way as when they wrote it.
-/

namespace SessionBroker

/-- Under the key every text can be encrypted, and is found again. -/
def Cipher.Recovers (cipher : Cipher) (key : Bytes) : Prop :=
  ∀ nonce plain, nonce.length = cipher.nonceLength →
    ∃ sealed, cipher.encrypt key nonce plain = .ok sealed ∧ cipher.decrypt key sealed = .ok plain

namespace TaggedXor

theorem mask_mask (key text : Bytes) : mask key (mask key text) = text := by
  refine List.ext_getElem (by simp [mask]) fun i _ _ => ?_
  simp only [mask, List.getElem_mapIdx]
  generalize key[i % key.length]?.getD 0 = k
  rw [UInt8.xor_assoc _ 0x5A k, UInt8.xor_comm 0x5A k, ← UInt8.xor_assoc, xor_cancel_right, xor_cancel_right]

theorem length_tag (key : Bytes) : (tag key).length = 8 := rfl

theorem decrypt_append {key : Bytes} (h : key ≠ []) (plain : Bytes) :
    decrypt key (tag key ++ mask key plain) = .ok plain := by
  have hkey : key.isEmpty = false := by simpa using h
  have htake : (tag key ++ mask key plain).take 8 = tag key := List.take_left' (length_tag key)
  have hdrop : (tag key ++ mask key plain).drop 8 = mask key plain := List.drop_left' (length_tag key)
  unfold decrypt
  rw [htake, hdrop, mask_mask]
  simp [hkey, length_tag]

/-- The trial cipher works with every key but the empty one. -/
theorem recovers {key : Bytes} (h : key ≠ []) : cipher.Recovers key := by
  intro nonce plain _
  refine ⟨tag key ++ mask key plain, ?_, decrypt_append h plain⟩
  simp [cipher, encrypt, h]

end TaggedXor

namespace Gcm

theorem length_combine {text stream : Bytes} (h : text.length ≤ stream.length) :
    (combine text stream).length = text.length := by
  rw [combine, List.length_zipWith, Nat.min_eq_left h]

theorem combine_combine {text stream : Bytes} (h : text.length ≤ stream.length) :
    combine (combine text stream) stream = text := by
  induction text generalizing stream with
  | nil => rfl
  | cons b text ih =>
    cases stream with
    | nil => exact absurd h (by simp)
    | cons s stream =>
      have hrest := ih (Nat.le_of_succ_le_succ h)
      simp only [combine, List.zipWith_cons_cons] at hrest ⊢
      rw [xor_cancel_right, hrest]

theorem length_streamBlock (keys : List Aes.Block) (nonce : Bytes) (count : Nat) :
    (streamBlock keys nonce count).length = 16 :=
  Vector.length_toList ..

/-- The stream is long enough for the text. -/
theorem length_stream (keys : List Aes.Block) (nonce : Bytes) (length : Nat) :
    length ≤ (stream keys nonce length).length := by
  rw [stream, List.length_flatMap]
  simp only [length_streamBlock, List.map_const', List.sum_replicate_nat, List.length_range]
  omega

theorem length_ofNumber (length n : Nat) : (ofNumber length n).length = length := by
  induction length generalizing n with
  | zero => rfl
  | succ length ih => exact congrArg (· + 1) (ih _)

theorem length_tag (keys : List Aes.Block) (nonce text : Bytes) : (tag keys nonce text).length = tagLength := by
  unfold tag
  simp only
  rw [length_combine (Nat.le_of_eq (by rw [length_ofNumber, length_streamBlock])), length_ofNumber]
  rfl

theorem decrypt?_encrypt (key nonce plain : Bytes) :
    decrypt? key nonce (encrypt key nonce plain) = some plain := by
  have hlong := length_stream (Aes.roundKeys key) nonce plain.length
  have hlength := length_combine hlong
  unfold decrypt? encrypt
  simp only [List.length_append, length_tag, Nat.add_sub_cancel]
  rw [if_neg (Nat.not_lt.mpr (Nat.le_add_left ..)), List.take_left, List.drop_left, if_pos rfl, hlength,
    combine_combine hlong]

end Gcm

namespace StandardCipher

theorem decrypt_encrypt (key plain : Bytes) {nonce : Bytes} (h : nonce.length = Gcm.nonceLength) :
    decrypt key (encrypt key nonce plain) = .ok plain := by
  unfold decrypt encrypt
  rw [List.length_append, h, if_neg (Nat.not_lt.mpr (Nat.le_add_right ..)), ← h, List.take_left,
    List.drop_left, Gcm.decrypt?_encrypt]

/-- The standard cipher works with every key. -/
theorem recovers (key : Bytes) : cipher.Recovers key := by
  intro nonce plain hnonce
  refine ⟨encrypt key nonce plain, rfl, ?_⟩
  exact congrArg (Except.mapError CipherError.message) (decrypt_encrypt key plain hnonce)

end StandardCipher

end SessionBroker
