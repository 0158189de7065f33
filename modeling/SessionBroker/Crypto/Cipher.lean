import SessionBroker.Text.Hex

/-!
# Ciphers

A cipher encrypts bytes under a key that the caller supplies, of any length. Where encryption needs a nonce it
is handed in. Decryption with another key than the one used has to fail instead of giving other bytes.
-/

namespace SessionBroker

structure Cipher where
  /-- How many bytes of nonce an encryption needs. -/
  nonceLength : Nat
  encrypt : (key nonce plain : Bytes) → Except String Bytes
  decrypt : (key sealed : Bytes) → Except String Bytes

end SessionBroker
