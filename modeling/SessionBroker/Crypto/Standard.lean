import SessionBroker.Crypto.Cipher
import SessionBroker.Crypto.Gcm
import SessionBroker.Crypto.Sha256

/-!
# The standard cipher

Secure tickets are sealed with AES-256-GCM under the SHA-256 hash of the caller's key. The sealed form
is the nonce, the encrypted text and the tag, one after the other.
-/

namespace SessionBroker.StandardCipher

/-- Why bytes cannot be opened. -/
inductive CipherError
  | truncated
  | decrypt
deriving DecidableEq, Repr

def CipherError.message : CipherError → String
  | .truncated => "The ciphertext is too short to contain a nonce."
  | .decrypt => "Decryption failed, the key is wrong or the data was tampered with."

def encrypt (key nonce plain : Bytes) : Bytes := nonce ++ Gcm.encrypt (Sha256.hash key) nonce plain

def decrypt (key sealed : Bytes) : Except CipherError Bytes :=
  if sealed.length < Gcm.nonceLength then .error .truncated
  else match Gcm.decrypt? (Sha256.hash key) (sealed.take Gcm.nonceLength) (sealed.drop Gcm.nonceLength) with
    | some plain => .ok plain
    | none => .error .decrypt

def cipher : Cipher where
  nonceLength := Gcm.nonceLength
  encrypt key nonce plain := .ok (encrypt key nonce plain)
  decrypt key sealed := (decrypt key sealed).mapError CipherError.message

end SessionBroker.StandardCipher
