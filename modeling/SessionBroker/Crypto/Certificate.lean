/-!
# Certificates

An actor serves its connection with a certificate that the broker issues. The key is locked by a
password, and both are secrets: they are never shown by accident.
-/

namespace SessionBroker

/-- A text that must not be shown. -/
structure Secret where
  value : String
deriving DecidableEq

namespace Secret

/-- What stands in for a secret wherever values are displayed. -/
def display (_ : Secret) : String := "Secret(****)"

instance : Repr Secret := ⟨fun s _ => s.display⟩

end Secret

structure CertificateBundle where
  /-- The private key, locked by the password. -/
  key : Secret
  certificate : String
  password : Secret
deriving DecidableEq, Repr

/-- Issues a certificate for an address, with a password drawn before. -/
abbrev Issuer := (ip password : String) → Except String CertificateBundle

/-- An issuer for trials, whose material only names the address. -/
def trialIssuer : Issuer := fun ip password =>
  if ip = "" then .error "no address to issue for"
  else .ok ⟨⟨"faux-key-" ++ ip⟩, "faux-cert-" ++ ip, ⟨password⟩⟩

end SessionBroker
