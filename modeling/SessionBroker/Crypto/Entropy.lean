import SessionBroker.Text.Hex

/-!
# Random draws

Tokens, ids and nonces come from a source of 64-bit numbers that is passed along like any other state,
so an operation that draws is a function of the source. Operations that only need a fixed number of
draws take the drawn values themselves.
-/

namespace SessionBroker

/-- A source of random numbers. -/
structure Entropy where
  seed : UInt64
deriving Repr

namespace Entropy

def next (e : Entropy) : UInt64 × Entropy :=
  let s := e.seed + 0x9E3779B97F4A7C15
  let z := (s ^^^ (s >>> 30)) * 0xBF58476D1CE4E5B9
  let z := (z ^^^ (z >>> 27)) * 0x94D049BB133111EB
  (z ^^^ (z >>> 31), ⟨s⟩)

/-- As many numbers below a bound. -/
def below (bound : Nat) : Nat → Entropy → List Nat × Entropy
  | 0, e => ([], e)
  | n + 1, e =>
    let (word, e) := e.next
    let (rest, e) := below bound n e
    (word.toNat % bound :: rest, e)

def alphabet : String := "ABCDEFGHIJKLMNOPQRSTUVWXYZabcdefghijklmnopqrstuvwxyz0123456789"

/-- A text of letters and digits. -/
def alphanumeric (length : Nat) (e : Entropy) : String × Entropy :=
  let letters := alphabet.toList
  let (places, e) := below letters.length length e
  (String.ofList (places.map fun n => letters[n]?.getD 'A'), e)

def bytes (length : Nat) (e : Entropy) : Bytes × Entropy :=
  let (values, e) := below 256 length e
  (values.map UInt8.ofNat, e)

/-- Random bytes in hexadecimal. -/
def hexadecimal (length : Nat) (e : Entropy) : String × Entropy :=
  let (b, e) := e.bytes length
  (Hex.encode b, e)

end Entropy

end SessionBroker
