import SessionBroker.Crypto.Aes

/-!
# Galois counter mode

Authenticated encryption with AES-256, nonces of twelve bytes and no further data. The text is combined
with a stream of encrypted counters; the tag is a polynomial hash of the result, combined with one more
block of the stream. Opening compares the tag before it decrypts.
-/

namespace SessionBroker.Gcm

def nonceLength : Nat := 12

def tagLength : Nat := 16

/-- The number that bytes denote, the most significant first. -/
def toNumber (b : Bytes) : Nat := b.foldl (fun n byte => n * 256 + byte.toNat) 0

/-- The lowest bytes of a number, the most significant first. -/
def ofNumber : Nat → Nat → Bytes
  | 0, _ => []
  | length + 1, n => UInt8.ofNat (n / 256 ^ length) :: ofNumber length n

def blockOf (b : Bytes) : Aes.Block := Vector.ofFn fun i => b[i.val]?.getD 0

/-- The block of the stream with a number. -/
def streamBlock (keys : List Aes.Block) (nonce : Bytes) (count : Nat) : Bytes :=
  (Aes.encrypt keys (blockOf (nonce ++ ofNumber 4 count))).toList

/-- At least that many bytes of the stream, from its second block on. -/
def stream (keys : List Aes.Block) (nonce : Bytes) (length : Nat) : Bytes :=
  (List.range ((length + 15) / 16)).flatMap fun i => streamBlock keys nonce (i + 2)

def combine (text stream : Bytes) : Bytes := List.zipWith (· ^^^ ·) text stream

/-- One step of the product of two elements of the field of 2^128 elements, whose bits stand in reverse
order. -/
def multiplySteps (x : Nat) : Nat → Nat → Nat → Nat
  | 0, _, sum => sum
  | n + 1, v, sum =>
    let sum := if x.testBit n then sum ^^^ v else sum
    multiplySteps x n (if v % 2 = 0 then v / 2 else v / 2 ^^^ (0xE1 <<< 120)) sum

def multiply (x y : Nat) : Nat := multiplySteps x 128 y 0

/-- The hash of bytes whose last block is filled up with zeros. -/
def absorb (h : Nat) : Nat → Nat → Bytes → Nat
  | 0, sum, _ => sum
  | n + 1, sum, b =>
    absorb h n (multiply (sum ^^^ toNumber (blockOf (b.take 16)).toList) h) (b.drop 16)

def tag (keys : List Aes.Block) (nonce text : Bytes) : Bytes :=
  let h := toNumber (Aes.encrypt keys (Vector.replicate 16 0)).toList
  let sum := absorb h ((text.length + 15) / 16) 0 text
  let sum := multiply (sum ^^^ (8 * text.length)) h
  combine (ofNumber 16 sum) (streamBlock keys nonce 1)

/-- The encrypted text and its tag. -/
def encrypt (key nonce plain : Bytes) : Bytes :=
  let keys := Aes.roundKeys key
  let text := combine plain (stream keys nonce plain.length)
  text ++ tag keys nonce text

/-- The text of what `encrypt` gave under the same key and nonce; nothing for any other bytes. -/
def decrypt? (key nonce sealed : Bytes) : Option Bytes :=
  if sealed.length < tagLength then none
  else
    let keys := Aes.roundKeys key
    let text := sealed.take (sealed.length - tagLength)
    if sealed.drop (sealed.length - tagLength) = tag keys nonce text then
      some (combine text (stream keys nonce text.length))
    else none

end SessionBroker.Gcm
