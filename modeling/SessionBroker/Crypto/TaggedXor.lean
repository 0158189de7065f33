import SessionBroker.Crypto.Cipher

/-!
# The trial cipher

A cipher for trials that keeps nothing secret: the text is combined with the key by exclusive or, behind
eight bytes of a hash of the key, by which a wrong key is noticed.
-/

namespace SessionBroker.TaggedXor

def hashStep (h : UInt64) (byte : UInt8) : UInt64 := (h ^^^ byte.toUInt64) * 0x100000001B3

def keyHash (key : Bytes) : UInt64 := key.foldl hashStep 0xCBF29CE484222325

/-- The bytes of a word, the least significant first. -/
def littleEndian (word : UInt64) : Bytes :=
  [word, word >>> 8, word >>> 16, word >>> 24, word >>> 32, word >>> 40, word >>> 48, word >>> 56].map
    UInt64.toUInt8

def tag (key : Bytes) : Bytes := littleEndian (keyHash key)

/-- Combines the text with the key, which is repeated as often as needed. -/
def mask (key text : Bytes) : Bytes :=
  text.mapIdx fun i b => b ^^^ key[i % key.length]?.getD 0 ^^^ 0x5A

def encrypt (key plain : Bytes) : Except String Bytes :=
  if key.isEmpty then .error "empty key" else .ok (tag key ++ mask key plain)

def decrypt (key sealed : Bytes) : Except String Bytes :=
  if key.isEmpty || sealed.length < 8 || sealed.take 8 ≠ tag key then .error "wrong key"
  else .ok (mask key (sealed.drop 8))

def cipher : Cipher where
  nonceLength := 0
  encrypt key _ plain := encrypt key plain
  decrypt := decrypt

end SessionBroker.TaggedXor
