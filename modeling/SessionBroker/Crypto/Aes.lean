import SessionBroker.Text.Hex

/-!
# AES-256

The block cipher of FIPS 197 with a key of 32 bytes, in the forward direction. A block holds four
columns of four bytes.
-/

namespace SessionBroker.Aes

abbrev Block := Vector UInt8 16

abbrev Word := Vector UInt8 4

/-- Multiplication by x in the field of 256 elements. -/
def double (b : UInt8) : UInt8 := (b <<< 1) ^^^ (if b &&& 0x80 = 0 then 0 else 0x1B)

/-- Product in the field, taking the bits of the second factor from the lowest. -/
def multiplySteps : Nat → UInt8 → UInt8 → UInt8 → UInt8
  | 0, _, _, sum => sum
  | n + 1, a, b, sum =>
    multiplySteps n (double a) (b >>> 1) (if b &&& 1 = 0 then sum else sum ^^^ a)

def multiply (a b : UInt8) : UInt8 := multiplySteps 8 a b 0

def power (a : UInt8) : Nat → UInt8
  | 0 => 1
  | n + 1 => multiply a (power a n)

def rotateLeft (b : UInt8) (n : UInt8) : UInt8 := (b <<< n) ||| (b >>> (8 - n))

/-- The substitution of one byte: the inverse in the field, then an affine map. -/
def substitution (b : UInt8) : UInt8 :=
  let i := power b 254
  i ^^^ rotateLeft i 1 ^^^ rotateLeft i 2 ^^^ rotateLeft i 3 ^^^ rotateLeft i 4 ^^^ 0x63

/-- The substitutions of all bytes. -/
def substitutions : Vector UInt8 256 := Vector.ofFn fun i => substitution (UInt8.ofNat i)

def substitute (b : UInt8) : UInt8 := substitutions.get ⟨b.toNat, b.toNat_lt⟩

/-- The word that is added to the first word of a round key. -/
def scheduleCore (round : Nat) (w : Word) : Word :=
  #v[substitute w[1] ^^^ power 2 (round - 1), substitute w[2], substitute w[3], substitute w[0]]

/-- The words of the key schedule, the latest first, extended by as many. -/
def expand : Nat → List Word → List Word
  | 0, done => done
  | n + 1, done =>
    let count := done.length
    let last := done.head?.getD (Vector.replicate 4 0)
    let mixed :=
      if count % 8 = 0 then scheduleCore (count / 8) last
      else if count % 8 = 4 then last.map substitute
      else last
    let earlier := done[7]?.getD (Vector.replicate 4 0)
    expand n (Vector.zipWith (· ^^^ ·) earlier mixed :: done)

def wordsOf : Bytes → List Word
  | a :: b :: c :: d :: rest => #v[a, b, c, d] :: wordsOf rest
  | _ => []

def blocksOf : List Word → List Block
  | a :: b :: c :: d :: rest => (a ++ b ++ c ++ d) :: blocksOf rest
  | _ => []

/-- The fifteen round keys of a key of 32 bytes. -/
def roundKeys (key : Bytes) : List Block := blocksOf (expand 52 (wordsOf key).reverse).reverse

def addKey (a b : Block) : Block := Vector.zipWith (· ^^^ ·) a b

/-- Row `r` moves left by `r` columns. -/
def shiftRows (b : Block) : Block := Vector.ofFn fun i => b[(i.val + 4 * (i.val % 4)) % 16]

def mixColumns (b : Block) : Block := Vector.ofFn fun i =>
  let column := i.val / 4 * 4
  let cell (row : Nat) : UInt8 := b[(column + (i.val + row) % 4) % 16]
  double (cell 0) ^^^ (double (cell 1) ^^^ cell 1) ^^^ cell 2 ^^^ cell 3

/-- The rounds after the first key; the last one leaves the columns unmixed. -/
def rounds : List Block → Block → Block
  | [], b => b
  | [key], b => addKey (shiftRows (b.map substitute)) key
  | key :: rest, b => rounds rest (addKey (mixColumns (shiftRows (b.map substitute))) key)

def encrypt (keys : List Block) (b : Block) : Block :=
  match keys with
  | [] => b
  | key :: rest => rounds rest (addKey b key)

end SessionBroker.Aes
