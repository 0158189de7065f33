import SessionBroker.Text.Hex

/-!
# Text from damaged UTF-8

Bytes are read one at a time. `scan` gives the characters that they are the form of; every longest start
of a character that does not go on becomes one gap between them. `decodeLossy` writes a replacement
character for each gap.
-/

namespace SessionBroker.Utf8

/-- Characters in a row, with `none` for bytes that are the form of no character. -/
abbrev Scan := List (Option Char)

/-- A text has no gaps. -/
def scanText (s : String) : Scan := s.toList.map some

/-- A character that has begun: how many bytes it still needs, between which bounds the next one has to
lie, and the bits so far. -/
structure Pending where
  owed : Nat
  low : Nat
  high : Nat
  point : Nat
deriving Repr

/-- The first byte of a character: all of it, or a gap, or the start of a longer one. -/
def first (b : Nat) : Option Char ⊕ Pending :=
  if b < 0x80 then .inl (some (Char.ofNat b))
  else if 0xC2 ≤ b && b ≤ 0xDF then .inr ⟨1, 0x80, 0xBF, b - 0xC0⟩
  else if b = 0xE0 then .inr ⟨2, 0xA0, 0xBF, 0⟩
  else if b = 0xED then .inr ⟨2, 0x80, 0x9F, 0xD⟩
  else if 0xE1 ≤ b && b ≤ 0xEF then .inr ⟨2, 0x80, 0xBF, b - 0xE0⟩
  else if b = 0xF0 then .inr ⟨3, 0x90, 0xBF, 0⟩
  else if 0xF1 ≤ b && b ≤ 0xF3 then .inr ⟨3, 0x80, 0xBF, b - 0xF0⟩
  else if b = 0xF4 then .inr ⟨3, 0x80, 0x8F, 4⟩
  else .inl none

/-- Scans on from a character that has begun, with what was scanned before in reverse. -/
def scanFrom : Scan → Option Pending → Bytes → Scan
  | done, none, [] => done.reverse
  | done, some _, [] => (none :: done).reverse
  | done, none, byte :: rest => match first byte.toNat with
    | .inl c => scanFrom (c :: done) none rest
    | .inr p => scanFrom done (some p) rest
  | done, some p, byte :: rest =>
    let b := byte.toNat
    if p.low ≤ b && b ≤ p.high then
      let point := p.point * 64 + (b - 0x80)
      if p.owed = 1 then scanFrom (some (Char.ofNat point) :: done) none rest
      else scanFrom done (some ⟨p.owed - 1, 0x80, 0xBF, point⟩) rest
    else match first b with
      | .inl c => scanFrom (c :: none :: done) none rest
      | .inr q => scanFrom (none :: done) (some q) rest

/-- The characters that bytes are the form of. -/
def scan (b : Bytes) : Scan := scanFrom [] none b

def replacement : Char := Char.ofNat 0xFFFD

def decodeLossy (b : Bytes) : String := String.ofList ((scan b).map (·.getD replacement))

end SessionBroker.Utf8
