import SessionBroker.Json.Decode

/-!
# Internet addresses

IPv4 addresses are four decimal numbers without leading zeros. IPv6 addresses are eight groups of
hexadecimal digits, of which one run of zeros may be left out, and the last two may be written as an
IPv4 address. Written out, the longest run of at least two zeros is left out, of equal ones the first.
-/

namespace SessionBroker

/-- An address by its octets, or by its groups of 16 bits. -/
inductive IpAddr
  | v4 (octets : List Nat)
  | v6 (groups : List Nat)
deriving DecidableEq, Repr

namespace IpAddr

/-- A number of at most `limit` digits. Unless zeros may lead, only the number zero starts with one. -/
def readNumber (base limit bound : Nat) (zerosLead : Bool) (s : List Char) : Option (Nat × List Char) :=
  let digits := s.takeWhile fun c => (Hex.digit? c).any (· < base)
  let n := digits.foldl (fun n c => n * base + (Hex.digit? c).getD 0) 0
  if digits.isEmpty || limit < digits.length || bound < n then none
  else if !zerosLead && digits.head? = some '0' && 1 < digits.length then none
  else some (n, s.drop digits.length)

def expect (c : Char) : List Char → Option (List Char)
  | x :: rest => if x = c then some rest else none
  | [] => none

def readOctets (s : List Char) : Option (List Nat × List Char) := do
  let octet := readNumber 10 3 255 false
  let (a, s) ← octet s
  let (b, s) ← expect '.' s >>= octet
  let (c, s) ← expect '.' s >>= octet
  let (d, s) ← expect '.' s >>= octet
  some ([a, b, c, d], s)

/-- The two groups that four octets fill. -/
def octetGroups : List Nat → List Nat
  | [a, b, c, d] => [a * 256 + b, c * 256 + d]
  | _ => []

/-- What stands before group number `index`: nothing for the first, else a colon. -/
def separator (index : Nat) (s : List Char) : Option (List Char) :=
  if index = 0 then some s else expect ':' s

/-- Up to `room` groups, and whether octets ended them. `index` counts the groups already read. -/
def readGroups : (room index : Nat) → List Char → List Nat × Bool × List Char
  | 0, _, s => ([], false, s)
  | room + 1, index, s =>
    let octets := if room = 0 then none else separator index s >>= readOctets
    match octets with
    | some (o, rest) => (octetGroups o, true, rest)
    | none => match separator index s >>= readNumber 16 4 65535 true with
      | none => ([], false, s)
      | some (n, rest) =>
        let (more, ended, rest) := readGroups room (index + 1) rest
        (n :: more, ended, rest)

def readV6 (s : List Char) : Option (List Nat × List Char) :=
  let (front, ended, s) := readGroups 8 0 s
  if front.length = 8 then some (front, s)
  else if ended then none
  else do
    let s ← expect ':' s >>= expect ':'
    let (back, _, s) := readGroups (7 - front.length) 0 s
    some (front ++ List.replicate (8 - front.length - back.length) 0 ++ back, s)

def parse? (text : String) : Option IpAddr :=
  let s := text.toList
  match readOctets s with
  | some (octets, rest) => if rest.isEmpty then some (.v4 octets) else none
  | none => match readV6 s with
    | some (groups, rest) => if rest.isEmpty then some (.v6 groups) else none
    | none => none

def octetsText (octets : List Nat) : String := ".".intercalate (octets.map toString)

def groupsText (groups : List Nat) : String :=
  ":".intercalate (groups.map fun g => String.ofList (Nat.toDigits 16 g))

/-- How many zeros stand at the front. -/
def zerosAt (groups : List Nat) : Nat := (groups.takeWhile (· = 0)).length

/-- Start and length of the longest run of zeros, of equal ones the first. -/
def longestZeros (groups : List Nat) : Nat × Nat :=
  (List.range groups.length).foldl (fun (start, length) i =>
    let here := zerosAt (groups.drop i)
    if length < here then (i, here) else (start, length)) (0, 0)

def text : IpAddr → String
  | .v4 octets => octetsText octets
  | .v6 [0, 0, 0, 0, 0, 0xFFFF, a, b] => "::ffff:" ++ octetsText [a / 256, a % 256, b / 256, b % 256]
  | .v6 groups =>
    let (start, length) := longestZeros groups
    if 1 < length then groupsText (groups.take start) ++ "::" ++ groupsText (groups.drop (start + length))
    else groupsText groups

end IpAddr

instance : FromJson IpAddr where
  fromJson
    | .str s => match IpAddr.parse? s with
      | some a => .ok a
      | none => .error (.refused "invalid IP address syntax")
    | other => .error (.invalidType other.describe "IP address")
instance : ToJson IpAddr := ⟨fun a => .str a.text⟩

end SessionBroker
