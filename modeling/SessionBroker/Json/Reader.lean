import SessionBroker.Json.Value
import SessionBroker.Json.Double
import SessionBroker.Text.Decimal
import SessionBroker.Text.Utf8

/-!
# Reading JSON

A text is read into a value with at most 127 levels of nesting. Of two members with one key the later
counts. Strings must not hold halves of surrogate pairs and numbers must not exceed the largest
floating point number.

Besides whole values, `readRecord` reads an object of which only some members are wanted. The others
are passed over: they have to be well formed, but their strings, numbers and nesting are not looked at,
so that a string may even hold bytes that are no text. Of a wanted member there may be only one.
-/

namespace SessionBroker.Json

/-- Values nested deeper than this less one are refused. -/
def nestingLimit : Nat := 128

/-- What is read: a text, perhaps with gaps where bytes are the form of no character. -/
abbrev Source := Utf8.Scan

def isSpace (c : Char) : Bool := c = ' ' || c = '\n' || c = '\t' || c = '\r'

def skipSpace : Source → Source
  | some c :: rest => if isSpace c then skipSpace rest else some c :: rest
  | s => s

/-- Only blanks are left. -/
def atEnd (s : Source) : Bool := (skipSpace s).isEmpty

/-- Four hexadecimal digits. -/
def readHex4 : Source → Option (Nat × Source)
  | some a :: some b :: some c :: some d :: rest => do
    let a ← Hex.digit? a
    let b ← Hex.digit? b
    let c ← Hex.digit? c
    let d ← Hex.digit? d
    some (((a * 16 + b) * 16 + c) * 16 + d, rest)
  | _ => none

/-- A string as it was scanned: its characters, and whether it has no gaps and every escape denoted one. -/
structure Scanned where
  chars : List Char
  sound : Bool

/-- The character behind a backslash that is written by one letter. -/
def shortEscape : Char → Option Char
  | '"' => some '"'
  | '\\' => some '\\'
  | '/' => some '/'
  | 'b' => some (Char.ofNat 8)
  | 'f' => some (Char.ofNat 12)
  | 'n' => some '\n'
  | 'r' => some '\r'
  | 't' => some '\t'
  | _ => none

/-- Scans up to the closing quote, with the characters so far in reverse. -/
def scanString : Nat → List Char → Bool → Source → Option (Scanned × Source)
  | 0, _, _, _ => none
  | _ + 1, _, _, [] => none
  | fuel + 1, done, _, none :: rest => scanString fuel done false rest
  | _ + 1, done, sound, some '"' :: rest => some (⟨done.reverse, sound⟩, rest)
  | fuel + 1, done, sound, some '\\' :: some 'u' :: rest => do
    let (unit, rest) ← readHex4 rest
    if 0xD800 ≤ unit && unit ≤ 0xDBFF then
      match rest with
      | some '\\' :: some 'u' :: tail => do
        let (low, after) ← readHex4 tail
        if 0xDC00 ≤ low && low ≤ 0xDFFF then
          let point := 0x10000 + (unit - 0xD800) * 0x400 + (low - 0xDC00)
          scanString fuel (Char.ofNat point :: done) sound after
        else scanString fuel done false rest
      | _ => scanString fuel done false rest
    else if 0xDC00 ≤ unit && unit ≤ 0xDFFF then scanString fuel done false rest
    else scanString fuel (Char.ofNat unit :: done) sound rest
  | fuel + 1, done, sound, some '\\' :: some c :: rest => do
    let e ← shortEscape c
    scanString fuel (e :: done) sound rest
  | fuel + 1, done, sound, some c :: rest =>
    if c = '\\' || c.toNat < 32 then none else scanString fuel (c :: done) sound rest

/-- The parts of a written number. -/
structure Numeral where
  isNegative : Bool
  whole : List Char
  /-- The digits behind the point, if there is one. -/
  fraction : Option (List Char)
  exponent : Option Int

/-- The digits at the front, and what follows them. -/
def spanDigits (s : Source) : List Char × Source :=
  let isDigit (c : Option Char) : Bool := c.any Decimal.isDigit
  ((s.takeWhile isDigit).filterMap id, s.dropWhile isDigit)

/-- Exponents beyond this are all alike. -/
def exponentLimit : Nat := 2147483647

/-- Scans a number. A leading zero stands alone, and a point and an exponent need digits. -/
def scanNumber (s : Source) : Option (Numeral × Source) := do
  let (isNegative, s) := match s with
    | some '-' :: rest => (true, rest)
    | s => (false, s)
  let (whole, s) := spanDigits s
  if whole.isEmpty || (whole.head? == some '0' && whole.length != 1) then none
  let (fraction, s) ← match s with
    | some '.' :: rest =>
      let (digits, rest) := spanDigits rest
      if digits.isEmpty then none else some (some digits, rest)
    | s => some (none, s)
  let (exponent, s) ← match s with
    | some e :: rest =>
      if e = 'e' || e = 'E' then
        let (sign, rest) := match rest with
          | some '+' :: r => ((1 : Int), r)
          | some '-' :: r => (-1, r)
          | r => (1, r)
        let (digits, rest) := spanDigits rest
        if digits.isEmpty then none
        else some (some (sign * Decimal.valueUpTo (exponentLimit + 1) digits), rest)
      else some (none, some e :: rest)
    | s => some (none, s)
  some (⟨isNegative, whole, fraction, exponent⟩, s)

/-- The digits that fit into 64 bits, as a number, and the digits that are left. -/
def significand : Nat → List Char → Nat × List Char
  | n, [] => (n, [])
  | n, c :: rest =>
    let next := 10 * n + Decimal.digitValue c
    if 18446744073709551615 < next then (n, c :: rest) else significand next rest

/-- Exponents saturate where they no longer matter. -/
def clampExponent (e : Int) : Int := max (-(exponentLimit : Int) - 1) (min exponentLimit e)

namespace Numeral

/-- The floating point number of a numeral. Digits before the point that do not fit the significand
still count for their place. -/
def double? (n : Numeral) : Option Double :=
  let (lead, dropped) := significand 0 n.whole
  let (digits, shift) := match n.fraction with
    | none => (lead, (dropped.length : Int))
    | some f =>
      let (all, left) := significand lead f
      (all, (dropped.length : Int) - ((f.length : Int) - left.length))
  let e := n.exponent.getD 0
  if exponentLimit < e.natAbs then
    if digits ≠ 0 && 0 < e then none else Double.ofParts? n.isNegative 0 0
  else Double.ofParts? n.isNegative digits (clampExponent (shift + e))

/-- The value of a numeral: a whole number where one is written that fits, else floating point.
A negative zero is floating point. -/
def value? (n : Numeral) : Option Json :=
  match n.fraction, n.exponent with
  | none, none =>
    let (magnitude, dropped) := significand 0 n.whole
    if !dropped.isEmpty then n.double?.map .float
    else if !n.isNegative then some (.int magnitude)
    else if magnitude = 0 || 9223372036854775808 < magnitude then n.double?.map .float
    else some (.int (-(magnitude : Int)))
  | _, _ => n.double?.map .float

end Numeral

/-- One of the fixed words. -/
def readWord (word : String) (s : Source) : Option Source :=
  if (Utf8.scanText word).isPrefixOf s then some (s.drop word.length) else none

mutual

/-- Reads the value at the front. `depth` is the number of levels that may still be opened, less one;
without it the value is passed over and comes out as null. -/
def readValue : Nat → Option Nat → Source → Option (Json × Source)
  | 0, _, _ => none
  | fuel + 1, depth, s =>
    match skipSpace s with
    | [] => none
    | some 'n' :: rest => (readWord "ull" rest).map (.null, ·)
    | some 't' :: rest => (readWord "rue" rest).map (.bool true, ·)
    | some 'f' :: rest => (readWord "alse" rest).map (.bool false, ·)
    | some '"' :: rest => do
      let (scanned, rest) ← scanString fuel [] true rest
      if depth.isSome && !scanned.sound then none
      else some (.str (String.ofList scanned.chars), rest)
    | some '[' :: rest =>
      match depth with
      | some 0 => none
      | some 1 => none
      | _ => readItems fuel (depth.map (· - 1)) [] rest
    | some '{' :: rest =>
      match depth with
      | some 0 => none
      | some 1 => none
      | _ => readMembers fuel (depth.map (· - 1)) [] rest
    | s => do
      let (numeral, rest) ← scanNumber s
      match depth with
      | none => some (.null, rest)
      | some _ => (numeral.value?).map (·, rest)

/-- The items of an array up to the bracket, with those read so far in reverse. -/
def readItems : Nat → Option Nat → List Json → Source → Option (Json × Source)
  | 0, _, _, _ => none
  | fuel + 1, depth, done, s =>
    match done, skipSpace s with
    | [], some ']' :: rest => some (.arr [], rest)
    | _, s => match readValue fuel depth s with
      | none => none
      | some (item, s) => match skipSpace s with
        | some ',' :: rest => readItems fuel depth (item :: done) rest
        | some ']' :: rest => some (.arr (item :: done).reverse, rest)
        | _ => none

/-- The members of an object up to the brace, with those read so far in reverse. -/
def readMembers : Nat → Option Nat → List (String × Json) → Source → Option (Json × Source)
  | 0, _, _, _ => none
  | fuel + 1, depth, done, s =>
    match done, skipSpace s with
    | [], some '}' :: rest => some (.obj [], rest)
    | _, some '"' :: rest => match scanString fuel [] true rest with
      | none => none
      | some (key, s) =>
        if depth.isSome && !key.sound then none
        else match skipSpace s with
          | some ':' :: s => match readValue fuel depth s with
            | none => none
            | some (value, s) =>
              let done := (String.ofList key.chars, value) :: done
              match skipSpace s with
              | some ',' :: rest => readMembers fuel depth done rest
              | some '}' :: rest => some (object done.reverse, rest)
              | _ => none
          | _ => none
    | _, _ => none

end

/-- Enough steps for any text of that length. -/
def readFuel (s : Source) : Nat := 2 * s.length + 2

/-- The value that the whole source denotes. -/
def parseSource? (s : Source) : Option Json := do
  let (value, rest) ← readValue (readFuel s) (some nestingLimit) s
  if atEnd rest then some value else none

def parse? (text : String) : Option Json := parseSource? (Utf8.scanText text)

/-- The value that the bytes denote as UTF-8 text. -/
def parseBytes? (b : Bytes) : Option Json := parseSource? (Utf8.scan b)

/-- The wanted members of an object. -/
def readWanted (wanted : List String) (depth : Nat) :
    Nat → Dict Json → Bool → Source → Option (Dict Json × Source)
  | 0, _, _, _ => none
  | fuel + 1, found, first, s =>
    match first, skipSpace s with
    | true, some '}' :: rest => some (found, rest)
    | _, some '"' :: rest => do
      let (key, s) ← scanString fuel [] true rest
      if !key.sound then none
      else
        let key := String.ofList key.chars
        match skipSpace s with
        | some ':' :: s => do
          let isWanted := wanted.contains key
          if isWanted && (Dict.find? key found).isSome then none
          else
            let (value, s) ← readValue fuel (if isWanted then some depth else none) s
            let found := if isWanted then Dict.insert key value found else found
            match skipSpace s with
            | some ',' :: rest => readWanted wanted depth fuel found false rest
            | some '}' :: rest => some (found, rest)
            | _ => none
        | _ => none
    | _, _ => none

/-- Reads a record: an object by its wanted members, or an array. Other values are refused. -/
def readRecord (wanted : List String) (depth : Nat) (s : Source) : Option (Json × Source) :=
  match skipSpace s with
  | some '{' :: rest => (readWanted wanted (depth - 1) (readFuel rest) [] true rest).map fun (found, rest) =>
    (.obj found, rest)
  | some '[' :: rest => readItems (readFuel rest) (some (depth - 1)) [] rest
  | _ => none

/-- The items of an array that are read by a reader of their own, with those so far in reverse. -/
def readListItems {α : Type} (item : Source → Option (α × Source)) :
    Nat → List α → Source → Option (List α × Source)
  | 0, _, _ => none
  | fuel + 1, done, s => do
    let (a, s) ← item s
    match skipSpace s with
    | some ',' :: rest => readListItems item fuel (a :: done) rest
    | some ']' :: rest => some ((a :: done).reverse, rest)
    | _ => none

/-- Reads an array whose items are read by a reader of their own. -/
def readList {α : Type} (item : Source → Option (α × Source)) (s : Source) :
    Option (List α × Source) :=
  match skipSpace s with
  | some '[' :: rest => match skipSpace rest with
    | some ']' :: rest => some ([], rest)
    | _ => readListItems item (rest.length + 1) [] rest
  | _ => none

end SessionBroker.Json
