import SessionBroker.Time.Instant
import SessionBroker.Time.Calendar
import SessionBroker.Text.Decimal

/-!
# Timestamps as text

Instants are written in the form of RFC 3339, in UTC, with milliseconds only where they are not zero.
`Timestamp.text?` has no answer outside the years -262143 to 262142. `Timestamp.parse?` reads any
offset and any number of fractional digits; what lies below a millisecond is dropped.
-/

namespace SessionBroker.Timestamp

def msPerDay : Int := 86400000

/-- The first and the last instant that have a written form. -/
def firstMs : Int := CivilDate.toDays ⟨-262143, 1, 1⟩ * msPerDay
def lastMs : Int := (CivilDate.toDays ⟨262142, 12, 31⟩ + 1) * msPerDay - 1

/-- Years of four digits stand alone, all others carry a sign. -/
def yearText (year : Int) : String :=
  if 0 ≤ year && year ≤ 9999 then Decimal.padded 4 year.toNat
  else (if year < 0 then "-" else "+") ++ Decimal.padded 4 year.natAbs

def text? (t : Instant) : Option String :=
  if t.ms < firstMs || lastMs < t.ms then none
  else
    let date := CivilDate.ofDays (t.ms / msPerDay)
    let ofDay := (t.ms % msPerDay).toNat
    let millis := ofDay % 1000
    let clock := Decimal.padded 2 (ofDay / 3600000) ++ ":" ++ Decimal.padded 2 (ofDay / 60000 % 60)
      ++ ":" ++ Decimal.padded 2 (ofDay / 1000 % 60)
    let fraction := if millis == 0 then "" else "." ++ Decimal.padded 3 millis
    some (yearText date.year ++ "-" ++ Decimal.padded 2 date.month ++ "-" ++ Decimal.padded 2 date.day
      ++ "T" ++ clock ++ fraction ++ "Z")

/-- One expected character. -/
def expect (c : Char) : List Char → Option (List Char)
  | x :: rest => if x = c then some rest else none
  | [] => none

/-- The fraction of a second in milliseconds: a point and at least one digit, or nothing. -/
def fraction : List Char → Option (Nat × List Char)
  | '.' :: rest =>
    let (digits, rest) := Decimal.span rest
    if digits.isEmpty then none
    else some (Decimal.value ((digits ++ ['0', '0']).take 3), rest)
  | s => some (0, s)

/-- The offset from UTC in minutes: `Z`, or a sign with hours and minutes below a day. The minus may
be the mathematical one. -/
def offset : List Char → Option (Int × List Char)
  | [] => none
  | c :: rest =>
    if c = 'Z' || c = 'z' then some (0, rest)
    else if c = '+' || c = '-' || c = '−' then do
      let (hours, rest) ← Decimal.fixed 2 rest
      let rest ← expect ':' rest
      let (minutes, rest) ← Decimal.fixed 2 rest
      if hours ≤ 23 && minutes ≤ 59 then
        let total : Int := hours * 60 + minutes
        some (if c = '+' then total else -total, rest)
      else none
    else none

/-- A leap second counts as the second after `:59`, so it falls together with the next minute. -/
def parseChars (s : List Char) : Option Int := do
  let (year, s) ← Decimal.fixed 4 s
  let s ← expect '-' s
  let (month, s) ← Decimal.fixed 2 s
  let s ← expect '-' s
  let (day, s) ← Decimal.fixed 2 s
  let s ← expect 'T' s <|> expect 't' s <|> expect ' ' s
  let (hour, s) ← Decimal.fixed 2 s
  let s ← expect ':' s
  let (minute, s) ← Decimal.fixed 2 s
  let s ← expect ':' s
  let (second, s) ← Decimal.fixed 2 s
  let (millis, s) ← fraction s
  let (shift, s) ← offset s
  let date : CivilDate := ⟨year, month, day⟩
  if s.isEmpty && date.valid && hour ≤ 23 && minute ≤ 59 && second ≤ 60 then
    some (date.toDays * msPerDay + hour * 3600000 + minute * 60000 + second * 1000 + millis
      - shift * 60000)
  else none

def parse? (text : String) : Option Instant :=
  (parseChars text.toList).map Instant.ofMs

end SessionBroker.Timestamp
