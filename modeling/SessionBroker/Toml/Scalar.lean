import SessionBroker.Json.Value
import SessionBroker.Text.Decimal
import SessionBroker.Text.Hex
import SessionBroker.Time.Calendar

/-!
# Values of a configuration text

Strings in their four forms, numbers, and dates. Dates and floating point numbers are only checked:
nothing in the broker's configuration is one, so they come out as values that no reader expects.
-/

namespace SessionBroker.Toml

/-- A reader at the front of a text. -/
abbrev Reader (α : Type) := List Char → Option (α × List Char)

def isBlank (c : Char) : Bool := c = ' ' || c = '\t'

def skipBlank (s : List Char) : List Char := s.dropWhile isBlank

/-- Characters that may stand in comments: no controls but the tab. -/
def isPlain (c : Char) : Bool := c = '\t' || (32 ≤ c.toNat && c.toNat ≠ 127)

def newline : List Char → Option (List Char)
  | '\n' :: rest => some rest
  | '\r' :: '\n' :: rest => some rest
  | _ => none

/-- A number of exactly so many hexadecimal digits, as the character it stands for. -/
def readPoint (count : Nat) : Reader Char := fun s => do
  let digits ← (s.take count).mapM Hex.digit?
  let n := digits.foldl (fun n d => n * 16 + d) 0
  if digits.length = count && n.isValidChar then some (Char.ofNat n, s.drop count) else none

/-- What follows a backslash. -/
def readEscape : Reader Char
  | 'b' :: rest => some (Char.ofNat 8, rest)
  | 't' :: rest => some ('\t', rest)
  | 'n' :: rest => some ('\n', rest)
  | 'f' :: rest => some (Char.ofNat 12, rest)
  | 'r' :: rest => some ('\r', rest)
  | '"' :: rest => some ('"', rest)
  | '\\' :: rest => some ('\\', rest)
  | 'u' :: rest => readPoint 4 rest
  | 'U' :: rest => readPoint 8 rest
  | _ => none

/-- A string in double quotes, behind the first one, with the characters so far in reverse. -/
def readBasic : Nat → List Char → Reader String
  | 0, _, _ => none
  | _ + 1, _, [] => none
  | _ + 1, done, '"' :: rest => some (String.ofList done.reverse, rest)
  | fuel + 1, done, '\\' :: rest => do
    let (c, rest) ← readEscape rest
    readBasic fuel (c :: done) rest
  | fuel + 1, done, c :: rest => if isPlain c then readBasic fuel (c :: done) rest else none

/-- A string in single quotes, behind the first one. -/
def readLiteral (s : List Char) : Option (String × List Char) :=
  let body := s.takeWhile fun c => c ≠ '\'' && isPlain c
  match s.drop body.length with
  | '\'' :: rest => some (String.ofList body, rest)
  | _ => none

/-- Blanks and line ends. -/
def skipLines : Nat → List Char → List Char
  | 0, s => s
  | fuel + 1, s => match newline (skipBlank s) with
    | some rest => skipLines fuel rest
    | none => skipBlank s

/-- The end of a string over several lines: a run of three to five quotes, of which the last three close
it. Gives how many belong to the text. -/
def closing (quote : Char) (s : List Char) : Option (Nat × List Char) :=
  let run := (s.takeWhile (· = quote)).length
  if run < 3 then none else some (min (run - 3) 2, s.drop (min run 5))

/-- A string over several lines, behind its opening. -/
def readLong (quote : Char) : Nat → List Char → Reader String
  | 0, _, _ => none
  | _ + 1, _, [] => none
  | fuel + 1, done, c :: rest =>
    match closing quote (c :: rest) with
    | some (extra, after) => some (String.ofList (List.replicate extra quote ++ done).reverse, after)
    | none =>
      if c = '\\' && quote = '"' then
        match newline (skipBlank rest) with
        | some after => readLong quote fuel done (skipLines fuel after)
        | none => match readEscape rest with
          | some (e, after) => readLong quote fuel (e :: done) after
          | none => none
      else match newline (c :: rest) with
        | some after => readLong quote fuel ('\n' :: done) after
        | none => if isPlain c then readLong quote fuel (c :: done) rest else none

/-- The line end directly behind the opening of a long string does not count. -/
def skipFirstNewline (s : List Char) : List Char := (newline s).getD s

def readString : Reader String
  | '"' :: '"' :: '"' :: rest => readLong '"' (rest.length + 1) [] (skipFirstNewline rest)
  | '\'' :: '\'' :: '\'' :: rest => readLong '\'' (rest.length + 1) [] (skipFirstNewline rest)
  | '"' :: rest => readBasic (rest.length + 1) [] rest
  | '\'' :: rest => readLiteral rest
  | _ => none

/-- Digits with single underscores between them. Gives the digits alone. -/
def readDigits (accepts : Char → Bool) : Reader (List Char)
  | c :: rest =>
    if !accepts c then none
    else match rest with
      | '_' :: next :: more =>
        if accepts next then (readDigits accepts (next :: more)).map fun (ds, s) => (c :: ds, s) else none
      | ['_'] => none
      | next :: more =>
        if accepts next then (readDigits accepts (next :: more)).map fun (ds, s) => (c :: ds, s)
        else some ([c], next :: more)
      | [] => some ([c], [])
  | [] => none

def readSign : List Char → Bool × List Char
  | '+' :: rest => (false, rest)
  | '-' :: rest => (true, rest)
  | s => (false, s)

/-- A decimal number without a leading zero. -/
def readDecimal : Reader (List Char)
  | '0' :: rest => some (['0'], rest)
  | s => readDigits Decimal.isDigit s

def integerJson (isNegative : Bool) (magnitude : Nat) : Option Json :=
  let i : Int := if isNegative then -(magnitude : Int) else magnitude
  if -9223372036854775808 ≤ i && i ≤ 9223372036854775807 then some (.int i) else none

/-- A number in another base, behind its two letters. -/
def readBased (base : Nat) : Reader Json := fun s => do
  let (digits, rest) ← readDigits (fun c => (Hex.digit? c).any (· < base)) s
  let json ← integerJson false (digits.foldl (fun n c => n * base + (Hex.digit? c).getD 0) 0)
  some (json, rest)

def readInteger : Reader Json
  | '0' :: 'x' :: rest => readBased 16 rest
  | '0' :: 'o' :: rest => readBased 8 rest
  | '0' :: 'b' :: rest => readBased 2 rest
  | s => do
    let (isNegative, s) := readSign s
    let (digits, rest) ← readDecimal s
    let json ← integerJson isNegative (Decimal.value digits)
    some (json, rest)

def readFraction : Reader (List Char)
  | '.' :: rest => readDigits Decimal.isDigit rest
  | _ => none

def readExponent : Reader Int
  | e :: rest =>
    if e = 'e' || e = 'E' then do
      let (isNegative, rest) := readSign rest
      let (digits, rest) ← readDigits Decimal.isDigit rest
      let n : Int := Decimal.value digits
      some (if isNegative then -n else n, rest)
    else none
  | [] => none

/-- The least number that is rounded to infinity. -/
def infinityBound : Nat := Nat.pow 2 1024 - Nat.pow 2 970

/-- The number that digits denote is rounded to infinity, with the point behind so many of them. -/
def overflows (digits : List Char) (point : Int) : Bool :=
  let significant := digits.dropWhile (· = '0')
  let place := point - (digits.length - significant.length : Nat)
  let bound := Nat.toDigits 10 infinityBound
  let width := max significant.length bound.length
  let padded (s : List Char) : Nat := Decimal.value s * Nat.pow 10 (width - s.length)
  !significant.isEmpty
    && (bound.length < place || (place = bound.length && padded bound ≤ padded significant))

/-- What a floating point number stands for. No setting is one, so its value is not kept. -/
def floatJson : Json := .float ⟨0⟩

/-- A number with a fraction or an exponent. One that is too large is refused, but a negative one may be
infinite. -/
def readFloat : Reader Json := fun s => do
  let (isNegative, s) := readSign s
  let (whole, s) ← readDecimal s
  let (fraction, exponent, s) ← match readFraction s with
    | some (fraction, s) => match readExponent s with
      | some (e, s) => some (fraction, e, s)
      | none => some (fraction, 0, s)
    | none => do
      let (e, s) ← readExponent s
      some ([], e, s)
  if !isNegative && overflows (whole ++ fraction) (whole.length + exponent) then none
  else some (floatJson, s)

/-- Infinity and the value that is no number. -/
def readSpecial : Reader Json := fun s =>
  let (_, s) := readSign s
  if "inf".toList.isPrefixOf s || "nan".toList.isPrefixOf s then some (floatJson, s.drop 3) else none

def expect (c : Char) : List Char → Option (List Char)
  | x :: rest => if x = c then some rest else none
  | [] => none

def readDate : List Char → Option (List Char) := fun s => do
  let (year, s) ← Decimal.fixed 4 s
  let s ← expect '-' s
  let (month, s) ← Decimal.fixed 2 s
  let s ← expect '-' s
  let (day, s) ← Decimal.fixed 2 s
  if (CivilDate.mk year month day).valid then some s else none

def readTime : List Char → Option (List Char) := fun s => do
  let (hour, s) ← Decimal.fixed 2 s
  let s ← expect ':' s
  let (minute, s) ← Decimal.fixed 2 s
  let s ← expect ':' s
  let (second, s) ← Decimal.fixed 2 s
  if hour ≤ 23 && minute ≤ 59 && second ≤ 60 then
    match s with
    | '.' :: rest =>
      let (digits, after) := Decimal.span rest
      if digits.isEmpty then some s else some after
    | s => some s
  else none

def readOffset : List Char → Option (List Char)
  | [] => none
  | c :: rest =>
    if c = 'Z' || c = 'z' then some rest
    else if c = '+' || c = '-' then do
      let (hour, s) ← Decimal.fixed 2 rest
      let s ← expect ':' s
      let (minute, s) ← Decimal.fixed 2 s
      if hour ≤ 23 && minute ≤ 59 then some s else none
    else none

/-- A date, a date with a time, or a time. -/
def readMoment (s : List Char) : Option (List Char) :=
  match readDate s with
  | none => readTime s
  | some rest => match rest with
    | c :: after =>
      if c = 'T' || c = 't' || c = ' ' then match readTime after with
        | some after => some ((readOffset after).getD after)
        | none => some rest
      else some rest
    | [] => some []

/-- What a date stands for. -/
def momentJson : Json := .obj [("date", .null)]

/-- A number or a date. -/
def readNumber (s : List Char) : Option (Json × List Char) :=
  match readMoment s with
  | some rest => some (momentJson, rest)
  | none => readFloat s <|> readSpecial s <|> readInteger s

def readWord (word : String) (json : Json) : Reader Json := fun s =>
  if word.toList.isPrefixOf s then some (json, s.drop word.toList.length) else none

end SessionBroker.Toml
