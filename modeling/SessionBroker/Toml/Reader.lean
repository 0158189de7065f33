import SessionBroker.Toml.Scalar
import SessionBroker.Toml.Tree

/-!
# Reading a configuration text

The format is TOML 1.0. Keys and values may be nested to 79 levels.
-/

namespace SessionBroker.Toml

def nestingLimit : Nat := 80

def isBare (c : Char) : Bool := c.isAlphanum || c = '_' || c = '-'

def readSimpleKey : Reader String
  | '"' :: rest => readBasic (rest.length + 1) [] rest
  | '\'' :: rest => readLiteral rest
  | s =>
    let name := s.takeWhile isBare
    if name.isEmpty then none else some (String.ofList name, s.drop name.length)

/-- The parts of a dotted key. -/
def readKeyParts : Nat → Reader (List String)
  | 0, _ => none
  | fuel + 1, s => do
    let (name, s) ← readSimpleKey (skipBlank s)
    match skipBlank s with
    | '.' :: rest => (readKeyParts fuel rest).map fun (names, s) => (name :: names, s)
    | s => some ([name], s)

def readKey : Reader (List String) := fun s => do
  let (names, s) ← readKeyParts (s.length + 1) s
  if names.length < nestingLimit then some (names, s) else none

/-- A comment without its line end. -/
def skipComment : List Char → List Char
  | '#' :: rest => rest.dropWhile isPlain
  | s => s

/-- Blanks, line ends and whole comments. -/
def skipGap : Nat → List Char → List Char
  | 0, s => s
  | fuel + 1, s =>
    match newline (skipComment (skipBlank s)) with
    | some rest => skipGap fuel rest
    | none => skipBlank s

mutual

/-- A value. `room` is the number of levels that may still be opened, plus one. -/
def readValue : (fuel room : Nat) → Reader Json
  | 0, _, _ => none
  | _ + 1, _, [] => none
  | fuel + 1, room, c :: rest =>
    if c = '"' || c = '\'' then (readString (c :: rest)).map fun (s, rest) => (.str s, rest)
    else if c = '[' then
      if room ≤ 1 then none else readItems fuel (room - 1) [] rest
    else if c = '{' then
      if room ≤ 1 then none
      else match skipBlank rest with
        | '}' :: rest => some (.obj [], rest)
        | rest => readPairs fuel (room - 1) [] rest
    else if c = 't' then readWord "true" (.bool true) (c :: rest)
    else if c = 'f' then readWord "false" (.bool false) (c :: rest)
    else if c = 'i' || c = 'n' then readSpecial (c :: rest)
    else readNumber (c :: rest)

/-- The items of an array up to the bracket, with those read so far in reverse. -/
def readItems : (fuel room : Nat) → List Json → Reader Json
  | 0, _, _, _ => none
  | fuel + 1, room, done, s =>
    match skipGap (s.length + 1) s with
    | ']' :: rest => some (.arr done.reverse, rest)
    | s => match readValue fuel room s with
      | none => none
      | some (item, s) => match skipGap (s.length + 1) s with
        | ',' :: rest => readItems fuel room (item :: done) rest
        | ']' :: rest => some (.arr (item :: done).reverse, rest)
        | _ => none

/-- The pairs of an inline table up to the brace. -/
def readPairs : (fuel room : Nat) → Entries → Reader Json
  | 0, _, _, _ => none
  | fuel + 1, room, done, s =>
    match readKey s with
    | some (names, '=' :: s) => match readValue fuel room (skipBlank s) with
      | none => none
      | some (json, s) => match addValue json names done with
        | none => none
        | some done => match skipBlank s with
          | ',' :: rest => readPairs fuel room done rest
          | '}' :: rest => some ((Node.table .header done).json, rest)
          | _ => none
    | _ => none

end

/-- The end of a line: blanks, and perhaps a comment. -/
def endLine (s : List Char) : Option (List Char) :=
  match skipComment (skipBlank s) with
  | [] => some []
  | s => newline s

/-- The text filled in so far, and the table that the next lines fill. -/
structure Progress where
  root : Entries
  path : List String

def readHeader (p : Progress) (s : List Char) : Option (Progress × List Char) := do
  let (isList, s) := match s with
    | '[' :: rest => (true, rest)
    | s => (false, s)
  let (names, s) ← readKey s
  let s ← expect ']' s
  let s ← if isList then expect ']' s else some s
  let s ← endLine s
  let last ← names.getLast?
  let opened := if isList then appendTable last else openTable last
  let root ← changeAt opened names.dropLast p.root
  some (⟨root, names⟩, s)

def readAssignment (p : Progress) (s : List Char) : Option (Progress × List Char) := do
  let (names, s) ← readKey s
  let s ← expect '=' s
  let (json, s) ← readValue (2 * s.length + 2) nestingLimit (skipBlank s)
  let s ← endLine s
  let root ← changeAt (addValue json names) p.path p.root
  some ({ p with root := root }, s)

def readLines : Nat → Progress → List Char → Option Entries
  | 0, _, _ => none
  | fuel + 1, p, s =>
    match skipBlank s with
    | [] => some p.root
    | '#' :: rest => (endLine ('#' :: rest)).bind (readLines fuel p)
    | '\n' :: rest => readLines fuel p rest
    | '\r' :: rest => (newline ('\r' :: rest)).bind (readLines fuel p)
    | '[' :: rest => (readHeader p rest).bind fun (p, s) => readLines fuel p s
    | s => (readAssignment p s).bind fun (p, s) => readLines fuel p s

/-- The table that a text denotes. A byte order mark at the front does not count. -/
def parse? (text : String) : Option Json :=
  let s := text.toList
  let s := if s.head? = some (Char.ofNat 0xFEFF) then s.drop 1 else s
  (readLines (s.length + 1) ⟨[], []⟩ s).map fun root => (Node.table .header root).json

end SessionBroker.Toml
