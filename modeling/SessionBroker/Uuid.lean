import SessionBroker.Text.Hex

/-!
# UUIDs

Records are named by UUIDs, which are 32 hexadecimal digits in order of weight. `Uuid.text` writes the
hyphenated lower case form; `Uuid.parse` reads that form, the plain digits, the form in braces and the
form with a URN in front, with digits of either case.
-/

namespace SessionBroker

/-- A UUID by its digits, the most significant first. -/
structure Uuid where
  digits : List (Fin 16)
  length_eq : digits.length = 32
deriving DecidableEq, Repr

namespace Uuid

def «nil» : Uuid := ⟨List.replicate 32 0, rfl⟩

instance : Inhabited Uuid := ⟨Uuid.nil⟩

/-- The digits compare in order of weight, which is the order of the 16 bytes. -/
def compareDigits : List (Fin 16) → List (Fin 16) → Ordering
  | [], [] => .eq
  | [], _ :: _ => .lt
  | _ :: _, [] => .gt
  | a :: as, b :: bs => if a < b then .lt else if b < a then .gt else compareDigits as bs

instance : Ord Uuid := ⟨fun a b => compareDigits a.digits b.digits⟩

/-- The lengths of the groups between hyphens. -/
def groupLengths : List Nat := [8, 4, 4, 4, 12]

/-- The characters with a hyphen between the groups. -/
def hyphenate : List Nat → List Char → List Char
  | [], _ => []
  | [_], s => s
  | n :: ns, s => s.take n ++ '-' :: hyphenate ns (s.drop n)

def text (u : Uuid) : String :=
  String.ofList (hyphenate groupLengths (u.digits.map fun d => Hex.digit d.val))

/-- Why a text is no UUID. -/
inductive ParseError
  | character (c : Char) (index : Nat)
  | length (found : Nat)
  | groupCount (found : Nat)
  | groupLength (group expected found : Nat)
deriving DecidableEq, Repr

def ParseError.message : ParseError → String
  | .character c index => s!"invalid character: found \x60{c}\x60 at {index}"
  | .length found => s!"invalid length: found {found}"
  | .groupCount found => s!"invalid group count: expected 5, found {found}"
  | .groupLength group expected found =>
    s!"invalid group length in group {group}: expected {expected}, found {found}"

def digit? (c : Char) : Option (Fin 16) :=
  (Hex.digit? c).bind fun n => if h : n < 16 then some ⟨n, h⟩ else none

/-- All characters are digits, and there are 32. -/
def ofDigits? (s : List Char) : Option Uuid := do
  let digits ← s.mapM digit?
  if h : digits.length = 32 then some ⟨digits, h⟩ else none

/-- Removes one hyphen after each group. -/
def unhyphenate : List Nat → List Char → Option (List Char)
  | [], _ => none
  | [_], s => some s
  | n :: ns, s => match s.drop n with
    | '-' :: rest => (unhyphenate ns rest).map (s.take n ++ ·)
    | _ => none

/-- The text inside braces. -/
def inBraces? : List Char → Option (List Char)
  | '{' :: rest => if rest.getLast? = some '}' then some rest.dropLast else none
  | _ => none

/-- The text behind the URN prefix, which may be written in any letter case. -/
def afterUrn? (s : List Char) : Option (List Char) :=
  if (s.take 9).map Char.toLower = "urn:uuid:".toList then some (s.drop 9) else none

/-- The bytes of the form with a URN in front, which is the longest. -/
def longest : Nat := 45

/-- The part of a text that has to be in hyphenated form: by its length the text can only be that form,
that form in braces, or that form behind the URN prefix. -/
def hyphenated? (source : String) : Option (List Char) :=
  let s := source.toList
  match source.utf8ByteSize with
  | 36 => some s
  | 38 => inBraces? s
  | 45 => afterUrn? s
  | _ => none

def parse? (source : String) : Option Uuid :=
  match hyphenated? source with
  | some inner => (unhyphenate groupLengths inner).bind ofDigits?
  | none => ofDigits? source.toList

/-- The first character that belongs in no UUID, with its place counted in bytes. -/
def strayCharacter (offset : Nat) : List Char → Option ParseError
  | [] => none
  | c :: rest =>
    if c = '-' || (Hex.digit? c).isSome then strayCharacter (offset + c.utf8Size) rest
    else some (.character c offset)

/-- The first group of a hyphenated text whose end is out of place. -/
def misplacedGroup (total : Nat) : Nat → Nat → List Nat → List Nat → ParseError
  | group, start, n :: ns, e :: ends =>
    if e = start + n then misplacedGroup total (group + 1) (start + n + 1) ns ends
    else .groupLength group n (e - start)
  | group, start, ns, _ => .groupLength group (ns.head?.getD 12) (total - start)

/-- What is wrong with the grouping of a text of digits and hyphens, of which the whole is so long. -/
def misgrouped (total : Nat) (s : List Char) : ParseError :=
  let hyphens := s.zipIdx.filterMap fun (c, i) => if c = '-' then some i else none
  if hyphens.length ≠ 4 then .groupCount (hyphens.length + 1)
  else misplacedGroup total 0 0 groupLengths hyphens

/-- What is wrong with a text that `parse?` refuses. One that is too long is not looked into. Where the
length asks for the hyphenated form, only that part is looked at, and places count from its start;
otherwise they count from the start of the whole text. -/
def diagnose (source : String) : ParseError :=
  let s := source.toList
  let length := source.utf8ByteSize
  match hyphenated? source with
  | some inner => (strayCharacter 0 inner).getD (misgrouped inner.length inner)
  | none =>
    if longest < length then .length length
    else match inBraces? s, afterUrn? s with
      | some inner, _ => (strayCharacter 1 inner).getD (misgrouped length inner)
      | none, some inner => (strayCharacter 9 inner).getD (misgrouped length inner)
      | none, none =>
        (strayCharacter 0 s).getD (if s.contains '-' then misgrouped length s else .length length)

def parse (source : String) : Except ParseError Uuid :=
  match parse? source with
  | some u => .ok u
  | none => .error (diagnose source)

end Uuid

end SessionBroker
