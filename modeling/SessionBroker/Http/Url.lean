import SessionBroker.Text.Utf8

/-!
# Paths and queries

A request target is a path and a query, perhaps behind a scheme and a host. A path segment is written
with percent signs before the hexadecimal digits of bytes. A query is a list of pairs between ampersands,
in which a plus sign stands for a space.
-/

namespace SessionBroker.Url

/-- Undoes percent signs. One that is not followed by two digits stands for itself. -/
def percentDecode : Bytes → Bytes
  | [] => []
  | b :: rest =>
    if b = 37 then match rest with
      | high :: low :: tail =>
        match Hex.digit? (Char.ofNat high.toNat), Hex.digit? (Char.ofNat low.toNat) with
        | some h, some l => UInt8.ofNat (h * 16 + l) :: percentDecode tail
        | _, _ => b :: percentDecode (high :: low :: tail)
      | rest => b :: percentDecode rest
    else b :: percentDecode rest

/-- The pieces of a byte string between separators. -/
def split (separator : UInt8) : Bytes → List Bytes
  | [] => [[]]
  | b :: rest =>
    if b = separator then [] :: split separator rest
    else match split separator rest with
      | piece :: more => (b :: piece) :: more
      | [] => [[b]]

/-- A name or a value of a query. -/
def formText (b : Bytes) : String :=
  Utf8.decodeLossy (percentDecode (b.map fun byte => if byte = 43 then 32 else byte))

def formPair (b : Bytes) : String × String :=
  let name := b.takeWhile (· ≠ 61)
  (formText name, formText (b.drop (name.length + 1)))

/-- The pairs of a query, in order. -/
def queryPairs (query : String) : List (String × String) :=
  ((split 38 (Bytes.ofText query)).filter (· ≠ [])).map formPair

/-- What may stand in the name of a scheme. -/
def isSchemeChar (c : Char) : Bool := c.isAlphanum || c = '+' || c = '-' || c = '.' || c = '~'

/-- What follows a scheme and its two slashes at the front of a target. -/
def afterScheme? (s : List Char) : Option (List Char) :=
  match s.dropWhile isSchemeChar with
  | ':' :: '/' :: '/' :: rest => some rest
  | _ => none

/-- A request target without the host that an absolute one names first. A target that is only a host
leads nowhere. -/
def withoutHost (s : List Char) : List Char :=
  match s with
  | '/' :: _ => s
  | _ => match afterScheme? s with
    | some rest => rest.dropWhile fun c => c ≠ '/' && c ≠ '?' && c ≠ '#'
    | none => []

/-- A request target cut into its path and its query. What follows a number sign does not count. -/
def splitTarget (target : String) : String × String :=
  let s := (withoutHost target.toList).takeWhile (· ≠ '#')
  let path := s.takeWhile (· ≠ '?')
  (String.ofList path, String.ofList (s.drop (path.length + 1)))

end SessionBroker.Url
