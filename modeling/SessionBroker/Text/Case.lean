import SessionBroker.Text.CaseTable
import SessionBroker.Text.CodePoints

/-!
# Letter case

Whole texts in upper and in lower case, by the full mappings of the Unicode standard: a letter may
become several, and a capital sigma at the end of a word becomes the final form. ASCII letters are
mapped without a look at the tables, which agree with them there.
-/

namespace SessionBroker.Case

/-- The target of a run that holds the code point. -/
def ofRuns (runs : Array (Nat × Nat × Nat × Int)) (n : Nat) : Option Nat :=
  runs.findSome? fun (first, last, step, shift) =>
    if first ≤ n && n ≤ last && (n - first) % step == 0 then some ((n : Int) + shift).toNat else none

def ofSequences (sequences : Array (Nat × List Nat)) (n : Nat) : Option (List Nat) :=
  sequences.findSome? fun (point, image) => if point == n then some image else none

/-- The upper case form of one character. -/
def upperChar (c : Char) : List Char :=
  if c.toNat < 128 then [c.toUpper]
  else match ofSequences CaseTable.upperSequences c.toNat with
    | some image => image.map Char.ofNat
    | none => match ofRuns CaseTable.upperRuns c.toNat with
      | some n => [Char.ofNat n]
      | none => [c]

/-- The lower case form of one character outside any word. -/
def lowerChar (c : Char) : List Char :=
  if c.toNat < 128 then [c.toLower]
  else match ofSequences CaseTable.lowerSequences c.toNat with
    | some image => image.map Char.ofNat
    | none => match ofRuns CaseTable.lowerRuns c.toNat with
      | some n => [Char.ofNat n]
      | none => [c]

/-- Past the ignorable characters comes a cased letter. -/
def meetsCased (s : List Char) : Bool :=
  match s.dropWhile (CodePoints.member CaseTable.ignorableRanges) with
  | c :: _ => CodePoints.member CaseTable.casedRanges c
  | [] => false

/-- Lower case, with the characters already passed given in reverse. -/
def lowerFrom (passed : List Char) : List Char → List Char
  | [] => []
  | c :: rest =>
    let image :=
      if c = 'Σ' then (if meetsCased passed && !meetsCased rest then ['ς'] else ['σ'])
      else lowerChar c
    image ++ lowerFrom (c :: passed) rest

def upper (s : String) : String := String.ofList (s.toList.flatMap upperChar)

def lower (s : String) : String := String.ofList (lowerFrom [] s.toList)

end SessionBroker.Case
