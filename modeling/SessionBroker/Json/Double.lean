import SessionBroker.Json.Value
import SessionBroker.Text.Decimal

/-!
# Floating point numbers as text

A number is written with the fewest decimal digits that read back as the same number, and of those
with the digits nearest to it. Numbers from 10^-5 up to 10^16 stand without an exponent. An exponent
has its sign in front.

A number is read from up to 64 bits of significant digits, scaled by a power of ten in floating point
arithmetic; digits beyond those 64 bits count only for their place.
-/

namespace SessionBroker.Double

def negative (d : Double) : Bool := d.bits >>> 63 == 1

def exponentField (d : Double) : Nat := ((d.bits >>> 52) &&& 0x7FF).toNat

def fractionField (d : Double) : Nat := (d.bits &&& 0xFFFFFFFFFFFFF).toNat

/-- A finite magnitude as a quotient, with the two ends of the interval that rounds to it. All four
numbers are over one denominator. -/
structure Interval where
  low : Nat
  value : Nat
  high : Nat
  den : Nat
  closed : Bool

def interval (d : Double) : Interval :=
  let e := d.exponentField
  let m := if e == 0 then d.fractionField else 4503599627370496 + d.fractionField
  let q : Int := (if e == 0 then (-1074 : Int) else (e : Int) - 1075) - 2
  let below := if d.fractionField == 0 && 1 < e then 1 else 2
  let up := Nat.pow 2 q.toNat
  ⟨(4 * m - below) * up, 4 * m * up, (4 * m + 2) * up, Nat.pow 2 (-q).toNat, m % 2 == 0⟩

/-- How many digits stand before the point; zero or less for numbers below one tenth. -/
def pointPlace (num den : Nat) : Int :=
  if den ≤ num then (Nat.toDigits 10 (num / den)).length
  else match (List.range 400).find? (fun j => den ≤ num * Nat.pow 10 (j + 1)) with
    | some j => -(j : Int)
    | none => -400

/-- The number of the grid with the given unit that is nearest to the value, if it lies inside. -/
def onGrid (i : Interval) (unit : Int) : Option Nat :=
  let scaleNum := Nat.pow 10 (-unit).toNat
  let scaleDen := Nat.pow 10 unit.toNat
  let num := i.value * scaleNum
  let den := i.den * scaleDen
  let floor := num / den
  let inside (n : Nat) : Bool :=
    if i.closed then i.low * scaleNum ≤ n * den && n * den ≤ i.high * scaleNum
    else i.low * scaleNum < n * den && n * den < i.high * scaleNum
  let rest := 2 * (num - floor * den)
  let nearFloor := rest < den || (rest == den && floor % 2 == 0)
  match inside floor && 0 < floor, inside (floor + 1) with
  | true, true => some (if nearFloor then floor else floor + 1)
  | true, false => some floor
  | false, true => some (floor + 1)
  | false, false => none

/-- The shortest digits and the exponent of their last place. -/
def shortest (d : Double) : Nat × Int :=
  let i := d.interval
  let place := pointPlace i.value i.den
  match (List.range 17).findSome? (fun (n : Nat) =>
      let unit := place - (n + 1 : Nat)
      (onGrid i unit).map (fun digits => (digits, unit))) with
  | some r => r
  | none => (i.value / i.den, 0)

/-- The digits without the zeros at their end, which move into the exponent. -/
def dropZeros : Nat → Nat → Int → Nat × Int
  | 0, digits, exponent => (digits, exponent)
  | fuel + 1, digits, exponent =>
    if digits % 10 == 0 && digits != 0 then dropZeros fuel (digits / 10) (exponent + 1)
    else (digits, exponent)

def zeros (n : Int) : List Char := List.replicate n.toNat '0'

/-- The written form of a positive number given by digits and the exponent of the last one. -/
def layout (digits : List Char) (exponent : Int) : List Char :=
  let length : Int := digits.length
  let point := length + exponent
  if 0 ≤ exponent && point ≤ 16 then digits ++ zeros exponent ++ ['.', '0']
  else if 0 < point && point ≤ 16 then
    digits.take point.toNat ++ '.' :: digits.drop point.toNat
  else if -5 < point && point ≤ 0 then '0' :: '.' :: zeros (-point) ++ digits
  else
    let power := point - 1
    let powerText := (if power < 0 then '-' else '+') :: Nat.toDigits 10 power.natAbs
    match digits with
    | [single] => single :: 'e' :: powerText
    | first :: more => first :: '.' :: more ++ 'e' :: powerText
    | [] => powerText

def chars (d : Double) : List Char :=
  let sign := if d.negative then ['-'] else []
  if d.exponentField == 0 && d.fractionField == 0 then sign ++ ['0', '.', '0']
  else
    let (digits, exponent) := d.shortest
    let (digits, exponent) := dropZeros 20 digits exponent
    sign ++ layout (Nat.toDigits 10 digits) exponent

def text (d : Double) : String := String.ofList d.chars

/-- The nearest number to a power of ten up to 10^308. -/
def powerOfTen (n : Nat) : Float := Float.ofScientific 1 false n

/-- A significand times a power of ten; `none` beyond the largest number. Negative exponents below
-308 are taken in steps, each of which rounds. -/
def scale : Nat → Float → Int → Option Float
  | 0, f, _ => some f
  | fuel + 1, f, exponent =>
    if exponent.natAbs ≤ 308 then
      if 0 ≤ exponent then
        let product := f * powerOfTen exponent.natAbs
        if product.isInf then none else some product
      else some (f / powerOfTen exponent.natAbs)
    else if f == 0 then some f
    else if 0 ≤ exponent then none
    else scale fuel (f / powerOfTen 308) (exponent + 308)

/-- The number with the given sign, significant digits and power of ten. -/
def ofParts? (isNegative : Bool) (significand : Nat) (exponent : Int) : Option Double :=
  let steps := exponent.natAbs / 308 + 1
  (scale (if significand == 0 then 1 else min steps 400) significand.toUInt64.toFloat exponent).map fun f =>
    ⟨(if isNegative then -f else f).toBits⟩

end SessionBroker.Double
