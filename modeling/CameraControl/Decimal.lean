import CameraControl.Binary64

/-!
Doubles in decimal. `Double.ofDecimal` reads the double nearest to a decimal; `Double.text` writes a double
with the fewest digits that read back, and of those the nearest. All places are written out, without an
exponent.
-/
namespace CameraControl

/-- The number `coefficient * 10 ^ exponent`. -/
structure Decimal where
  coefficient : Nat
  exponent : Int
deriving DecidableEq, Repr

namespace Decimal

def tenPow (k : Int) : Rat :=
  if 0 ≤ k then (Nat.pow 10 k.toNat : Rat) else 1 / (Nat.pow 10 (-k).toNat : Rat)

def value (d : Decimal) : Rat := d.coefficient * tenPow d.exponent

def digitCount (n : Nat) : Nat := (Nat.toDigits 10 n).length

/-- The exponent of the leading decimal digit of a positive rational. -/
def leading (x : Rat) : Int :=
  let guess : Int := (digitCount x.num.natAbs : Int) - (digitCount x.den : Int)
  if tenPow guess ≤ x then guess else guess - 1

/-- The two neighbours of a positive rational on a decimal grid, nearest first; of two that are equally near
the upper one. -/
def neighbours (x : Rat) (exponent : Int) : List Decimal :=
  let place := x / tenPow exponent
  let below := place.floor.toNat
  if place - below < 1 / 2 then [⟨below, exponent⟩, ⟨below + 1, exponent⟩]
  else [⟨below + 1, exponent⟩, ⟨below, exponent⟩]

def readsBack (x : Rat) (d : Decimal) : Bool := Binary64.nearest d.value = x

/-- The shortest decimal that reads back as a positive double. The coarsest grid is the one above the leading
digit, which the double may round up to; seventeen digits always suffice. -/
def shortest (x : Rat) : Decimal :=
  let coarsest := leading x + 1
  let grids := (List.range 18).map fun (n : Nat) => coarsest - n
  (grids.findSome? fun grid => (neighbours x grid).find? (readsBack x)).getD
    ⟨(x / tenPow (coarsest - 17)).floor.toNat, coarsest - 17⟩

/-- All places of a decimal written out. -/
def positional (d : Decimal) : String :=
  let digits := Nat.toDigits 10 d.coefficient
  if 0 ≤ d.exponent then
    String.ofList (digits ++ List.replicate d.exponent.toNat '0')
  else
    let places := (-d.exponent).toNat
    let padded := List.replicate (places + 1 - digits.length) '0' ++ digits
    let whole := padded.length - places
    String.ofList (padded.take whole) ++ "." ++ String.ofList (padded.drop whole)

end Decimal

namespace Double

/-- Decimals far beyond the range of doubles are not multiplied out. -/
def ofDecimal (negative : Bool) (d : Decimal) : Double :=
  let top := (Decimal.digitCount d.coefficient : Int) + d.exponent
  if d.coefficient = 0 || top < -330 then .finite negative 0
  else if 310 < top then .infinite negative
  else ofMagnitude negative d.value

def signed (negative : Bool) (text : String) : String := if negative then "-" ++ text else text

def text : Double → String
  | finite negative magnitude =>
    signed negative (if magnitude = 0 then "0" else (Decimal.shortest magnitude).positional)
  | infinite negative => signed negative "inf"
  | nan => "NaN"

/-- The text of a finite double keeps a decimal point. -/
def pointed (x : Double) : String :=
  match x with
  | finite _ magnitude => if magnitude.den = 1 then x.text ++ ".0" else x.text
  | _ => x.text

end Double

end CameraControl
