/-!
Rounding of exact rationals to double precision. A double is a rational here: `nearest` maps a rational to
the nearest multiple of its unit in the last place, ties going to the even multiple, so every arithmetic
step on doubles is the exact step followed by `nearest`. Overflow is not part of `nearest`;
`Double.ofMagnitude` adds it for numbers that are read from text.
-/
namespace CameraControl.Binary64

def twoPow (k : Int) : Rat :=
  if 0 ≤ k then (Nat.pow 2 k.toNat : Rat) else 1 / (Nat.pow 2 (-k).toNat : Rat)

/-- The exponent of the leading binary digit of a nonzero rational. -/
def leading (x : Rat) : Int :=
  let guess : Int := (x.num.natAbs.log2 : Int) - (x.den.log2 : Int)
  if twoPow guess ≤ x.abs then guess else guess - 1

/-- Doubles near `x` are spaced by `2 ^ unit x`: 53 binary digits, and never finer than `2 ^ -1074`. -/
def unit (x : Rat) : Int := max (leading x - 52) (-1074)

def nearestInt (q : Rat) : Int :=
  let below := q.floor
  let rest := q - below
  if rest < 1 / 2 then below
  else if 1 / 2 < rest then below + 1
  else if below % 2 = 0 then below
  else below + 1

def nearest (x : Rat) : Rat :=
  if x = 0 then 0 else nearestInt (x / twoPow (unit x)) * twoPow (unit x)

/-- The integer part, toward zero. -/
def truncate (x : Rat) : Int := if 0 ≤ x then x.floor else x.ceil

/-- The nearest integer, halves going away from zero. -/
def roundAway (x : Rat) : Int :=
  if 0 ≤ x then (x + 1 / 2).floor else (x - 1 / 2).ceil

end CameraControl.Binary64

namespace CameraControl

/-- A double with what a rational cannot say: the sign of zero, the infinities and the value that is no
number. The magnitude is a value of `Binary64.nearest`. -/
inductive Double
  | finite (negative : Bool) (magnitude : Rat)
  | infinite (negative : Bool)
  | nan
deriving DecidableEq, Repr

namespace Double

/-- The double nearest to a magnitude with a sign; half a unit beyond the largest double is infinite. -/
def ofMagnitude (negative : Bool) (magnitude : Rat) : Double :=
  let m := Binary64.nearest magnitude
  if m < Binary64.twoPow 1024 then .finite negative m else .infinite negative

end Double

end CameraControl
