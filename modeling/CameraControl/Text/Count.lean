/-!
Counts of 64 bits in text.
-/
namespace CameraControl.Text

/-- Two to the power of 64. -/
def countLimit : Nat := 18446744073709551616

def decimalValue (digits : List Char) : Nat :=
  digits.foldl (fun n c => 10 * n + (c.toNat - '0'.toNat)) 0

/-- The count that decimal digits spell, perhaps behind a plus sign. -/
def count? (s : String) : Option Nat :=
  let digits := match s.toList with
    | '+' :: rest => rest
    | cs => cs
  if digits.isEmpty || !digits.all Char.isDigit then none
  else if decimalValue digits < countLimit then some (decimalValue digits)
  else none

end CameraControl.Text
