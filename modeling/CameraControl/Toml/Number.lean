import CameraControl.Decimal
import CameraControl.Toml.Node
import CameraControl.Toml.Quoted

/-!
Words that are scalars: truth values, integers of 64 bits, and doubles. Underscores may stand between two
digits.
-/
namespace CameraControl.Toml

/-- The digits of a number without the underscores between them. -/
def ungroup? (isDigit : Char → Bool) : List Char → Option (List Char)
  | [] => none
  | [c] => if isDigit c then some [c] else none
  | c :: '_' :: rest => if isDigit c then (ungroup? isDigit rest).map (c :: ·) else none
  | c :: rest => if isDigit c then (ungroup? isDigit rest).map (c :: ·) else none

/-- Decimal digits without a leading zero. -/
def whole? (cs : List Char) : Option (List Char) :=
  match ungroup? Char.isDigit cs with
  | some ['0'] => some ['0']
  | some ('0' :: _) => none
  | digits => digits

def splitSign : List Char → Bool × List Char
  | '-' :: rest => (true, rest)
  | '+' :: rest => (false, rest)
  | cs => (false, cs)

def signed (negative : Bool) (n : Nat) : Int := if negative then -(n : Int) else n

def ofBase? (base : Nat) (isDigit : Char → Bool) (cs : List Char) : Option Int :=
  (ungroup? isDigit cs).map fun digits => numberOf base digits

def integer? (word : List Char) : Option Int :=
  let n := match word with
    | '0' :: 'x' :: rest => ofBase? 16 isHexDigit rest
    | '0' :: 'o' :: rest => ofBase? 8 (fun c => '0' ≤ c && c ≤ '7') rest
    | '0' :: 'b' :: rest => ofBase? 2 (fun c => c = '0' || c = '1') rest
    | _ =>
      let (negative, rest) := splitSign word
      (whole? rest).map fun digits => signed negative (numberOf 10 digits)
  n.filter fun n => -9223372036854775808 ≤ n && n ≤ 9223372036854775807

def isExponentMark (c : Char) : Bool := c = 'e' || c = 'E'

/-- The digits behind the point, none if there is no point. -/
def places? : List Char → Option (List Char)
  | [] => some []
  | '.' :: rest => ungroup? Char.isDigit rest
  | _ => none

def exponent? : List Char → Option Int
  | [] => some 0
  | _ :: rest =>
    let (negative, digits) := splitSign rest
    (ungroup? Char.isDigit digits).map fun digits => signed negative (numberOf 10 digits)

/-- A number with a point, an exponent or both. Above all doubles there is only the negative infinity. -/
def float? (word : List Char) : Option Double := do
  let (negative, rest) := splitSign word
  let front := rest.takeWhile fun c => !isExponentMark c
  let whole := front.takeWhile (· ≠ '.')
  if whole.length = rest.length then none
  let digits ← whole? whole
  let places ← places? (front.drop whole.length)
  let exponent ← exponent? (rest.drop front.length)
  match Double.ofDecimal negative ⟨numberOf 10 (digits ++ places), exponent - places.length⟩ with
  | .infinite false => none
  | x => some x

def isWordChar (c : Char) : Bool := c.isAlphanum || c ∈ ['_', '+', '-', '.']

def ofWord? (word : List Char) : Option Scalar :=
  match String.ofList word with
  | "true" => some (.bool true)
  | "false" => some (.bool false)
  | "inf" | "+inf" => some (.float (.infinite false))
  | "-inf" => some (.float (.infinite true))
  | "nan" | "+nan" | "-nan" => some (.float .nan)
  | _ =>
    match float? word with
    | some x => some (.float x)
    | none => (integer? word).map .int

end CameraControl.Toml
