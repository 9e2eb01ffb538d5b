import CameraControl.Toml.Quoted

/-!
Dates and times. The readers take one off the front of a text and give its full form: a date and a time are
joined by `T`, a fraction of a second has at most nine digits and no trailing zeros.
-/
namespace CameraControl.Toml

def digits? (count : Nat) (cs : List Char) : Option (Nat × List Char) :=
  let digits := cs.take count
  if digits.length = count ∧ digits.all Char.isDigit then some (numberOf 10 digits, cs.drop count)
  else none

def isLeap (year : Nat) : Bool := year % 4 = 0 && (year % 100 ≠ 0 || year % 400 = 0)

def daysIn (year month : Nat) : Nat :=
  if month = 2 then (if isLeap year then 29 else 28)
  else if month ∈ [4, 6, 9, 11] then 30
  else 31

def date? (cs : List Char) : Option (List Char × List Char) := do
  let (year, rest) ← digits? 4 cs
  let (month, rest) ← digits? 2 (← mark? '-' rest)
  let (day, rest) ← digits? 2 (← mark? '-' rest)
  if 1 ≤ month ∧ month ≤ 12 ∧ 1 ≤ day ∧ day ≤ daysIn year month then some (cs.take 10, rest)
  else none

def trimZeros (digits : List Char) : List Char := (digits.reverse.dropWhile (· = '0')).reverse

def fraction (cs : List Char) : List Char × List Char :=
  match cs with
  | '.' :: rest =>
    let digits := rest.takeWhile Char.isDigit
    let shown := trimZeros (digits.take 9)
    if digits.isEmpty then ([], cs)
    else (if shown.isEmpty then [] else '.' :: shown, rest.drop digits.length)
  | _ => ([], cs)

/-- A minute may have a leap second. -/
def time? (cs : List Char) : Option (List Char × List Char) := do
  let (hour, rest) ← digits? 2 cs
  let (minute, rest) ← digits? 2 (← mark? ':' rest)
  let (second, rest) ← digits? 2 (← mark? ':' rest)
  if hour ≤ 23 ∧ minute ≤ 59 ∧ second ≤ 60 then
    let (part, rest) := fraction rest
    some (cs.take 8 ++ part, rest)
  else none

/-- An offset of zero is written with a plus sign. -/
def offset? : List Char → Option (List Char × List Char)
  | [] => none
  | c :: cs =>
    if c = 'Z' || c = 'z' then some (['Z'], cs)
    else if c = '+' || c = '-' then do
      let (hours, rest) ← digits? 2 cs
      let (minutes, rest) ← digits? 2 (← mark? ':' rest)
      if hours ≤ 23 ∧ minutes ≤ 59 then
        some ((if hours = 0 ∧ minutes = 0 then '+' else c) :: cs.take 5, rest)
      else none
    else none

/-- The time that may follow a date. -/
def timeAfterDate? : List Char → Option (List Char × List Char)
  | [] => none
  | c :: cs =>
    if c = 'T' || c = 't' || c = ' ' then do
      let (time, rest) ← time? cs
      let (offset, rest) := (offset? rest).getD ([], rest)
      some ('T' :: (time ++ offset), rest)
    else none

def moment? (cs : List Char) : Option (List Char × List Char) :=
  match date? cs with
  | some (date, rest) =>
    match timeAfterDate? rest with
    | some (time, rest) => some (date ++ time, rest)
    | none => some (date, rest)
  | none => time? cs

end CameraControl.Toml
