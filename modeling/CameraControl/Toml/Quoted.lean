import CameraControl.Toml.Line

/-!
Texts in quotes. Double quotes hold escapes, single quotes hold what stands there; three of either may go over
several lines. Each reader starts behind the opening quotes.
-/
namespace CameraControl.Toml

def digitValue (c : Char) : Nat :=
  if c.isDigit then c.toNat - '0'.toNat
  else if c.isLower then c.toNat - 'a'.toNat + 10
  else c.toNat - 'A'.toNat + 10

def isHexDigit (c : Char) : Bool :=
  c.isDigit || ('a' ≤ c && c ≤ 'f') || ('A' ≤ c && c ≤ 'F')

def numberOf (base : Nat) (digits : List Char) : Nat :=
  digits.foldl (fun n c => n * base + digitValue c) 0

/-- The character with a number of so many hexadecimal digits. -/
def scalar? (count : Nat) (cs : List Char) : Option Char :=
  let digits := cs.take count
  let n := numberOf 16 digits
  if digits.length = count ∧ digits.all isHexDigit ∧ n.isValidChar then some (Char.ofNat n)
  else none

/-- What an escape stands for, and how many characters it takes behind the backslash. -/
def escape? : List Char → Option (Char × Nat)
  | [] => none
  | c :: rest =>
    match c with
    | '"' => some ('"', 1)
    | '\\' => some ('\\', 1)
    | 'b' => some (Char.ofNat 8, 1)
    | 't' => some ('\t', 1)
    | 'n' => some ('\n', 1)
    | 'f' => some (Char.ofNat 12, 1)
    | 'r' => some ('\r', 1)
    | 'u' => (scalar? 4 rest).map (·, 5)
    | 'U' => (scalar? 8 rest).map (·, 9)
    | _ => none

def push (c : Char) (read : Option (List Char × List Char)) : Option (List Char × List Char) :=
  read.map fun (text, rest) => (c :: text, rest)

def basic : List Char → Option (List Char × List Char)
  | [] => none
  | '"' :: rest => some ([], rest)
  | '\\' :: rest =>
    match escape? rest with
    | some (c, taken) => push c (basic (rest.drop taken))
    | none => none
  | c :: rest => if isPlain c then push c (basic rest) else none
termination_by cs => cs.length
decreasing_by all_goals simp; try omega

def endsLine (cs : List Char) : Bool := (newline? (skipBlanks cs)).isSome

/-- One or two quotes may stand before the three closing ones. A backslash at the end of a line joins it with
the text that follows; then `joining` holds until that text begins. -/
def basicLines (joining : Bool) : List Char → Option (List Char × List Char)
  | [] => none
  | '"' :: '"' :: '"' :: '"' :: '"' :: rest => some (['"', '"'], rest)
  | '"' :: '"' :: '"' :: '"' :: rest => some (['"'], rest)
  | '"' :: '"' :: '"' :: rest => some ([], rest)
  | '\r' :: '\n' :: rest =>
    if joining then basicLines true rest else push '\n' (basicLines false rest)
  | '\\' :: rest =>
    if endsLine rest then basicLines true rest
    else
      match escape? rest with
      | some (c, taken) => push c (basicLines false (rest.drop taken))
      | none => none
  | c :: rest =>
    if joining && (isBlank c || c = '\n') then basicLines true rest
    else if isPlain c || c = '\n' then push c (basicLines false rest)
    else none
termination_by cs => cs.length
decreasing_by all_goals simp; try omega

def literal : List Char → Option (List Char × List Char)
  | [] => none
  | '\'' :: rest => some ([], rest)
  | c :: rest => if isPlain c then push c (literal rest) else none

def literalLines : List Char → Option (List Char × List Char)
  | [] => none
  | '\'' :: '\'' :: '\'' :: '\'' :: '\'' :: rest => some (['\'', '\''], rest)
  | '\'' :: '\'' :: '\'' :: '\'' :: rest => some (['\''], rest)
  | '\'' :: '\'' :: '\'' :: rest => some ([], rest)
  | '\r' :: '\n' :: rest => push '\n' (literalLines rest)
  | c :: rest => if isPlain c || c = '\n' then push c (literalLines rest) else none

/-- A newline right behind the three opening quotes is not part of the text. -/
def dropNewline (cs : List Char) : List Char := (newline? cs).getD cs

/-- A text in quotes on one line, from its opening quote on. -/
def lineText? : List Char → Option (List Char × List Char)
  | '"' :: rest => basic rest
  | '\'' :: rest => literal rest
  | _ => none

/-- A text in quotes of any kind, from its opening quote on. -/
def text? : List Char → Option (List Char × List Char)
  | '"' :: '"' :: '"' :: rest => basicLines false (dropNewline rest)
  | '\'' :: '\'' :: '\'' :: rest => literalLines (dropNewline rest)
  | cs => lineText? cs

end CameraControl.Toml
