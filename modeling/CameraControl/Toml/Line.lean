/-!
Blanks, comments and the ends of lines. A line ends with a line feed, which may follow a carriage return.
-/
namespace CameraControl.Toml

def isBlank (c : Char) : Bool := c = ' ' || c = '\t'

/-- Control characters stand nowhere but where a line ends; the tab is none of them. -/
def isPlain (c : Char) : Bool := c = '\t' || (32 ≤ c.toNat && c.toNat ≠ 127)

def skipBlanks (cs : List Char) : List Char := cs.dropWhile isBlank

def newline? : List Char → Option (List Char)
  | '\n' :: rest => some rest
  | '\r' :: '\n' :: rest => some rest
  | _ => none

def skipComment : List Char → List Char
  | '#' :: rest => rest.dropWhile isPlain
  | cs => cs

/-- Goes past the rest of a line that holds nothing more, or a comment. -/
def endLine? (cs : List Char) : Option (List Char) :=
  match skipComment (skipBlanks cs) with
  | [] => some []
  | cs => newline? cs

/-- Goes past blanks, newlines and comments. -/
def skipLines (comment : Bool) : List Char → List Char
  | [] => []
  | '\r' :: '\n' :: rest => skipLines false rest
  | c :: rest =>
    if c = '\n' then skipLines false rest
    else if comment && isPlain c then skipLines true rest
    else if !comment && isBlank c then skipLines false rest
    else if !comment && c = '#' then skipLines true rest
    else c :: rest

def mark? (c : Char) : List Char → Option (List Char)
  | d :: rest => if d = c then some rest else none
  | [] => none

end CameraControl.Toml
