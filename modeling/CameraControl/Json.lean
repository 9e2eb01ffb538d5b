/-!
Structured output. A `Json` value keeps its fields in the order in which they are given; `compact` writes it
on one line and `pretty` with two spaces for each level, empty lists and objects staying on their line.
-/
namespace CameraControl

inductive Json
  | null
  | bool (b : Bool)
  | int (n : Int)
  | str (s : String)
  | list (items : List Json)
  | object (fields : List (String × Json))

namespace Json

def hexDigit (n : Nat) : Char := (Nat.digitChar n)

/-- Quotes, backslashes and control characters are escaped; everything else stands for itself. -/
def escape (c : Char) : List Char :=
  if c = '"' then ['\\', '"']
  else if c = '\\' then ['\\', '\\']
  else if c = '\n' then ['\\', 'n']
  else if c = '\r' then ['\\', 'r']
  else if c = '\t' then ['\\', 't']
  else if c.toNat = 8 then ['\\', 'b']
  else if c.toNat = 12 then ['\\', 'f']
  else if c.toNat < 32 then
    ['\\', 'u', '0', '0', hexDigit (c.toNat / 16), hexDigit (c.toNat % 16)]
  else [c]

def quote (s : String) : String := "\"" ++ String.ofList (s.toList.flatMap escape) ++ "\""

mutual

def compact : Json → String
  | null => "null"
  | bool b => toString b
  | int n => toString n
  | str s => quote s
  | list items => "[" ++ ",".intercalate (compactItems items) ++ "]"
  | object fields => "\x7b" ++ ",".intercalate (compactFields fields) ++ "\x7d"

def compactItems : List Json → List String
  | [] => []
  | item :: rest => item.compact :: compactItems rest

def compactFields : List (String × Json) → List String
  | [] => []
  | (key, value) :: rest => (quote key ++ ":" ++ value.compact) :: compactFields rest

end

/-- Items on lines of their own, indented one level deeper than the brackets around them. -/
def block (left right : String) (depth : Nat) (items : List String) : String :=
  if items.isEmpty then left ++ right
  else
    let line := "\n" ++ String.ofList (List.replicate (2 * depth) ' ')
    left ++ (",".intercalate (items.map (line ++ "  " ++ ·))) ++ line ++ right

mutual

def prettyAt (depth : Nat) : Json → String
  | null => "null"
  | bool b => toString b
  | int n => toString n
  | str s => quote s
  | list items => block "[" "]" depth (prettyItems (depth + 1) items)
  | object fields => block "\x7b" "\x7d" depth (prettyFields (depth + 1) fields)

def prettyItems (depth : Nat) : List Json → List String
  | [] => []
  | item :: rest => item.prettyAt depth :: prettyItems depth rest

def prettyFields (depth : Nat) : List (String × Json) → List String
  | [] => []
  | (key, value) :: rest => (quote key ++ ": " ++ value.prettyAt depth) :: prettyFields depth rest

end

def pretty (j : Json) : String := j.prettyAt 0

def nat (n : Nat) : Json := .int n

def option {α : Type} (write : α → Json) : Option α → Json
  | some a => write a
  | none => null

def listOf {α : Type} (write : α → Json) (items : List α) : Json := .list (items.map write)

end Json

end CameraControl
