import CameraControl.Toml.Node

/-!
Settings gathered from several places, before anything is known about their types. Each value remembers where
it came from. `assign` lays one setting over another: tables are merged, everything else is replaced, and
names do not distinguish capital letters.
-/
namespace CameraControl

open Toml (Scalar Node)

inductive Setting
  /-- A place in a list that was never given a value. -/
  | nothing
  | scalar (value : Scalar) (origin : Option String)
  | list (items : List Setting) (origin : Option String)
  | table (entries : List (String × Setting)) (origin : Option String)

namespace Setting

mutual

def ofNode (origin : String) : Node → Setting
  | .scalar s => .scalar s origin
  | .list items => .list (ofNodes origin items) origin
  | .tables items => .list (ofNodes origin items) origin
  | .table _ entries => .table (ofEntries origin entries) origin

def ofNodes (origin : String) : List Node → List Setting
  | [] => []
  | node :: rest => ofNode origin node :: ofNodes origin rest

def ofEntries (origin : String) : List (String × Node) → List (String × Setting)
  | [] => []
  | (key, node) :: rest => (key, ofNode origin node) :: ofEntries origin rest

end

def text (s : String) (origin : Option String := none) : Setting := .scalar (.text s) origin

def nat (n : Nat) : Setting := .scalar (.int n) none

def get? : Setting → String → Option Setting
  | table entries _, key => entries.lookup key
  | _, _ => none

/-- What is no table makes way for one. -/
def put (s : Setting) (key : String) (value : Setting) : Setting :=
  match s with
  | table entries origin => table (Fields.put key value entries) origin
  | _ => table [(key, value)] none

mutual

/-- An empty table leaves standing what it is laid over. -/
def assign (target : Setting) (key : String) : Setting → Setting
  | table entries _ =>
    target.put key.toLower (assignAll ((target.get? key.toLower).getD (table [] none)) entries)
  | value => target.put key.toLower value

def assignAll (target : Setting) : List (String × Setting) → Setting
  | [] => target
  | (key, value) :: rest => assignAll (assign target key value) rest

end

/-! Paths lead to a setting by names and by places in lists. -/

inductive Step
  | child (key : String)
  | place (index : Int)
deriving DecidableEq, Repr

def isNameChar (c : Char) : Bool := c.isAlphanum || c = ' ' || c = '_' || c = '-'

def isGap (c : Char) : Bool := c = ' ' || c = '\t'

/-- Places are numbers of 64 bits with a sign. -/
def isPlace (index : Int) : Bool := -9223372036854775808 ≤ index && index ≤ 9223372036854775807

/-- A place between brackets, and what follows it. -/
def place? (cs : List Char) : Option (Int × List Char) :=
  let cs := cs.dropWhile isGap
  let (negative, digits) : Bool × List Char := match cs with
    | '-' :: rest => (true, rest)
    | _ => (false, cs)
  match (String.ofList (digits.takeWhile Char.isDigit)).toNat?,
      (digits.dropWhile Char.isDigit).dropWhile isGap with
  | some n, ']' :: rest =>
    let index : Int := if negative then -(n : Int) else n
    if isPlace index then some (index, rest) else none
  | _, _ => none

def steps? : Nat → List Char → Option (List Step)
  | _, [] => some []
  | n + 1, '.' :: cs =>
    let name := cs.takeWhile isNameChar
    if name.isEmpty then none
    else (steps? n (cs.drop name.length)).map (.child (String.ofList name) :: ·)
  | n + 1, '[' :: cs => do
    let (index, rest) ← place? cs
    (steps? n rest).map (.place index :: ·)
  | _, _ => none

/-- The path that a name spells; a name that spells none is a name as it stands. -/
def path (key : String) : List Step :=
  let cs := '.' :: key.toList
  (steps? cs.length cs).getD [.child key]

/-- Places count from the end where they are negative. -/
def position (index : Int) (length : Nat) : Nat :=
  if 0 ≤ index then index.toNat else length - index.natAbs

def items : Setting → List Setting
  | list items _ => items
  | _ => []

def listOrigin : Setting → Option String
  | list _ origin => origin
  | _ => none

/-- What is no list makes way for one, and a list grows as far as the place. -/
def putAt (s : Setting) (index : Int) (value : Setting) : Setting :=
  let place := position index s.items.length
  let padding := List.replicate (place + 1 - s.items.length) nothing
  list ((s.items ++ padding).set place value) s.listOrigin

def getAt (s : Setting) (index : Int) : Setting :=
  (s.items[position index s.items.length]?).getD nothing

def alter (change : Setting → Setting) : List Step → Setting → Setting
  | [], s => change s
  | .child key :: rest, s =>
    s.put key.toLower (alter change rest ((s.get? key.toLower).getD nothing))
  | .place index :: rest, s => s.putAt index (alter change rest (s.getAt index))

/-- Lays a setting over what stands at the end of a path. -/
def assignAt (value : Setting) (steps : List Step) (root : Setting) : Setting :=
  match steps.getLast? with
  | some (.child key) => alter (assign · key value) steps.dropLast root
  | some (.place index) => alter (putAt · index value) steps.dropLast root
  | none => root

/-- Lays one layer of named settings over another; each name spells a path. -/
def overlay (root : Setting) (layer : List (String × Setting)) : Setting :=
  layer.foldl (fun root (key, value) => assignAt value (path key) root) root

end Setting

end CameraControl
