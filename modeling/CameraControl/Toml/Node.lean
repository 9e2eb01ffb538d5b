import CameraControl.Binary64
import CameraControl.Fields

/-!
What a configuration text says: a tree of scalars, lists and tables. A table remembers how it came to be,
because that decides who may still add to it. `write` adds a value under a dotted key, `openTable` and
`openItem` serve the two kinds of headers; each fails where an earlier line stands against it.
-/
namespace CameraControl.Toml

open Fields

inductive Scalar
  | text (s : String)
  | int (n : Int)
  | float (x : Double)
  | bool (b : Bool)
  /-- A date, a time or both, in their full form. -/
  | moment (s : String)
deriving Repr

inductive Making
  /-- Written out as a value. -/
  | inline
  /-- Opened by a header of its own. -/
  | header
  /-- Passed through by the header of another table. -/
  | path
  /-- Passed through by a dotted key. -/
  | dotted
deriving DecidableEq, Repr

inductive Node
  | scalar (s : Scalar)
  | list (items : List Node)
  | table (making : Making) (entries : List (String × Node))
  /-- Tables that share a header; the last one is the current one. -/
  | tables (items : List Node)

abbrev Entries := List (String × Node)

/-- Headers lead through every table but inline ones, dotted keys only through tables that no header has
opened. -/
def Making.admits (way : Making) (m : Making) : Bool :=
  match way with
  | dotted => m = path || m = dotted
  | _ => m != inline

/-- Changes the table at the end of a path. Tables that are missing on the way are made; of tables that share
a header the last one is meant. -/
def alter (way : Making) (change : Making → Entries → Option Entries) :
    List String → Making → Entries → Option Entries
  | [], making, entries => change making entries
  | key :: rest, _, entries =>
    match (entries.lookup key).getD (.table way []) with
    | .table making inner =>
      if way.admits making then
        (alter way change rest making inner).map fun inner => put key (.table making inner) entries
      else none
    | .tables items =>
      match items.getLast? with
      | some (.table making inner) =>
        (alter way change rest making inner).map fun inner =>
          put key (.tables (items.dropLast ++ [.table making inner])) entries
      | _ => none
    | _ => none

/-- A value is given once, and a table made by dotted keys grows by dotted keys only. -/
def assign (direct : Bool) (key : String) (node : Node) (making : Making) (entries : Entries) :
    Option Entries :=
  if making = .dotted ↔ direct then none
  else if (entries.lookup key).isSome then none
  else some (put key node entries)

/-- Adds a value under a dotted key. -/
def write (path : List String) (node : Node) (making : Making) (entries : Entries) :
    Option Entries :=
  match path.getLast? with
  | some key =>
    alter .dotted (assign (path.length = 1) key node) path.dropLast making entries
  | none => none

/-- A table that other headers passed through moves behind the entries beside it. -/
def openTable (key : String) (_ : Making) (entries : Entries) : Option Entries :=
  match entries.lookup key with
  | none => some (put key (.table .header []) entries)
  | some (.table .path inner) =>
    some (entries.filter (·.1 ≠ key) ++ [(key, .table .header inner)])
  | some _ => none

def openItem (key : String) (_ : Making) (entries : Entries) : Option Entries :=
  match entries.lookup key with
  | none => some (put key (.tables [.table .header []]) entries)
  | some (.tables items) => some (put key (.tables (items ++ [.table .header []])) entries)
  | some _ => none

end CameraControl.Toml
