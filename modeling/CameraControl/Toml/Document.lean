import CameraControl.Toml.Number
import CameraControl.Toml.Wrapped

/-!
Reading a configuration text, line by line. A text that breaks any rule is refused as a whole: `read?` gives
the entries of the root table, or nothing.
-/
namespace CameraControl.Toml

/-- Lists and inline tables nest no deeper than this, and no dotted key has more parts. -/
def limit : Nat := 79

def isBareChar (c : Char) : Bool := c.isAlphanum || c = '_' || c = '-'

def part? (cs : List Char) : Option (List Char × List Char) :=
  match lineText? cs with
  | some (text, rest) => some (text, rest)
  | none =>
    let word := cs.takeWhile isBareChar
    if word.isEmpty then none else some (word, cs.drop word.length)

/-- A dotted key of at most so many parts, with the blanks around them. -/
def keyUpTo? : Nat → List Char → Option (List String × List Char)
  | 0, _ => none
  | n + 1, cs => do
    let (part, rest) ← part? (skipBlanks cs)
    let key := String.ofList part
    match skipBlanks rest with
    | '.' :: rest =>
      let (keys, rest) ← keyUpTo? n rest
      some (key :: keys, rest)
    | rest => some ([key], rest)

def key? (cs : List Char) : Option (List String × List Char) := keyUpTo? limit cs

def scalarNode? (cs : List Char) : Option (Node × List Char) :=
  match text? cs with
  | some (text, rest) => some (.scalar (.text (String.ofList text)), rest)
  | none =>
    match moment? cs with
    | some (text, rest) => some (.scalar (.moment (String.ofList text)), rest)
    | none =>
      let word := cs.takeWhile isWordChar
      (ofWord? word).map fun s => (.scalar s, cs.drop word.length)

/-- A value under a key, with the equals sign between them. -/
def pair? (value? : List Char → Option (Node × List Char)) (cs : List Char) :
    Option (List String × Node × List Char) := do
  let (keys, rest) ← key? cs
  let rest ← mark? '=' rest
  let (node, rest) ← value? (skipBlanks rest)
  some (keys, node, rest)

/-- The rest of a list, behind its bracket or a comma. A comma may stand before the closing bracket. -/
def items? (value? : List Char → Option (Node × List Char)) :
    Nat → List Char → Option (List Node × List Char)
  | 0, _ => none
  | n + 1, cs =>
    match skipLines false cs with
    | ']' :: rest => some ([], rest)
    | cs => do
      let (node, rest) ← value? cs
      match skipLines false rest with
      | ']' :: rest => some ([node], rest)
      | ',' :: rest =>
        let (nodes, rest) ← items? value? n rest
        some (node :: nodes, rest)
      | _ => none

/-- The rest of an inline table, at a key. -/
def pairs? (value? : List Char → Option (Node × List Char)) :
    Nat → Entries → List Char → Option (Entries × List Char)
  | 0, _, _ => none
  | n + 1, entries, cs => do
    let (keys, node, rest) ← pair? value? cs
    let entries ← write keys node .inline entries
    match skipBlanks rest with
    | '\x7d' :: rest => some (entries, rest)
    | ',' :: rest => pairs? value? n entries rest
    | _ => none

def inline? (value? : List Char → Option (Node × List Char)) (cs : List Char) :
    Option (Entries × List Char) :=
  match skipBlanks cs with
  | '\x7d' :: rest => some ([], rest)
  | cs => pairs? value? cs.length [] cs

/-- A value that nests no deeper than `depth`. -/
def valueUpTo? : Nat → List Char → Option (Node × List Char)
  | 0, cs => scalarNode? cs
  | depth + 1, cs =>
    match cs with
    | '[' :: rest =>
      (items? (valueUpTo? depth) (rest.length + 1) rest).map fun (items, rest) => (.list items, rest)
    | '\x7b' :: rest =>
      (inline? (valueUpTo? depth) rest).map fun (entries, rest) => (.table .inline entries, rest)
    | _ => scalarNode? cs

structure Document where
  root : Entries := []
  /-- The header under which the next keys stand. -/
  header : List String := []

namespace Document

def under? (d : Document) (path : List String) (change : Making → Entries → Option Entries) :
    Option Document :=
  (alter .path change path .header d.root).map fun root => { d with root }

/-- Opens the table that a header names. -/
def enter? (d : Document) (open? : String → Making → Entries → Option Entries) (keys : List String) :
    Option Document := do
  let key ← keys.getLast?
  let d ← d.under? keys.dropLast (open? key)
  some { d with header := keys }

def line? (d : Document) (cs : List Char) : Option (Document × List Char) :=
  match cs with
  | '[' :: '[' :: rest => do
    let (keys, rest) ← key? rest
    let rest ← mark? ']' (← mark? ']' rest)
    some (← d.enter? openItem keys, ← endLine? rest)
  | '[' :: rest => do
    let (keys, rest) ← key? rest
    let rest ← mark? ']' rest
    some (← d.enter? openTable keys, ← endLine? rest)
  | _ =>
    match endLine? cs with
    | some rest => some (d, rest)
    | none => do
      let (keys, node, rest) ← pair? (valueUpTo? limit) cs
      some (← d.under? d.header (write keys node), ← endLine? rest)

def lines? (d : Document) : Nat → List Char → Option Document
  | 0, _ => none
  | n + 1, cs =>
    match skipBlanks cs with
    | [] => some d
    | cs => do
      let (d, rest) ← d.line? cs
      d.lines? n rest

end Document

/-- A text may begin with a byte order mark. -/
def dropMark : List Char → List Char
  | '\ufeff' :: rest => rest
  | cs => cs

def read? (text : String) : Option Entries := do
  let cs := dropMark text.toList
  let d ← ({} : Document).lines? (cs.length + 1) cs
  unwrapRoot? d.root

end CameraControl.Toml
