import CameraControl.Toml.Moment
import CameraControl.Toml.Node

/-!
Moments wrapped in tables. A table that begins with the wrapping key stands for the moment whose text is under
that key, and what follows in such a table is passed over. `Node.unwrap?` puts the moments in the place of
these tables; it fails where the key holds anything but the text of a moment.
-/
namespace CameraControl.Toml

def wrappingKey : String := "$__toml_private_datetime"

/-- The moment that a text gives from its first to its last character. -/
def wholeMoment? (s : String) : Option String :=
  match moment? s.toList with
  | some (text, []) => some (String.ofList text)
  | _ => none

def Node.moment? : Node → Option Node
  | .scalar (.text s) => (wholeMoment? s).map (.scalar <| .moment ·)
  | _ => none

/-- What stands under the wrapping key, where a table begins with it. -/
def wrapped? : Entries → Option Node
  | (key, node) :: _ => if key = wrappingKey then some node else none
  | [] => none

mutual

def Node.unwrap? : Node → Option Node
  | .scalar s => some (.scalar s)
  | .list items => (unwrapItems? items).map .list
  | .tables items => (unwrapItems? items).map .list
  | .table making entries =>
    match wrapped? entries with
    | some node => node.moment?
    | none => (unwrapEntries? entries).map (.table making)

def unwrapItems? : List Node → Option (List Node)
  | [] => some []
  | node :: rest => do
    let node ← node.unwrap?
    return node :: (← unwrapItems? rest)

def unwrapEntries? : Entries → Option Entries
  | [] => some []
  | (key, node) :: rest => do
    let node ← node.unwrap?
    return (key, node) :: (← unwrapEntries? rest)

end

/-- The root is a table of its own and stands for no moment. -/
def unwrapRoot? (entries : Entries) : Option Entries :=
  match wrapped? entries with
  | some _ => none
  | none => unwrapEntries? entries

end CameraControl.Toml
