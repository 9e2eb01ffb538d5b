/-!
Named values in the order in which the names were first given.
-/
namespace CameraControl.Fields

/-- Gives a value a name, in the place of the value that had the name before. -/
def put {α : Type} (name : String) (value : α) : List (String × α) → List (String × α)
  | [] => [(name, value)]
  | (n, old) :: rest => if n = name then (name, value) :: rest else (n, old) :: put name value rest

end CameraControl.Fields
