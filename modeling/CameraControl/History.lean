import CameraControl.Action

/-!
The recent actions of a controller, for diagnostics. An opening starts the record afresh; otherwise the
oldest entry makes room for the newest once `capacity` entries are kept, which is at least one.
-/
namespace CameraControl

structure History where
  capacity : Nat
  /-- When each action was taken up, as the clock showed it, and its kind. -/
  entries : List (String × Action.Kind) := []
deriving DecidableEq, Repr

namespace History

def ofSize (size : Nat) : History := { capacity := max size 1 }

def kinds (h : History) : List Action.Kind := h.entries.map (·.2)

def record (h : History) (time : String) (kind : Action.Kind) : History :=
  let before := if kind.isOpening then [] else h.entries
  let kept := if before.length = h.capacity then before.drop 1 else before
  { h with entries := kept ++ [(time, kind)] }

def describe (h : History) (index : Nat) : String :=
  "camera " ++ toString index ++ " history: [" ++
    ", ".intercalate (h.entries.map fun (time, kind) => time ++ " " ++ kind.name) ++ "]"

end History

end CameraControl
