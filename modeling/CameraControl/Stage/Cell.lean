import CameraControl.Stage

/-!
The shared cell that holds the current stage. Anyone may read it or wait for it to enter a set of stages;
once it is invalidated no stage is good enough any more, whatever is set afterwards.
-/
namespace CameraControl.Stage

structure Cell where
  stage : Stage := .unopened
  invalid : Bool := false
deriving DecidableEq, Repr

namespace Cell

def set (c : Cell) (stage : Stage) : Cell := { c with stage }

def invalidate (c : Cell) : Cell := { c with invalid := true }

/-- What a waiter for `wanted` is told: false once the cell is invalid, true in a wanted stage, and
otherwise nothing yet. -/
def check (c : Cell) (wanted : Set) : Option Bool :=
  if c.invalid then some false
  else if c.stage ∈ wanted then some true
  else none

end Cell

end CameraControl.Stage
