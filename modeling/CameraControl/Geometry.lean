/-!
Sizes, rectangles and weighted areas, in whole pixels or in the abstract field of view. A rectangle is
given by its four edges and may be empty or inverted; nothing here checks it.
-/
namespace CameraControl

structure Size where
  width : Nat
  height : Nat
deriving DecidableEq, Repr

structure Rect where
  left : Int
  top : Int
  right : Int
  bottom : Int
deriving DecidableEq, Repr

namespace Rect

def width (r : Rect) : Int := r.right - r.left

def height (r : Rect) : Int := r.bottom - r.top

def edges (r : Rect) : List Int := [r.left, r.top, r.right, r.bottom]

def Inverted (r : Rect) : Prop := r.right < r.left ∨ r.bottom < r.top

instance (r : Rect) : Decidable r.Inverted :=
  inferInstanceAs (Decidable (_ ∨ _))

/-- The rectangle as diagnostics name it. -/
def describe (r : Rect) : String :=
  "Rect \x7b left: " ++ toString r.left ++ ", top: " ++ toString r.top ++
    ", right: " ++ toString r.right ++ ", bottom: " ++ toString r.bottom ++ " \x7d"

end Rect

/-- A rectangle of the field of view, whose edges run from -1000 to 1000 on both axes. -/
structure Area where
  rect : Rect
  weight : Nat
deriving DecidableEq, Repr

/-- A metering region in pixels of the sensor's active array. -/
structure Region where
  x : Int
  y : Int
  width : Int
  height : Int
  weight : Nat
deriving DecidableEq, Repr

end CameraControl
