import CameraControl.Geometry
import CameraControl.Binary64

/-!
From areas of the field of view to metering regions of the sensor. Each edge is scaled to the active
array in double precision, moved by the array's origin, clamped to the array's own extent and truncated;
a region spans the images of its area's edges.
-/
namespace CameraControl.Metering

open Binary64

/-- Where a field-of-view coordinate lies between the two edges, from 0 to 1. -/
def fraction (v : Int) : Rat := nearest (nearest (v + 1000) / 2000)

/-- Where the bounds cross, the upper one counts. -/
def clamp (x : Rat) (low high : Int) : Int :=
  let raised : Rat := if x < low then low else x
  truncate (if high < raised then high else raised)

/-- The image of a coordinate on an axis of `extent` pixels that begins at `origin`. -/
def project (extent origin v : Int) : Int :=
  clamp (nearest (nearest (extent * fraction v) + origin)) 0 (extent - 1)

def region (array : Rect) (area : Area) : Region :=
  let left := project array.width array.left area.rect.left
  let top := project array.height array.top area.rect.top
  let right := project array.width array.left area.rect.right
  let bottom := project array.height array.top area.rect.bottom
  { x := left, y := top, width := right - left, height := bottom - top, weight := area.weight }

def regions (array : Rect) (areas : List Area) : List Region := areas.map (region array)

end CameraControl.Metering
