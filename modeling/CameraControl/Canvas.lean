import CameraControl.Geometry
import CameraControl.Request

/-!
Preview textures and the surfaces cut from them. Both are numbered from 1 in the order in which they were
made, so an identifier is a position. A texture remembers the buffer size it was last given; a surface
belongs to one texture for good and, once released, stays released.
-/
namespace CameraControl

abbrev TextureId := Nat

structure Surface where
  texture : TextureId
  released : Bool := false
deriving DecidableEq, Repr

structure Canvas where
  textures : List (Option Size) := []
  surfaces : List Surface := []
deriving DecidableEq, Repr

namespace Canvas

def addTexture (c : Canvas) : Canvas × TextureId :=
  ({ c with textures := c.textures ++ [none] }, c.textures.length + 1)

def addSurface (c : Canvas) (t : TextureId) : Canvas × SurfaceId :=
  ({ c with surfaces := c.surfaces ++ [{ texture := t }] }, c.surfaces.length + 1)

def resize (c : Canvas) : TextureId → Size → Canvas
  | 0, _ => c
  | n + 1, size => { c with textures := c.textures.set n (some size) }

def release (c : Canvas) : SurfaceId → Canvas
  | 0 => c
  | n + 1 =>
    { c with surfaces := c.surfaces.modify n fun surface => { surface with released := true } }

def size? (c : Canvas) : TextureId → Option Size
  | 0 => none
  | n + 1 => (c.textures[n]?).join

def surface? (c : Canvas) : SurfaceId → Option Surface
  | 0 => none
  | n + 1 => c.surfaces[n]?

end Canvas

end CameraControl
