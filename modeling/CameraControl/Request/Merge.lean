import CameraControl.Request
import CameraControl.Metering

/-!
How settings enter a draft. Focus mode and regions always replace what the draft had; flash and scene only
do so when the settings name one, so a draft keeps the last flash and scene that were asked for.
-/
namespace CameraControl.Draft

def mergeFlash (d : Draft) (flash : FlashMode) : Draft :=
  if flash = .noFlash then d else d.withFlash flash

def mergeScene (d : Draft) (scene : SceneMode) : Draft :=
  if scene = .noScene then d else d.withScene scene

def merge (d : Draft) (s : Settings) (array : Rect) : Draft :=
  ((((d.withAutofocus (some (.ofFocus s.focus))).withFocusRegions
    (Metering.regions array s.focusAreas)).withExposureRegions
      (Metering.regions array s.meteringAreas)).mergeFlash s.flash).mergeScene s.scene

end CameraControl.Draft
