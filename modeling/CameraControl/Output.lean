import CameraControl.Json
import CameraControl.Controller

/-!
The structured forms of the values that are shown to callers.
-/
namespace CameraControl

def Size.toJson (s : Size) : Json := .object [("width", .nat s.width), ("height", .nat s.height)]

def Rect.toJson (r : Rect) : Json :=
  .object [("left", .int r.left), ("top", .int r.top), ("right", .int r.right),
    ("bottom", .int r.bottom)]

def Characteristics.toJson (c : Characteristics) : Json :=
  .object [("lens_facing", .str c.facing.name), ("sensor_orientation", .nat c.orientation),
    ("active_array", c.activeArray.toJson)]

def Inventory.toJson (i : Inventory) : Json :=
  .object [("camera_ids", .listOf (.option .str) i.slots),
    ("characteristics", .listOf (.option Characteristics.toJson) i.characteristics),
    ("number_of_cameras", .nat i.count),
    ("first_back_camera", .option .nat i.firstBack),
    ("first_front_camera", .option .nat i.firstFront)]

def Tally.toJson (t : Tally) : Json :=
  .object [("actions_processed", .nat t.actions), ("hardware_events", .nat t.events),
    ("rejected_commands", .nat t.rejected), ("failures", .nat t.failures)]

end CameraControl
