import CameraControl.Canvas

/-!
What a caller asks of the controller. An action carries the data it needs and the tags of the callbacks
that report on it; its `Kind` is what remains of it in histories and diagnostics.
-/
namespace CameraControl

/-- Names a callback that a caller passed in. -/
abbrev Tag := Nat

/-- Names a place where a reply is awaited. -/
abbrev Ticket := Nat

inductive Action
  | openCamera (index : Nat) (callback : Tag)
  | reconnect (index : Nat) (callback : Tag)
  | release
  | setPreviewTexture (texture : TextureId)
  | startPreview (callback : Option Tag)
  | stopPreview
  | applySettings (settings : Settings)
  | autoFocus (callback : Option Tag)
  | cancelAutoFocus
  | setMoveCallback (callback : Option Tag)
  | querySettings (reply : Ticket)
  | lock
  | unlock
  | capturePhoto
  | setDisplayOrientation (degrees : Nat)
  | startFaceDetection
  | stopFaceDetection
deriving DecidableEq, Repr

namespace Action

inductive Kind
  | openCamera | reconnect | release | setPreviewTexture | startPreview | stopPreview | applySettings
  | autoFocus | cancelAutoFocus | setMoveCallback | querySettings | lock | unlock | capturePhoto
  | setDisplayOrientation | startFaceDetection | stopFaceDetection
deriving DecidableEq, Repr

namespace Kind

def isOpening : Kind → Bool
  | openCamera | reconnect => true
  | _ => false

def name : Kind → String
  | openCamera => "open_camera"
  | reconnect => "reconnect"
  | release => "release"
  | setPreviewTexture => "set_preview_texture"
  | startPreview => "start_preview"
  | stopPreview => "stop_preview"
  | applySettings => "apply_settings"
  | autoFocus => "auto_focus"
  | cancelAutoFocus => "cancel_auto_focus"
  | setMoveCallback => "set_auto_focus_move_callback"
  | querySettings => "query_settings"
  | lock => "lock"
  | unlock => "unlock"
  | capturePhoto => "capture_photo"
  | setDisplayOrientation => "set_display_orientation"
  | startFaceDetection => "start_face_detection"
  | stopFaceDetection => "stop_face_detection"

/-- The kind as structured output names it. -/
def label : Kind → String
  | openCamera => "OpenCamera"
  | reconnect => "Reconnect"
  | release => "Release"
  | setPreviewTexture => "SetPreviewTexture"
  | startPreview => "StartPreview"
  | stopPreview => "StopPreview"
  | applySettings => "ApplySettings"
  | autoFocus => "AutoFocus"
  | cancelAutoFocus => "CancelAutoFocus"
  | setMoveCallback => "SetAutoFocusMoveCallback"
  | querySettings => "QuerySettings"
  | lock => "Lock"
  | unlock => "Unlock"
  | capturePhoto => "CapturePhoto"
  | setDisplayOrientation => "SetDisplayOrientation"
  | startFaceDetection => "StartFaceDetection"
  | stopFaceDetection => "StopFaceDetection"

end Kind

def kind : Action → Kind
  | openCamera _ _ => .openCamera
  | reconnect _ _ => .reconnect
  | release => .release
  | setPreviewTexture _ => .setPreviewTexture
  | startPreview _ => .startPreview
  | stopPreview => .stopPreview
  | applySettings _ => .applySettings
  | autoFocus _ => .autoFocus
  | cancelAutoFocus => .cancelAutoFocus
  | setMoveCallback _ => .setMoveCallback
  | querySettings _ => .querySettings
  | lock => .lock
  | unlock => .unlock
  | capturePhoto => .capturePhoto
  | setDisplayOrientation _ => .setDisplayOrientation
  | startFaceDetection => .startFaceDetection
  | stopFaceDetection => .stopFaceDetection

/-- The kind, with the number that an opening or an orientation is about. -/
def describe (a : Action) : String :=
  match a with
  | openCamera n _ | reconnect n _ | setDisplayOrientation n =>
    a.kind.name ++ "(" ++ toString n ++ ")"
  | _ => a.kind.name

end Action

end CameraControl
