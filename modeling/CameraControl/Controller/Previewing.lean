import CameraControl.Controller
import CameraControl.Request.Merge

/-!
From an open camera to a running preview: settings, the preview texture with its capture session, and the
repeating request. A submission that the subsystem refuses is rolled back and is no failure of the action.
-/
namespace CameraControl

/-- The parts of an attachment that an action can find missing. -/
inductive Part
  | previewSize | draft | device | session | activeArray
deriving DecidableEq, Repr

def Part.name : Part → String
  | previewSize => "preview size"
  | draft => "persistent request"
  | device => "camera device"
  | session => "capture session"
  | activeArray => "active array"

namespace Controller

variable {σ δ τ : Type}

def missing (c : Controller σ δ τ) (part : Part) (kind : Action.Kind) :
    Controller σ δ τ × Option Failure :=
  (c, some (.missing part.name kind))

variable [Subsystem σ δ τ]

/-- Moves the preview to a texture: the old surface makes way for a new one in the draft. -/
def bindTexture (c : Controller σ δ τ) (texture : TextureId) (size : Size) (draft : Draft) :
    Controller σ δ τ × SurfaceId :=
  let draft := (c.attached.surface.map draft.removeTarget).getD draft
  let c := { c with canvas := c.canvas.resize texture size }.releaseSurface
  let (canvas, surface) := c.canvas.addSurface texture
  ({ c with
      canvas
      attached := { c.attached with
        draft := some (draft.addTarget surface)
        texture := some texture
        surface := some surface } }, surface)

def setPreviewTexture (c : Controller σ δ τ) (texture : TextureId) :
    Controller σ δ τ × Option Failure :=
  if c.stage < .configured then (c.reject, none)
  else if c.attached.texture = some texture then (c, none)
  else
    let c := c.closeSession
    match c.attached.previewSize, c.attached.draft with
    | none, _ => c.missing .previewSize .setPreviewTexture
    | some _, none => c.missing .draft .setPreviewTexture
    | some size, some draft =>
      let (c, surface) := c.bindTexture texture size draft
      match c.attached.device with
      | none => c.missing .device .setPreviewTexture
      | some device => (c.tell (.createSession device [surface]), none)

/-- A session that is configured after the camera was released is aborted at once. -/
def onConfigured (c : Controller σ δ τ) (session : τ) : Controller σ δ τ :=
  if c.stage < .configured then c.tell (.abortCaptures session)
  else (c.attach { c.attached with session := some session }).enter .previewReady

def startPreview (c : Controller σ δ τ) (callback : Option Tag) :
    Controller σ δ τ × Option Failure :=
  if c.stage ≠ .previewReady then (c.reject, none)
  else
    match c.attached.session, c.attached.draft with
    | none, _ => c.missing .session .startPreview
    | some _, none => c.missing .draft .startPreview
    | some session, some draft =>
      let c := (c.attach { c.attached with previewCallback := callback }).enter .previewActive
      match c.call (.setRepeating session draft.build .lensState) with
      | (c, none) => (c, none)
      | (c, some _) =>
        ((c.attach { c.attached with previewCallback := none }).enter .previewReady, none)

/-- The session has begun to process preview requests. -/
def onActive (c : Controller σ δ τ) : Controller σ δ τ :=
  (c.attach { c.attached with previewCallback := none }).reportTo c.attached.previewCallback
    .previewStarted

def stopPreview (c : Controller σ δ τ) : Controller σ δ τ × Option Failure :=
  if c.stage < .previewActive then (c.reject, none)
  else
    match c.attached.session with
    | none => c.missing .session .stopPreview
    | some session =>
      match c.call (.stopRepeating session) with
      | (c, none) => (c.enter .previewReady, none)
      | (c, some _) => (c, none)

def applySettings (c : Controller σ δ τ) (settings : Settings) :
    Controller σ δ τ × Option Failure :=
  if c.stage = .unopened then (c.reject, none)
  else
    match c.attached.activeArray, c.attached.draft with
    | none, _ => c.missing .activeArray .applySettings
    | some _, none => c.missing .draft .applySettings
    | some array, some draft =>
      let draft := draft.merge settings array
      let c := c.attach { c.attached with
        previewSize := some settings.preview
        draft := some draft
        settings := some settings }
      if .previewActive ≤ c.stage then
        match c.attached.session with
        | none => c.missing .session .applySettings
        | some session => (c.tell (.setRepeating session draft.build .lensState), none)
      else if c.stage < .previewReady then (c.enter .configured, none)
      else (c, none)

end Controller

end CameraControl
