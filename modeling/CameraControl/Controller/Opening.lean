import CameraControl.Controller

/-!
Opening and releasing a camera. An opening is answered in two messages: the request, which may fail at
once, and the event that delivers the device. In between the controller only remembers whom to tell.
-/
namespace CameraControl.Controller

variable {σ δ τ : Type} [Subsystem σ δ τ]

def openCamera (c : Controller σ δ τ) (index : Nat) (callback : Tag) :
    Controller σ δ τ × Option Failure :=
  if c.stage ≠ .unopened then
    (c.reject.report (.alreadyOpen callback index (c.history.describe index)), none)
  else
    let c := c.attach { c.attached with openCallback := some callback, index, deviceId := none }
    match c.roster.deviceId index with
    | .error failure => (c, some failure)
    | .ok none => (c.report (.disabled callback index), none)
    | .ok (some id) =>
      let (c, fault) := (c.attach { c.attached with deviceId := some id }).call (.openDevice id)
      (c, fault.map .subsystem)

/-- Takes up a device that was opened: what it is, and a first request for it. -/
def populate (c : Controller σ δ τ) (device : δ) : Controller σ δ τ × Except Fault Camera :=
  match Subsystem.characteristics c.subsystem (Subsystem.idOf σ device) with
  | .error fault => (c, .error fault)
  | .ok characteristics =>
    match Subsystem.draft c.subsystem device .preview with
    | (world, .error fault) => ({ c with subsystem := world }, .error fault)
    | (world, .ok draft) =>
      let camera : Camera := ⟨c.attached.index, characteristics⟩
      ({ c with
          subsystem := world
          attached := { c.attached with
            activeArray := some characteristics.activeArray
            draft := some draft
            camera := some camera } }, .ok camera)

/-- A device that nobody asked for, or that cannot be taken up, is closed again. -/
def onOpened (c : Controller σ δ τ) (device : δ) : Controller σ δ τ :=
  match c.attached.openCallback with
  | none => c.tell (.closeDevice device)
  | some callback =>
    match c.populate device with
    | (c, .ok camera) =>
      ((c.attach { c.attached with device := some device }).enter .unconfigured).report
        (.opened callback camera)
    | (c, .error _) =>
      (c.tell (.closeDevice device)).report (.openFailed callback c.attached.index c.info)

def onDeviceError (c : Controller σ δ τ) : Controller σ δ τ :=
  c.reportTo c.attached.openCallback (.openFailed · c.attached.index c.info)

def release (c : Controller σ δ τ) : Controller σ δ τ :=
  if c.stage = .unopened then c.reject
  else
    let c := c.closeSession.closeDevice.releaseSurface
    { c with attached := {}, lastLens := none }.enter .unopened

end CameraControl.Controller
