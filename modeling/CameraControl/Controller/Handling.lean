import CameraControl.Controller.Opening
import CameraControl.Controller.Focusing

/-!
Handling messages. Every action is recorded before it is carried out; one that fails closes the device,
and a fatal failure goes to the exception callback or, for want of one, ends the controller.
-/
namespace CameraControl.Controller

variable {σ δ τ : Type}

def setMoveCallback (c : Controller σ δ τ) (callback : Option Tag) : Controller σ δ τ :=
  c.attach { c.attached with moveCallback := callback }

def querySettings (c : Controller σ δ τ) (reply : Ticket) : Controller σ δ τ :=
  { c with replies := c.replies ++ [(reply, c.attached.settings)] }

def record (c : Controller σ δ τ) (kind : Action.Kind) : Controller σ δ τ :=
  { c with
    history := c.history.record c.clock kind
    tally := { c.tally with actions := c.tally.actions + 1 } }

/-- The last words of a controller that crashes. -/
def crashText (failure : Failure) : String :=
  "unrecoverable camera handler failure: " ++ failure.message

/-- Hands a fatal failure to the exception callback; without one the controller crashes. -/
def raise (c : Controller σ δ τ) (failure : Failure) : Controller σ δ τ :=
  match c.exceptionCallback with
  | some callback => c.report (.raised callback failure)
  | none => { c with status := .crashed failure }

variable [Subsystem σ δ τ]

def perform (c : Controller σ δ τ) : Action → Controller σ δ τ × Option Failure
  | .openCamera index callback | .reconnect index callback => c.openCamera index callback
  | .release => (c.release, none)
  | .setPreviewTexture texture => c.setPreviewTexture texture
  | .startPreview callback => c.startPreview callback
  | .stopPreview => c.stopPreview
  | .applySettings settings => c.applySettings settings
  | .autoFocus callback => c.autoFocus callback
  | .cancelAutoFocus => c.cancelAutoFocus
  | .setMoveCallback callback => (c.setMoveCallback callback, none)
  | .querySettings reply => (c.querySettings reply, none)
  | .lock => (c, some (.unsupported .lock))
  | .unlock => (c, some (.unsupported .unlock))
  | .capturePhoto => (c, some (.unsupported .capturePhoto))
  | .setDisplayOrientation _ => (c, some (.unsupported .setDisplayOrientation))
  | .startFaceDetection => (c, some (.unsupported .startFaceDetection))
  | .stopFaceDetection => (c, some (.unsupported .stopFaceDetection))

/-- After a failure the device is closed. If none is held and the action was an opening, the opener is
told. -/
def recover (c : Controller σ δ τ) (kind : Action.Kind) (failure : Failure) : Controller σ δ τ :=
  let c := { c with tally := { c.tally with failures := c.tally.failures + 1 } }
  let c :=
    if c.attached.device.isSome then if kind = .release then c else c.closeDevice
    else if kind.isOpening then
      c.reportTo c.attached.openCallback (.openFailed · c.attached.index c.info)
    else c
  if failure.isFatal then c.raise failure else c

def act (c : Controller σ δ τ) (action : Action) : Controller σ δ τ :=
  match (c.record action.kind).perform action with
  | (c, none) => c
  | (c, some failure) => c.recover action.kind failure

def notice (c : Controller σ δ τ) (event : Event δ τ) : Controller σ δ τ :=
  let c := { c with tally := { c.tally with events := c.tally.events + 1 } }
  match event with
  | .opened device => c.onOpened device
  | .disconnected => c
  | .deviceError _ => c.onDeviceError
  | .configured session => c.onConfigured session
  | .configureFailed => c
  | .active => c.onActive
  | .completed listener _ lens => c.onCompleted listener lens
  | .captureFailed listener _ _ => c.onCaptureFailed listener

def shutDown (c : Controller σ δ τ) : Controller σ δ τ :=
  let c := if c.stage = .unopened then c else c.release
  { c with status := .stopped }

def handle (c : Controller σ δ τ) : Message δ τ → Controller σ δ τ
  | .action action => c.act action
  | .hardware event => c.notice event
  | .barrier ticket => { c with acknowledged := c.acknowledged ++ [ticket] }
  | .shutdown => c.shutDown

/-- Handles the oldest message, unless the controller has ended or its mailbox is empty. -/
def step? (c : Controller σ δ τ) : Option (Message δ τ × Controller σ δ τ) :=
  match c.status, c.mailbox with
  | .running, message :: rest => some (message, { c with mailbox := rest }.handle message)
  | _, _ => none

/-- Handles at most `n` messages, and lists those that it handled. -/
def run (c : Controller σ δ τ) : Nat → Controller σ δ τ × List (Message δ τ)
  | 0 => (c, [])
  | n + 1 =>
    match c.step? with
    | none => (c, [])
    | some (message, c) =>
      let (c, handled) := c.run n
      (c, message :: handled)

end CameraControl.Controller

namespace CameraControl

/-- How many messages a message can come to: an action may cause one event, an event none. -/
def Message.weight {δ τ : Type} : Message δ τ → Nat
  | .action _ => 2
  | _ => 1

def Message.totalWeight {δ τ : Type} : List (Message δ τ) → Nat
  | [] => 0
  | message :: rest => message.weight + totalWeight rest

namespace Controller

variable {σ δ τ : Type} [Subsystem σ δ τ]

def load (c : Controller σ δ τ) : Nat := Message.totalWeight c.mailbox

/-- Handles messages until none is left, as long as each action causes at most one event. -/
def drain (c : Controller σ δ τ) : Controller σ δ τ × List (Message δ τ) := c.run c.load

end Controller

end CameraControl
