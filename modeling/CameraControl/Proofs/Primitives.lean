import CameraControl.Controller.Handling

/-!
The small steps of the controller, and what each leaves alone. Later modules put together from these what
handling a message does; they look into a handler only where it decides something.
-/
namespace CameraControl.Controller

variable {σ δ τ : Type}

def countEvent (c : Controller σ δ τ) : Controller σ δ τ :=
  { c with tally := { c.tally with events := c.tally.events + 1 } }

def countFailure (c : Controller σ δ τ) : Controller σ δ τ :=
  { c with tally := { c.tally with failures := c.tally.failures + 1 } }

/-- Remembers whom to tell about a camera that is to be opened. -/
def awaiting (c : Controller σ δ τ) (index : Nat) (callback : Tag) (deviceId : Option DeviceId) :
    Controller σ δ τ :=
  c.attach { c.attached with openCallback := some callback, index, deviceId }

variable [Subsystem σ δ τ]

theorem openCamera_unopened {c : Controller σ δ τ} (hstage : c.stage = .unopened) (index : Nat)
    (callback : Tag) : c.openCamera index callback =
      match c.roster.deviceId index with
      | .error failure => (c.awaiting index callback none, some failure)
      | .ok none => ((c.awaiting index callback none).report (.disabled callback index), none)
      | .ok (some id) =>
        let (c, fault) := (c.awaiting index callback (some id)).call (.openDevice id)
        (c, fault.map .subsystem) := by
  unfold openCamera
  rw [if_neg (not_not_intro hstage)]
  rfl

/-- What `recover` does about the camera, before it passes a fatal failure on. -/
def tidy (c : Controller σ δ τ) (kind : Action.Kind) : Controller σ δ τ :=
  if c.attached.device.isSome then if kind = .release then c else c.closeDevice
  else if kind.isOpening then
    c.reportTo c.attached.openCallback (.openFailed · c.attached.index c.info)
  else c

theorem recover_eq (c : Controller σ δ τ) (kind : Action.Kind) (failure : Failure) :
    c.recover kind failure =
      if failure.isFatal then (c.countFailure.tidy kind).raise failure
      else c.countFailure.tidy kind := rfl

/-- What becomes of an action's result. -/
def settle (kind : Action.Kind) : Controller σ δ τ × Option Failure → Controller σ δ τ
  | (c, none) => c
  | (c, some failure) => c.recover kind failure

theorem act_eq (c : Controller σ δ τ) (action : Action) :
    c.act action = settle action.kind ((c.record action.kind).perform action) := by
  unfold act settle
  cases (c.record action.kind).perform action with
  | mk c failure => cases failure <;> rfl

end CameraControl.Controller
