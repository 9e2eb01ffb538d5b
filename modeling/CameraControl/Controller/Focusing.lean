import CameraControl.Controller.Previewing

/-!
Locking the focus. The callback of an autofocus request waits in two places: first for the trigger capture
to complete, then for the first frame on which the lens is locked. Frames of a running preview also drive
the reports on passive focus movement, one for each change of the lens state.
-/
namespace CameraControl.Controller

variable {σ δ τ : Type}

/-- Tells a focus callback how it ended, if there is one and a camera to report on. -/
def reportFocus (c : Controller σ δ τ) (callback : Option Tag) (sharp : Bool) :
    Controller σ δ τ :=
  match callback, c.attached.camera with
  | some tag, some camera => c.report (.focused tag sharp camera)
  | _, _ => c

/-- The trigger capture completed: from now on frames are watched for a locked lens. -/
def onTriggered (c : Controller σ δ τ) : Controller σ δ τ :=
  match c.attached.pendingFocus with
  | some tag => c.attach { c.attached with pendingFocus := none, armedFocus := some tag }
  | none => c

def onTriggerFailed (c : Controller σ δ τ) : Controller σ δ τ :=
  (c.attach { c.attached with pendingFocus := none }).reportFocus c.attached.pendingFocus false

def onLens (c : Controller σ δ τ) (lens : Lens) : Controller σ δ τ :=
  let changed := c.lastLens ≠ some lens
  let c := { c with lastLens := some lens }
  match c.attached.camera with
  | none => c
  | some camera =>
    if lens.isPassive then
      if changed then
        c.reportTo c.attached.moveCallback (.moved · (lens = .passiveScan) camera)
      else c
    else if lens.isLocked then
      (c.attach { c.attached with armedFocus := none }).reportTo c.attached.armedFocus
        (.focused · (lens = .focusedLocked) camera)
    else c

def onCompleted (c : Controller σ δ τ) (listener : Listener) (lens : Option Lens) :
    Controller σ δ τ :=
  match listener, lens with
  | .lensState, some lens => c.onLens lens
  | .lensState, none => c
  | .focusTrigger, _ => c.onTriggered
  | .untracked, _ => c

def onCaptureFailed (c : Controller σ δ τ) (listener : Listener) : Controller σ δ τ :=
  match listener with
  | .focusTrigger => c.onTriggerFailed
  | .lensState | .untracked => c

variable [Subsystem σ δ τ]

/-- Submits one capture that carries a trigger, which the draft itself does not keep. -/
def submitTrigger (c : Controller σ δ τ) (session : τ) (draft : Draft) (trigger : Trigger)
    (listener : Listener) : Controller σ δ τ × Option Fault :=
  let triggered := draft.withTrigger trigger
  (c.attach { c.attached with draft := some (triggered.withTrigger .idle) }).call
    (.capture session triggered.build listener)

def autoFocus (c : Controller σ δ τ) (callback : Option Tag) : Controller σ δ τ × Option Failure :=
  if c.stage < .previewActive then (c.reject, none)
  else
    match c.attached.session, c.attached.draft with
    | none, _ => c.missing .session .autoFocus
    | some _, none => c.missing .draft .autoFocus
    | some session, some draft =>
      match (c.enter .focusLocked).submitTrigger session draft .start .focusTrigger with
      | (c, none) => (c.attach { c.attached with pendingFocus := callback }, none)
      | (c, some _) => ((c.enter .previewActive).reportFocus callback false, none)

def cancelAutoFocus (c : Controller σ δ τ) : Controller σ δ τ × Option Failure :=
  if c.stage < .previewActive then (c.reject, none)
  else
    match c.attached.session, c.attached.draft with
    | none, _ => c.missing .session .cancelAutoFocus
    | some _, none => c.missing .draft .cancelAutoFocus
    | some session, some draft =>
      match (c.enter .previewActive).submitTrigger session draft .cancel .untracked with
      | (c, none) => (c, none)
      | (c, some _) => (c.enter .focusLocked, none)

end CameraControl.Controller
