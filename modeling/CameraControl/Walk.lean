import CameraControl.Agent.Calls
import CameraControl.Simulator

/-!
A walk through a whole session with one camera: open it, apply settings, show a preview, focus, and give the
camera back. Frames come whenever the walk has something to see.
-/
namespace CameraControl.Walk

abbrev SimulatedAgent := Agent Simulator Simulator.Device Simulator.Session

inductive Setback
  | disabled (index : Nat)
  | notOpened (index : Nat) (info : String)
  | alreadyOpen (index : Nat) (info : String)
  | silent (index : Nat)
  | badSettings
  | noPreview
  | failed (failure : Failure)
deriving DecidableEq, Repr

def Setback.message : Setback → String
  | disabled index => "camera " ++ toString index ++ " is disabled"
  | notOpened index info => "camera " ++ toString index ++ " failed to open (" ++ info ++ ")"
  | alreadyOpen index info => "camera " ++ toString index ++ " is already open (" ++ info ++ ")"
  | silent index => "camera " ++ toString index ++ " did not open"
  | badSettings => "camera rejected settings"
  | noPreview => "preview did not start"
  | failed failure => failure.message

/-- What a report says about the opening, if it is about that. -/
def opening? : Report → Option (Except Setback Unit)
  | .opened _ _ => some (.ok ())
  | .disabled _ index => some (.error (.disabled index))
  | .openFailed _ index info => some (.error (.notOpened index info))
  | .alreadyOpen _ index info => some (.error (.alreadyOpen index info))
  | _ => none

/-- Makes a call and lets the threads come to rest. -/
def after (call : Except Failure SimulatedAgent) : Except Setback SimulatedAgent :=
  (call.map Agent.rest).mapError .failed

def openCamera (a : SimulatedAgent) (index : Nat) : Except Setback SimulatedAgent := do
  let a ← after ((a.setExceptionCallback 0).openCamera index 1)
  let outcome := a.controller.reports.findSome? fun r => opening? r.report
  outcome.getD (.error (.silent index))
  return a

def settings : Settings :=
  { preview := ⟨1920, 1080⟩, photo := ⟨4000, 3000⟩, focus := .continuousPicture }

def frame (a : SimulatedAgent) (lens : Lens) : SimulatedAgent :=
  let (world, events) := (a.controller.subsystem.setLens lens).emitFrame
  (a.environment world events).rest

def addTexture (a : SimulatedAgent) : SimulatedAgent × TextureId :=
  let (canvas, texture) := a.controller.canvas.addTexture
  ({ a with controller := { a.controller with canvas } }, texture)

def showsPreview (a : SimulatedAgent) : Bool :=
  a.controller.reports.any fun r => r.report = .previewStarted 3

def preview (a : SimulatedAgent) : Except Setback SimulatedAgent := do
  let a ← (after (a.applySettings settings)).mapError fun _ => .badSettings
  let (a, texture) := addTexture a
  let a ← after (a.setPreviewTexture texture)
  let a ← after (a.setMoveCallback (some 2))
  let a ← after (a.startPreview (some 3))
  if !showsPreview a then .error .noPreview
  let a := frame (frame a .passiveScan) .passiveFocused
  let a ← after (a.autoFocus (some 4))
  let a := frame a .focusedLocked
  let a ← after a.cancelAutoFocus
  after a.stopPreview

def closeCamera (a : SimulatedAgent) : Except Setback SimulatedAgent := do
  let (a, ticket) ← a.closeSynced.mapError .failed
  let a := a.rest
  (a.awaitRelease ticket).mapError .failed
  return a

/-- A camera that was opened is given back, whatever came of the preview. -/
def run (a : SimulatedAgent) (index : Nat) : Except Setback SimulatedAgent := do
  let a ← openCamera a index
  match preview a with
  | .ok a => closeCamera a
  | .error setback =>
    let _ ← closeCamera a
    .error setback

end CameraControl.Walk
