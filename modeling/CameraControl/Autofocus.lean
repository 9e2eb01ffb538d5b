import CameraControl.Settings

/-!
The vocabulary of autofocus: the mode and trigger a request carries, and the lens state a result reports.
A passive lens state belongs to continuous focusing; a locked one is final, whether the image is sharp or not.
-/
namespace CameraControl

inductive AutofocusMode
  | off | auto | macroRange | continuousVideo | continuousPicture | extendedDepth
deriving DecidableEq, Repr

inductive Trigger
  | idle | start | cancel
deriving DecidableEq, Repr

inductive Lens
  | inactive | passiveScan | passiveFocused | activeScan | focusedLocked | notFocusedLocked
  | passiveUnfocused
deriving DecidableEq, Repr

namespace AutofocusMode

/-- How a focus mode is driven: a lens that keeps its place needs no autofocus. -/
def ofFocus : FocusMode → AutofocusMode
  | .auto => auto
  | .continuousPicture => continuousPicture
  | .continuousVideo => continuousVideo
  | .extendedDepth => extendedDepth
  | .macroRange => macroRange
  | .fixed | .infinity => off

def name : AutofocusMode → String
  | off => "Off"
  | auto => "Auto"
  | macroRange => "Macro"
  | continuousVideo => "ContinuousVideo"
  | continuousPicture => "ContinuousPicture"
  | extendedDepth => "Edof"

end AutofocusMode

namespace Trigger

def all : List Trigger := [idle, start, cancel]

def name : Trigger → String
  | idle => "Idle"
  | start => "Start"
  | cancel => "Cancel"

end Trigger

namespace Lens

def all : List Lens :=
  [inactive, passiveScan, passiveFocused, activeScan, focusedLocked, notFocusedLocked,
    passiveUnfocused]

def name : Lens → String
  | inactive => "Inactive"
  | passiveScan => "PassiveScan"
  | passiveFocused => "PassiveFocused"
  | activeScan => "ActiveScan"
  | focusedLocked => "FocusedLocked"
  | notFocusedLocked => "NotFocusedLocked"
  | passiveUnfocused => "PassiveUnfocused"

def isPassive : Lens → Bool
  | passiveScan | passiveFocused | passiveUnfocused => true
  | _ => false

def isLocked : Lens → Bool
  | focusedLocked | notFocusedLocked => true
  | _ => false

end Lens

end CameraControl
