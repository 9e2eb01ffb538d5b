import CameraControl.Failure

/-!
The camera subsystem as the controller sees it. A subsystem answers calls at once, possibly with a fault,
and reports everything else later through events. `δ` names opened devices and `τ` capture sessions; both
are handles, and what they stand for lives in the subsystem's own state `σ`.
-/
namespace CameraControl

inductive Facing
  | back | front | external
deriving DecidableEq, Repr

namespace Facing

def all : List Facing := [back, front, external]

def name : Facing → String
  | back => "Back"
  | front => "Front"
  | external => "External"

end Facing

/-- The fixed properties of a device. -/
structure Characteristics where
  facing : Facing
  orientation : Nat
  activeArray : Rect
deriving DecidableEq, Repr

namespace Characteristics

def isFacingBack (c : Characteristics) : Bool := c.facing = .back

def isFacingFront (c : Characteristics) : Bool := c.facing = .front

/-- No device offers control of its shutter sound. -/
def canDisableShutterSound (_ : Characteristics) : Bool := false

def describe (c : Characteristics) : String :=
  "CameraCharacteristics \x7b lens_facing: " ++ c.facing.name ++ ", sensor_orientation: " ++
    toString c.orientation ++ ", active_array: " ++ c.activeArray.describe ++ " \x7d"

end Characteristics

/-- Travels with a submitted request and comes back with its results. -/
inductive Listener
  | lensState
  | focusTrigger
  | untracked
deriving DecidableEq, Repr

namespace Listener

def all : List Listener := [lensState, focusTrigger, untracked]

def name : Listener → String
  | lensState => "FocusState"
  | focusTrigger => "AutoFocusTrigger"
  | untracked => "Untracked"

end Listener

inductive FailureReason
  | error | flushed
deriving DecidableEq, Repr

namespace FailureReason

def all : List FailureReason := [error, flushed]

def name : FailureReason → String
  | error => "Error"
  | flushed => "Flushed"

def describe : FailureReason → String
  | error => "error"
  | flushed => "flushed"

end FailureReason

inductive Event (δ τ : Type)
  | opened (device : δ)
  | disconnected
  | deviceError (code : Int)
  | configured (session : τ)
  | configureFailed
  | active
  | completed (listener : Listener) (frame : Nat) (lens : Option Lens)
  | captureFailed (listener : Listener) (frame : Nat) (reason : FailureReason)
deriving DecidableEq, Repr

def Event.name {δ τ : Type} : Event δ τ → String
  | opened _ => "device_opened"
  | disconnected => "device_disconnected"
  | deviceError _ => "device_error"
  | configured _ => "session_configured"
  | configureFailed => "session_configure_failed"
  | active => "session_active"
  | completed _ _ _ => "capture_completed"
  | captureFailed _ _ _ => "capture_failed"

inductive Call (δ τ : Type)
  | openDevice (id : DeviceId)
  | closeDevice (device : δ)
  | createSession (device : δ) (surfaces : List SurfaceId)
  | setRepeating (session : τ) (request : Request) (listener : Listener)
  | stopRepeating (session : τ)
  | capture (session : τ) (request : Request) (listener : Listener)
  | abortCaptures (session : τ)
deriving DecidableEq, Repr

/-- The outcome of a call: the subsystem after it, why it was refused if it was, and the events that it
posted, oldest first. -/
structure Answer (σ δ τ : Type) where
  world : σ
  fault : Option Fault := none
  posted : List (Event δ τ) := []

class Subsystem (σ : Type) (δ τ : outParam Type) where
  ids : σ → Except Fault (List DeviceId)
  characteristics : σ → DeviceId → Except Fault Characteristics
  idOf : δ → DeviceId
  draft : σ → δ → Template → σ × Except Fault Draft
  answer : σ → Call δ τ → Answer σ δ τ

end CameraControl
