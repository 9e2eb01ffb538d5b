import CameraControl.Action

/-!
What can go wrong, by cause. A `Fault` is what the camera subsystem answers when it refuses a call; a
`Failure` is what a caller or the exception callback is told. Fatal failures mean that the controller was
asked for something it can never do, or lost track of its own session.
-/
namespace CameraControl

/-- A duration in milliseconds, as diagnostics write it. -/
def durationText (ms : Nat) : String :=
  if ms = 0 then "0ns"
  else if ms < 1000 then toString ms ++ "ms"
  else
    let thousandths := (toString (1000 + ms % 1000)).toList.drop 1
    let kept := (thousandths.reverse.dropWhile (· = '0')).reverse
    toString (ms / 1000) ++ (if kept = [] then "" else "." ++ String.ofList kept) ++ "s"

abbrev DeviceId := String

inductive Fault
  | disabled (id : DeviceId)
  | disconnected (id : DeviceId)
  | inUse (id : DeviceId)
  | device (details : String)
  | sessionClosed
deriving DecidableEq, Repr

namespace Fault

def label : Fault → String
  | disabled _ => "Disabled"
  | disconnected _ => "Disconnected"
  | inUse _ => "InUse"
  | device _ => "Device"
  | sessionClosed => "SessionClosed"

def message : Fault → String
  | disabled id => "camera " ++ id ++ " is disabled by policy"
  | disconnected id => "camera " ++ id ++ " is disconnected"
  | inUse id => "camera " ++ id ++ " is in use"
  | device details => "camera device error: " ++ details
  | sessionClosed => "capture session is closed"

end Fault

inductive Failure
  | configuration (message : String)
  | io (message : String)
  | subsystem (fault : Fault)
  | unsupported (kind : Action.Kind)
  | missing (part : String) (kind : Action.Kind)
  | unknownIndex (index : Nat)
  | invalidSettings (details : String)
  | controllerStopped
  | dispatchStopped
  | queueFull (capacity : Nat)
  | timeout (ms : Nat) (job : String)
  | system (message : String)
deriving DecidableEq, Repr

namespace Failure

def label : Failure → String
  | configuration _ => "Config"
  | io _ => "Io"
  | subsystem _ => "Subsystem"
  | unsupported _ => "UnsupportedAction"
  | missing _ _ => "MissingSessionContext"
  | unknownIndex _ => "UnknownCameraIndex"
  | invalidSettings _ => "InvalidSettings"
  | controllerStopped => "HandlerStopped"
  | dispatchStopped => "DispatchStopped"
  | queueFull _ => "DispatchQueueFull"
  | timeout _ _ => "Timeout"
  | system _ => "System"

def message : Failure → String
  | configuration message => "Configuration error: " ++ message
  | io message => "IO error: " ++ message
  | subsystem fault => "Camera subsystem error: " ++ fault.message
  | unsupported kind => "Unsupported camera action: " ++ kind.name
  | missing part kind =>
    "Session context is missing " ++ part ++ " while handling " ++ kind.name
  | unknownIndex index => "No camera device has ever been assigned index " ++ toString index
  | invalidSettings details => "Invalid camera settings: " ++ details
  | controllerStopped => "Camera handler thread has stopped"
  | dispatchStopped => "Dispatch thread has stopped"
  | queueFull capacity => "Dispatch queue is full (" ++ toString capacity ++ " pending jobs)"
  | timeout ms job => "Timed out after " ++ durationText ms ++ " waiting for " ++ job
  | system message => "System error: " ++ message

def isFatal : Failure → Bool
  | unsupported _ | missing _ _ => true
  | _ => false

end Failure

end CameraControl
