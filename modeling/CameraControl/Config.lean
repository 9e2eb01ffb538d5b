import CameraControl.Text.Blank
import CameraControl.Output

/-!
The configuration of an agent. `Config.problem?` reports the first value that no agent can work with.
-/
namespace CameraControl

structure Config where
  controllerThread : String := "camera-handler"
  historySize : Nat := 400
  dispatchThread : String := "camera-dispatch"
  queueCapacity : Nat := 256
  /-- How long a synchronous job may take, in milliseconds. -/
  jobTimeout : Nat := 3500
deriving DecidableEq, Repr

namespace Config

inductive Problem
  | blankControllerThread
  | noHistory
  | blankDispatchThread
  | noQueue
  | noTimeout
deriving DecidableEq, Repr

def Problem.message : Problem → String
  | blankControllerThread => "Handler thread name must not be empty"
  | noHistory => "Handler history size must be greater than 0"
  | blankDispatchThread => "Dispatch thread name must not be empty"
  | noQueue => "Dispatch queue capacity must be greater than 0"
  | noTimeout => "Dispatch job timeout must be greater than 0"

def problem? (c : Config) : Option Problem :=
  if Text.isBlank c.controllerThread then some .blankControllerThread
  else if c.historySize = 0 then some .noHistory
  else if Text.isBlank c.dispatchThread then some .blankDispatchThread
  else if c.queueCapacity = 0 then some .noQueue
  else if c.jobTimeout = 0 then some .noTimeout
  else none

def toJson (c : Config) : Json :=
  .object [
    ("handler", .object [("thread_name", .str c.controllerThread),
      ("history_size", .nat c.historySize)]),
    ("dispatch", .object [("thread_name", .str c.dispatchThread),
      ("queue_capacity", .nat c.queueCapacity), ("job_timeout_ms", .nat c.jobTimeout)])]

end Config

end CameraControl
