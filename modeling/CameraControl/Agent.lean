import CameraControl.Controller.Handling
import CameraControl.Dispatcher
import CameraControl.Config

/-!
An agent joins a controller and a dispatcher, each on a thread of its own, and serves any number of callers.
Every call becomes a job; the dispatcher posts its action to the controller once the camera is in a stage
that the action needs. Its queue holds one job at least, so that no job depends on whether the dispatcher's
worker is there to take it over. What the threads and the callers do in any order are the moves of
`Agent.step?`; `Agent.rest` is one schedule, in which the threads go on until neither can.
-/
namespace CameraControl

namespace Agent

inductive Job
  /-- Posts an action, after a wait for a set of stages if there is one. -/
  | post (wanted : Option Stage.Set) (action : Action)
  /-- Posts a release and waits until the controller has come past it. -/
  | release (ticket : Ticket)
deriving DecidableEq, Repr

/-- How far the release that the dispatcher runs has come. It ends when its barrier is acknowledged. -/
inductive Releasing
  | unposted
  | posted
  | awaiting
deriving DecidableEq, Repr

/-- How far the one call that recycles the agent has come. -/
inductive Recycling
  | unasked
  | awaitingController
  | awaitingDispatcher
  | done
deriving DecidableEq, Repr

end Agent

structure Agent (σ δ τ : Type) where
  jobTimeout : Nat
  controller : Controller σ δ τ
  dispatcher : Dispatcher Agent.Job
  releasing : Agent.Releasing := .unposted
  tickets : Nat := 0
  recycling : Agent.Recycling := .unasked

namespace Agent

variable {σ δ τ : Type}

def isServed (a : Agent σ δ τ) : Bool := a.controller.status = .running

/-- The mailbox of a controller that has ended takes no more messages. -/
def deliver (a : Agent σ δ τ) (messages : List (Message δ τ)) : Agent σ δ τ :=
  if a.isServed then
    { a with controller := { a.controller with mailbox := a.controller.mailbox ++ messages } }
  else a

/-- With the controller gone, the stage cell is no longer valid and the mailbox is lost. -/
def bury (a : Agent σ δ τ) : Agent σ δ τ :=
  if a.isServed then a
  else
    { a with controller :=
      { a.controller with cell := a.controller.cell.invalidate, mailbox := [] } }

def dispatching (a : Agent σ δ τ) (d : Dispatcher Job) : Agent σ δ τ := { a with dispatcher := d }

def finish? (a : Agent σ δ τ) : Option (Agent σ δ τ) :=
  a.dispatcher.finish?.map fun d => { a.dispatching d with releasing := .unposted }

/-- The dispatcher's next step with the job that it runs. -/
def work? (a : Agent σ δ τ) : Job → Option (Agent σ δ τ)
  | .post none action => (a.deliver [.action action]).finish?
  | .post (some wanted) action =>
    match a.controller.cell.check wanted with
    | some true => (a.deliver [.action action]).finish?
    | some false => a.finish?
    | none => none
  | .release ticket =>
    if !a.isServed then a.finish?
    else
      match a.releasing with
      | .unposted => some { a.deliver [.action .release] with releasing := .posted }
      | .posted => some { a.deliver [.barrier ticket] with releasing := .awaiting }
      | .awaiting => if ticket ∈ a.controller.acknowledged then a.finish? else none

/-- A release that has waited too long for the controller is left to itself. -/
def giveUp? (a : Agent σ δ τ) : Option (Agent σ δ τ) :=
  if a.releasing = .awaiting then a.finish? else none

def dispatch? (a : Agent σ δ τ) : Option (Agent σ δ τ) :=
  match a.dispatcher.place? with
  | some d => some (a.dispatching d)
  | none =>
    match a.dispatcher.current? with
    | some job => a.work? job
    | none => a.dispatcher.take?.map a.dispatching

/-- Asks both threads to end. Only the first call counts. -/
def recycle (a : Agent σ δ τ) : Agent σ δ τ :=
  match a.recycling with
  | .unasked => { a.deliver [.shutdown] with recycling := .awaitingController }
  | _ => a

/-- The recycling caller first waits for the controller, then stops the dispatcher and waits for it. -/
def proceed? (a : Agent σ δ τ) : Option (Agent σ δ τ) :=
  match a.recycling with
  | .awaitingController =>
    if a.isServed then none
    else
      some { a with
        controller := { a.controller with cell := a.controller.cell.invalidate }
        dispatcher := a.dispatcher.shutDown
        recycling := .awaitingDispatcher }
  | .awaitingDispatcher =>
    if a.dispatcher.hasEnded then some { a with recycling := .done } else none
  | _ => none

def submit (a : Agent σ δ τ) (job : Job) : Except Failure (Agent σ δ τ) :=
  (a.dispatcher.submit job).map a.dispatching

/-- The subsystem moves on by itself and posts events. -/
def environment (a : Agent σ δ τ) (world : σ) (events : List (Event δ τ)) : Agent σ δ τ :=
  ({ a with controller := { a.controller with subsystem := world } }).deliver
    (events.map .hardware)

def force (a : Agent σ δ τ) (stage : Stage) : Agent σ δ τ :=
  { a with controller := a.controller.enter stage }

def invalidate (a : Agent σ δ τ) : Agent σ δ τ :=
  { a with controller := { a.controller with cell := a.controller.cell.invalidate } }

def setExceptionCallback (a : Agent σ δ τ) (callback : Tag) : Agent σ δ τ :=
  { a with controller := { a.controller with exceptionCallback := some callback } }

def enroll (a : Agent σ δ τ) (listing : List DeviceId) : Agent σ δ τ :=
  { a with controller := { a.controller with roster := a.controller.roster.update listing } }

def addTexture (a : Agent σ δ τ) : Agent σ δ τ :=
  { a with controller := { a.controller with canvas := a.controller.canvas.addTexture.1 } }

def tick (a : Agent σ δ τ) (clock : String) : Agent σ δ τ :=
  { a with controller := { a.controller with clock } }

inductive Move (σ δ τ : Type)
  | submit (job : Job)
  | setExceptionCallback (callback : Tag)
  | enroll (listing : List DeviceId)
  | addTexture
  | tick (clock : String)
  | environment (world : σ) (events : List (Event δ τ))
  | force (stage : Stage)
  | invalidate
  | recycle
  | handle
  | dispatch
  | giveUp
  | proceed

variable [Subsystem σ δ τ]

def handle? (a : Agent σ δ τ) : Option (Agent σ δ τ) :=
  a.controller.step?.map fun (_, controller) => { a with controller }.bury

def step? (a : Agent σ δ τ) : Move σ δ τ → Option (Agent σ δ τ)
  | .submit job => (a.submit job).toOption
  | .setExceptionCallback callback => some (a.setExceptionCallback callback)
  | .enroll listing => some (a.enroll listing)
  | .addTexture => some a.addTexture
  | .tick clock => some (a.tick clock)
  | .environment world events => some (a.environment world events)
  | .force stage => some (a.force stage)
  | .invalidate => some a.invalidate
  | .recycle => some a.recycle
  | .handle => a.handle?
  | .dispatch => a.dispatch?
  | .giveUp => a.giveUp?
  | .proceed => a.proceed?

/-- The move of a thread that `rest` makes next: the controller goes first. -/
def next? (a : Agent σ δ τ) : Option (Agent σ δ τ) :=
  match a.handle? with
  | some a => some a
  | none =>
    match a.dispatch? with
    | some a => some a
    | none => a.proceed?

def go (a : Agent σ δ τ) : Nat → Agent σ δ τ
  | 0 => a
  | n + 1 =>
    match a.next? with
    | some a => a.go n
    | none => a

/-- A queued job takes four moves and two messages at most, and a message two moves of the controller. -/
def rest (a : Agent σ δ τ) : Agent σ δ τ :=
  a.go (a.controller.load + 8 * (a.dispatcher.queue.length + 2) + 4)

end Agent

end CameraControl
