import CameraControl.Roster
import CameraControl.History
import CameraControl.Stage.Cell

/-!
The controller of a camera: all session state, one mailbox, one message at a time. This module has its
state and the small steps from which the handling of each message is put together. The stage cell, the
roster, the subsystem and the canvas are shared with other threads; the rest is the controller's own.
-/
namespace CameraControl

/-- The handle to an open camera that its opener is given. -/
structure Camera where
  index : Nat
  characteristics : Characteristics
deriving DecidableEq, Repr

def Camera.describe (c : Camera) : String :=
  "CameraProxy \x7b camera_index: " ++ toString c.index ++ ", characteristics: " ++
    c.characteristics.describe ++ " \x7d"

/-- A callback that was invoked, with its arguments. -/
inductive Report
  | opened (callback : Tag) (camera : Camera)
  | disabled (callback : Tag) (index : Nat)
  | openFailed (callback : Tag) (index : Nat) (info : String)
  | alreadyOpen (callback : Tag) (index : Nat) (info : String)
  | previewStarted (callback : Tag)
  | focused (callback : Tag) (sharp : Bool) (camera : Camera)
  | moved (callback : Tag) (moving : Bool) (camera : Camera)
  | raised (callback : Tag) (failure : Failure)
deriving DecidableEq, Repr

/-- A report and the stage in which it was made. -/
structure Reported where
  report : Report
  stage : Stage
deriving DecidableEq, Repr

inductive Message (δ τ : Type)
  | action (action : Action)
  | hardware (event : Event δ τ)
  | barrier (ticket : Ticket)
  | shutdown
deriving DecidableEq, Repr

/-- What the controller keeps about the camera it is attached to, or is about to open. -/
structure Attachment (δ τ : Type) where
  openCallback : Option Tag := none
  index : Nat := 0
  deviceId : Option DeviceId := none
  device : Option δ := none
  camera : Option Camera := none
  draft : Option Draft := none
  activeArray : Option Rect := none
  settings : Option Settings := none
  previewSize : Option Size := none
  texture : Option TextureId := none
  surface : Option SurfaceId := none
  session : Option τ := none
  previewCallback : Option Tag := none
  /-- From an autofocus request until its trigger capture completes. -/
  pendingFocus : Option Tag := none
  /-- From then until the lens locks. -/
  armedFocus : Option Tag := none
  moveCallback : Option Tag := none
deriving DecidableEq, Repr

structure Tally where
  actions : Nat := 0
  events : Nat := 0
  rejected : Nat := 0
  failures : Nat := 0
deriving DecidableEq, Repr

inductive Status
  | running
  | stopped
  | crashed (failure : Failure)
deriving DecidableEq, Repr

structure Controller (σ δ τ : Type) where
  cell : Stage.Cell := {}
  roster : Roster := {}
  subsystem : σ
  canvas : Canvas := {}
  mailbox : List (Message δ τ) := []
  exceptionCallback : Option Tag := none
  attached : Attachment δ τ := {}
  /-- The lens state of the last frame that reported one. -/
  lastLens : Option Lens := none
  history : History
  /-- What the clock shows. -/
  clock : String := ""
  tally : Tally := {}
  reports : List Reported := []
  replies : List (Ticket × Option Settings) := []
  acknowledged : List Ticket := []
  status : Status := .running

namespace Controller

variable {σ δ τ : Type}

def stage (c : Controller σ δ τ) : Stage := c.cell.stage

def enter (c : Controller σ δ τ) (stage : Stage) : Controller σ δ τ :=
  { c with cell := c.cell.set stage }

def attach (c : Controller σ δ τ) (attached : Attachment δ τ) : Controller σ δ τ :=
  { c with attached }

def post (c : Controller σ δ τ) (m : Message δ τ) : Controller σ δ τ :=
  { c with mailbox := c.mailbox ++ [m] }

def postAll (c : Controller σ δ τ) (events : List (Event δ τ)) : Controller σ δ τ :=
  { c with mailbox := c.mailbox ++ events.map .hardware }

def report (c : Controller σ δ τ) (r : Report) : Controller σ δ τ :=
  { c with reports := c.reports ++ [⟨r, c.stage⟩] }

/-- Reports to a callback that may not have been given. -/
def reportTo (c : Controller σ δ τ) (callback : Option Tag) (r : Tag → Report) :
    Controller σ δ τ :=
  match callback with
  | some tag => c.report (r tag)
  | none => c

/-- Drops an action that came in the wrong stage. -/
def reject (c : Controller σ δ τ) : Controller σ δ τ :=
  { c with tally := { c.tally with rejected := c.tally.rejected + 1 } }

def info (c : Controller σ δ τ) : String := c.history.describe c.attached.index

variable [Subsystem σ δ τ]

/-- Calls the subsystem; the events that it posts join the mailbox. -/
def call (c : Controller σ δ τ) (q : Call δ τ) : Controller σ δ τ × Option Fault :=
  let a := Subsystem.answer c.subsystem q
  ({ c with subsystem := a.world }.postAll a.posted, a.fault)

/-- Calls the subsystem and does not mind a refusal. -/
def tell (c : Controller σ δ τ) (q : Call δ τ) : Controller σ δ τ := (c.call q).1

def closeDevice (c : Controller σ δ τ) : Controller σ δ τ :=
  match c.attached.device with
  | some device => (c.attach { c.attached with device := none }).tell (.closeDevice device)
  | none => c

/-- Gives up the capture session, if there is one, and falls back to configured. -/
def closeSession (c : Controller σ δ τ) : Controller σ δ τ :=
  match c.attached.session with
  | some session =>
    ((c.attach { c.attached with session := none }).tell (.abortCaptures session)).enter .configured
  | none => c

def releaseSurface (c : Controller σ δ τ) : Controller σ δ τ :=
  match c.attached.surface with
  | some surface =>
    { c with
      canvas := c.canvas.release surface
      attached := { c.attached with surface := none } }
  | none => c

end Controller

end CameraControl
