import CameraControl.Hardware

/-!
A camera subsystem in memory. Devices open and sessions configure at once, but every outcome is still an
event; frames come only from `emitFrame`. Any operation can be armed to fail once. At most one device is
open, and only the newest session can be used, as long as a device is open.
-/
namespace CameraControl.Simulator

inductive Operation
  | openDevice | createDraft | createSession | configureSession | setRepeating | stopRepeating
  | capture | captureResult | abortCaptures
deriving DecidableEq, Repr

namespace Operation

def all : List Operation :=
  [openDevice, createDraft, createSession, configureSession, setRepeating, stopRepeating, capture,
    captureResult, abortCaptures]

def name : Operation → String
  | openDevice => "OpenDevice"
  | createDraft => "CreateRequestBuilder"
  | createSession => "CreateSession"
  | configureSession => "ConfigureSession"
  | setRepeating => "SetRepeatingRequest"
  | stopRepeating => "StopRepeating"
  | capture => "Capture"
  | captureResult => "CaptureResult"
  | abortCaptures => "AbortCaptures"

end Operation

/-- One opening of a device: two openings of the same device are different handles. -/
structure Device where
  id : DeviceId
  serial : Nat
deriving DecidableEq, Repr

structure Session where
  generation : Nat
deriving DecidableEq, Repr

/-- What the simulator notes down about the calls it receives. -/
inductive Entry
  | openDevice (id : DeviceId)
  | closeDevice (id : DeviceId)
  | createSession (id : DeviceId) (surfaces : List SurfaceId)
  | setRepeating (request : Request)
  | stopRepeating
  | capture (request : Request) (listener : Listener)
  | abortCaptures
deriving DecidableEq, Repr

end CameraControl.Simulator

namespace CameraControl

structure Simulator where
  devices : List (DeviceId × Characteristics) := []
  armed : List Simulator.Operation := []
  lens : Lens := .inactive
  openDevice : Option DeviceId := none
  /-- Whether events about the open device have a receiver. -/
  linked : Bool := false
  openings : Nat := 0
  generation : Nat := 0
  /-- The sessions that have accepted a repeating request before. -/
  started : List Nat := []
  repeating : Option (Nat × Listener) := none
  frame : Nat := 0
  journal : List Simulator.Entry := []
deriving DecidableEq, Repr

namespace Simulator

abbrev Outcome := Answer Simulator Device Session

def standard (facing : Facing) : Characteristics := ⟨facing, 90, ⟨0, 0, 4000, 3000⟩⟩

def removeDevice (s : Simulator) (id : DeviceId) : Simulator :=
  { s with devices := s.devices.filter (·.1 ≠ id) }

/-- A device that is added again moves to the end of the listing. -/
def addDeviceWith (s : Simulator) (id : DeviceId) (c : Characteristics) : Simulator :=
  { s with devices := (s.removeDevice id).devices ++ [(id, c)] }

def addDevice (s : Simulator) (id : DeviceId) : Simulator := s.addDeviceWith id (standard .front)

/-- The first device faces back and all others front. -/
def withDevices : List DeviceId → Simulator
  | [] => {}
  | first :: rest => rest.foldl addDevice (addDeviceWith {} first (standard .back))

def arm (s : Simulator) (op : Operation) : Simulator :=
  if op ∈ s.armed then s else { s with armed := op :: s.armed }

def disarm (s : Simulator) (op : Operation) : Simulator :=
  { s with armed := s.armed.filter (· ≠ op) }

def setLens (s : Simulator) (lens : Lens) : Simulator := { s with lens }

def note (s : Simulator) (entry : Entry) : Simulator := { s with journal := s.journal ++ [entry] }

def isRepeating (s : Simulator) : Bool := s.repeating.isSome

def list (s : Simulator) : List DeviceId := s.devices.map (·.1)

def characteristics (s : Simulator) (id : DeviceId) : Except Fault Characteristics :=
  match s.devices.lookup id with
  | some c => .ok c
  | none => .error (.disconnected id)

/-- The result of the next frame, whose number it takes. -/
def result (s : Simulator) (listener : Listener) : Simulator × Event Device Session :=
  let number := s.frame + 1
  if .captureResult ∈ s.armed then
    ({ s with frame := number }.disarm .captureResult, .captureFailed listener number .error)
  else ({ s with frame := number }, .completed listener number (some s.lens))

/-- A frame of the repeating request, if there is one and someone to tell. -/
def emitFrame (s : Simulator) : Simulator × List (Event Device Session) :=
  match s.repeating with
  | some (_, listener) =>
    if s.linked then
      let (s, event) := s.result listener
      (s, [event])
    else (s, [])
  | none => (s, [])

def emitFrames (s : Simulator) : Nat → Simulator × List (List (Event Device Session))
  | 0 => (s, [])
  | n + 1 =>
    let (s, first) := s.emitFrame
    let (s, rest) := s.emitFrames n
    (s, first :: rest)

def emitDeviceError (s : Simulator) (code : Int) : List (Event Device Session) :=
  if s.linked then [.deviceError code] else []

/-- The open device vanishes, from the listing too. -/
def disconnect (s : Simulator) : Simulator × List (Event Device Session) :=
  let s' := (s.openDevice.map s.removeDevice).getD s
  ({ s' with openDevice := none, repeating := none, linked := false },
    if s.linked then [.disconnected] else [])

def openFor (s : Simulator) (id : DeviceId) : Outcome :=
  let s := s.note (.openDevice id)
  if .openDevice ∈ s.armed then { world := s.disarm .openDevice, fault := some (.inUse id) }
  else if id ∉ s.list then { world := s, fault := some (.disconnected id) }
  else
    { world := { s with openDevice := some id, linked := true, openings := s.openings + 1 }
      posted := [.opened ⟨id, s.openings⟩] }

def draft (s : Simulator) (_ : Device) (template : Template) : Simulator × Except Fault Draft :=
  if .createDraft ∈ s.armed then
    (s.disarm .createDraft, .error (.device "request template unavailable"))
  else (s, .ok (.blank template))

def createSession (s : Simulator) (device : Device) (surfaces : List SurfaceId) : Outcome :=
  let s := s.note (.createSession device.id surfaces)
  if .createSession ∈ s.armed then
    { world := s.disarm .createSession, fault := some (.device "session creation refused") }
  else if .configureSession ∈ s.armed then
    { world := s.disarm .configureSession, posted := [.configureFailed] }
  else
    { world := { s with generation := s.generation + 1 }
      posted := [.configured ⟨s.generation + 1⟩] }

def closeDevice (s : Simulator) (device : Device) : Outcome :=
  let s := s.note (.closeDevice device.id)
  if s.openDevice = some device.id then
    { world := { s with openDevice := none, linked := false, repeating := none } }
  else { world := s }

def Current (s : Simulator) (session : Session) : Prop :=
  s.openDevice ≠ none ∧ s.generation = session.generation

instance (s : Simulator) (session : Session) : Decidable (s.Current session) :=
  inferInstanceAs (Decidable (_ ∧ _))

def setRepeating (s : Simulator) (session : Session) (request : Request) (listener : Listener) :
    Outcome :=
  if ¬ s.Current session then { world := s, fault := some .sessionClosed }
  else if .setRepeating ∈ s.armed then
    { world := s.disarm .setRepeating, fault := some (.device "repeating request rejected") }
  else
    let s := { s.note (.setRepeating request) with repeating := some (session.generation, listener) }
    if session.generation ∈ s.started then { world := s }
    else { world := { s with started := session.generation :: s.started }, posted := [.active] }

def stopRepeating (s : Simulator) (session : Session) : Outcome :=
  if ¬ s.Current session then { world := s, fault := some .sessionClosed }
  else if .stopRepeating ∈ s.armed then
    { world := s.disarm .stopRepeating, fault := some (.device "stop repeating rejected") }
  else { world := { s.note .stopRepeating with repeating := none } }

def capture (s : Simulator) (session : Session) (request : Request) (listener : Listener) :
    Outcome :=
  if ¬ s.Current session then { world := s, fault := some .sessionClosed }
  else if .capture ∈ s.armed then
    { world := s.disarm .capture, fault := some (.device "capture rejected") }
  else
    let (s, event) := (s.note (.capture request listener)).result listener
    { world := s, posted := [event] }

/-- Aborting is possible on any session, and stops the repeating request if it is that session's. -/
def abortCaptures (s : Simulator) (session : Session) : Outcome :=
  let s := s.note .abortCaptures
  if .abortCaptures ∈ s.armed then
    { world := s.disarm .abortCaptures, fault := some (.device "abort rejected") }
  else if s.repeating.any (·.1 = session.generation) then { world := { s with repeating := none } }
  else { world := s }

def answer (s : Simulator) : Call Device Session → Outcome
  | .openDevice id => s.openFor id
  | .closeDevice device => s.closeDevice device
  | .createSession device surfaces => s.createSession device surfaces
  | .setRepeating session request listener => s.setRepeating session request listener
  | .stopRepeating session => s.stopRepeating session
  | .capture session request listener => s.capture session request listener
  | .abortCaptures session => s.abortCaptures session

instance : Subsystem Simulator Device Session where
  ids s := .ok s.list
  characteristics := characteristics
  idOf := Device.id
  draft := draft
  answer := answer

end Simulator

end CameraControl
