import CameraControl.Simulator
import CameraControl.Proofs.Recording

/-!
Runs of a controller: callers post actions, the subsystem stirs by itself, and the controller handles its
messages one at a time, all in any order. A run keeps every message that was handled, newest first, with
the controller as it was before. What handling it took, and what came of it, can be told from that.
-/
namespace CameraControl

/-- The callback of an opening, in a report on how it ended. -/
def Report.opener? : Report → Option Tag
  | opened callback _ => some callback
  | disabled callback _ => some callback
  | openFailed callback _ _ => some callback
  | alreadyOpen callback _ _ => some callback
  | _ => none

def Report.isOpened : Report → Bool
  | opened _ _ => true
  | _ => false

def Event.opened? {δ τ : Type} : Event δ τ → Option δ
  | opened device => some device
  | _ => none

/-- Whether the controller can carry out actions of a kind at all. -/
def Action.Kind.isSupported : Action.Kind → Bool
  | lock | unlock | capturePhoto | setDisplayOrientation | startFaceDetection
  | stopFaceDetection => false
  | _ => true

/-- The index that is to be opened, and the callback that is to be told. -/
def Action.opening? : Action → Option (Nat × Tag)
  | openCamera index callback => some (index, callback)
  | reconnect index callback => some (index, callback)
  | _ => none

namespace Message

variable {δ τ : Type}

def delivered? : Message δ τ → Option δ
  | hardware event => event.opened?
  | _ => none

def opening? : Message δ τ → Option (Nat × Tag)
  | action a => a.opening?
  | _ => none

/-- The message gives the camera up. -/
def isRelease : Message δ τ → Bool
  | action a => a.kind = .release
  | shutdown => true
  | _ => false

def isSupported : Message δ τ → Bool
  | action a => a.kind.isSupported
  | _ => true

variable {message : Message δ τ} {asked : Nat × Tag} {device : δ}

theorem opening_no_release (hopening : message.opening? = some asked) :
    message.isRelease = false := by
  cases message with
  | action action => cases action <;> first | rfl | cases hopening
  | _ => cases hopening

theorem opening_no_delivery (hopening : message.opening? = some asked) :
    message.delivered? = none := by
  cases message with
  | action action => rfl
  | _ => cases hopening

theorem release_no_opening (hrelease : message.isRelease) : message.opening? = none := by
  cases message with
  | action action => cases action <;> first | rfl | cases hrelease
  | _ => rfl

theorem release_no_delivery (hrelease : message.isRelease) : message.delivered? = none := by
  cases message with
  | hardware event => cases hrelease
  | _ => rfl

theorem delivery_no_release (hdelivered : message.delivered? = some device) :
    message.isRelease = false := by
  cases message with
  | hardware event => rfl
  | _ => cases hdelivered

theorem delivery_no_opening (hdelivered : message.delivered? = some device) :
    message.opening? = none := by
  cases message with
  | hardware event => rfl
  | _ => cases hdelivered

end Message

namespace Exchange

variable {δ τ : Type}

def closed? (x : Exchange δ τ) : Option δ :=
  match x.call with
  | .closeDevice device => some device
  | _ => none

/-- The device that the subsystem agreed to open. -/
def accepted? (x : Exchange δ τ) : Option DeviceId :=
  match x.call, x.fault with
  | .openDevice id, none => some id
  | _, _ => none

end Exchange

namespace Controller

variable {σ δ τ : Type}

/-- How openings ended, as their callbacks were told. -/
def outcomes (c : Controller σ δ τ) : List Report :=
  (c.reports.map (·.report)).filter (·.opener?.isSome)

/-- The devices that wait in the mailbox to be delivered, the next one first. -/
def awaited (c : Controller σ δ τ) : List δ := c.mailbox.filterMap (·.delivered?)

/-- How an action fails when it is handled. -/
def failure? [Subsystem σ δ τ] (c : Controller σ δ τ) : Message δ τ → Option Failure
  | .action action => ((c.record action.kind).perform action).2
  | _ => none

end Controller

/-- A message that was taken from the mailbox, and the controller that handled it. -/
structure Handled (σ δ τ : Type) where
  before : Controller σ δ τ
  message : Message δ τ

namespace Handled

variable {σ δ τ : Type} [Subsystem σ δ τ] (h : Handled σ δ τ)

def after : Controller σ δ τ := h.before.handle h.message

/-- The controller afterwards, with a record of the calls that it made. -/
def recorded : Controller (Recorded σ δ τ) δ τ := h.before.recorded.handle h.message

theorem recorded_bare : h.recorded.bare = h.after :=
  (Controller.handle_bare h.before.recorded h.message).symm

def accepted : List DeviceId := h.recorded.subsystem.record.filterMap (·.accepted?)

def closed : List δ := h.recorded.subsystem.record.filterMap (·.closed?)

/-- The outcomes of openings that were reported. -/
def outcomes : List Report := h.after.outcomes.drop h.before.outcomes.length

theorem outcomes_eq {h : Handled σ δ τ} {new : List Report}
    (hnew : h.after.outcomes = h.before.outcomes ++ new) : h.outcomes = new := by
  unfold outcomes
  rw [hnew, List.drop_left]

def failure? : Option Failure := h.before.failure? h.message

/-- A camera was taken up, and its opener was told. -/
def adopts : Bool := h.outcomes.any (·.isOpened)

end Handled

/-- What a subsystem may do by itself, and the events that it then posts. -/
class Spontaneous (ε σ : Type) (δ τ : outParam Type) where
  stir : σ → ε → σ × List (Event δ τ)

structure Run (σ δ τ : Type) where
  now : Controller σ δ τ
  past : List (Handled σ δ τ) := []

namespace Run

inductive Move (ε : Type)
  | ask (action : Action)
  | barrier (ticket : Ticket)
  | shutdown
  | stir (stimulus : ε)
  | enroll (listing : List DeviceId)
  | install (callback : Tag)
  | addTexture
  | tick (clock : String)
  | handle
deriving DecidableEq, Repr

end Run

namespace Controller

variable {ε σ δ τ : Type} [Spontaneous ε σ δ τ]

/-- What others do to the controller's mailbox and to what it shares with them. -/
def meanwhile (c : Controller σ δ τ) : Run.Move ε → Controller σ δ τ
  | .ask action => c.post (.action action)
  | .barrier ticket => c.post (.barrier ticket)
  | .shutdown => c.post .shutdown
  | .stir stimulus =>
    let (world, events) := Spontaneous.stir c.subsystem stimulus
    { c with subsystem := world }.postAll events
  | .enroll listing => { c with roster := c.roster.update listing }
  | .install callback => { c with exceptionCallback := some callback }
  | .addTexture => { c with canvas := c.canvas.addTexture.1 }
  | .tick clock => { c with clock }
  | .handle => c

end Controller

namespace Run

variable {ε σ δ τ : Type}

def start (world : σ) (roster : Roster) (historySize : Nat) : Run σ δ τ :=
  { now := { subsystem := world, roster, history := .ofSize historySize } }

variable [Subsystem σ δ τ]

def advance (r : Run σ δ τ) : Run σ δ τ :=
  match r.now.step? with
  | some (message, now) =>
    { now, past := ⟨{ r.now with mailbox := r.now.mailbox.tail }, message⟩ :: r.past }
  | none => r

variable [Spontaneous ε σ δ τ]

def step (r : Run σ δ τ) : Move ε → Run σ δ τ
  | .handle => r.advance
  | move => { r with now := r.now.meanwhile move }

def run (r : Run σ δ τ) (moves : List (Move ε)) : Run σ δ τ := moves.foldl step r

end Run

/-- The messages handled since the current camera was taken up, newest first, or none if there is no
current camera, because none was taken up since the last release. -/
def tenure {σ δ τ : Type} [Subsystem σ δ τ] :
    List (Handled σ δ τ) → Option (List (Handled σ δ τ))
  | [] => none
  | h :: past =>
    if h.adopts then some []
    else if h.message.isRelease then none
    else (tenure past).map (h :: ·)

/-- The devices that were delivered, the latest first. -/
def delivered {σ δ τ : Type} (past : List (Handled σ δ τ)) : List δ :=
  past.filterMap (·.message.delivered?)

namespace Run

variable {ε σ δ τ : Type} [Subsystem σ δ τ]

/-- The run as it was when a message was about to be handled. -/
def before (h : Handled σ δ τ) (past : List (Handled σ δ τ)) : Run σ δ τ :=
  { now := { h.before with mailbox := h.message :: h.before.mailbox }, past }

theorem advance_cases (r : Run σ δ τ) :
    r.advance = r ∨ ∃ h, r = before h r.past ∧ r.advance = ⟨h.after, h :: r.past⟩ := by
  cases hstatus : r.now.status with
  | running =>
    cases hmailbox : r.now.mailbox with
    | nil => exact Or.inl (by simp only [advance, Controller.step?, hstatus, hmailbox])
    | cons message rest =>
      refine Or.inr ⟨⟨{ r.now with mailbox := rest }, message⟩, ?_, ?_⟩
      · unfold before
        dsimp only
        rw [← hmailbox]
      · simp only [advance, Handled.after, Controller.step?, hstatus, hmailbox, List.tail_cons]
  | stopped => exact Or.inl (by simp only [advance, Controller.step?, hstatus])
  | crashed failure => exact Or.inl (by simp only [advance, Controller.step?, hstatus])

/-- A property of runs had held whenever a message was about to be handled. -/
def Throughout (P : Run σ δ τ → Prop) (r : Run σ δ τ) : Prop :=
  ∀ h past, (h :: past) <:+ r.past → P (before h past)

theorem Throughout.handle {P : Run σ δ τ → Prop} {h : Handled σ δ τ}
    {past : List (Handled σ δ τ)} (hr : (before h past).Throughout P) (hnow : P (before h past)) :
    Throughout P ⟨h.after, h :: past⟩ := by
  intro earlier older hsuffix
  rcases List.suffix_cons_iff.mp hsuffix with heq | holder
  · obtain ⟨rfl, rfl⟩ := List.cons.inj heq
    exact hnow
  · exact hr earlier older holder

variable [Spontaneous ε σ δ τ]

/-- An invariant of runs holds at the start, whatever happens meanwhile, and after each message. -/
theorem invariant (P : Run σ δ τ → Prop) (Allowed : Move ε → Prop)
    (hmeanwhile : ∀ r move, Allowed move → P r → P { r with now := r.now.meanwhile move })
    (hhandle : ∀ h past, P (before h past) → P ⟨h.after, h :: past⟩)
    {r : Run σ δ τ} {moves : List (Move ε)} (hmoves : ∀ move ∈ moves, Allowed move)
    (hr : P r) (hpast : r.past = []) : P (r.run moves) ∧ (r.run moves).Throughout P := by
  have hthroughout : r.Throughout P := by
    intro h past hsuffix
    rw [hpast] at hsuffix
    exact absurd (List.suffix_nil.mp hsuffix) (List.cons_ne_nil h past)
  clear hpast
  induction moves generalizing r with
  | nil => exact ⟨hr, hthroughout⟩
  | cons move moves ih =>
    obtain ⟨hmove, hrest⟩ := List.forall_mem_cons.mp hmoves
    cases move with
    | handle =>
      show P (r.advance.run moves) ∧ (r.advance.run moves).Throughout P
      rcases r.advance_cases with hnone | ⟨h, hbefore, hafter⟩
      · rw [hnone]
        exact ih hrest hr hthroughout
      · rw [hafter]
        rw [hbefore] at hr hthroughout
        exact ih hrest (hhandle h r.past hr) (hthroughout.handle hr)
    | _ => exact ih hrest (hmeanwhile r _ hmove hr) hthroughout

end Run

namespace Simulator

/-- What a simulator may do by itself. -/
inductive Stimulus
  | frame
  | setLens (lens : Lens)
  | arm (op : Operation)
  | addDevice (id : DeviceId) (characteristics : Characteristics)
  | removeDevice (id : DeviceId)
  | deviceError (code : Int)
  | disconnect
deriving DecidableEq, Repr

instance : Spontaneous Stimulus Simulator Device Session where
  stir s
    | .frame => s.emitFrame
    | .setLens lens => (s.setLens lens, [])
    | .arm op => (s.arm op, [])
    | .addDevice id characteristics => (s.addDeviceWith id characteristics, [])
    | .removeDevice id => (s.removeDevice id, [])
    | .deviceError code => (s, s.emitDeviceError code)
    | .disconnect => s.disconnect

abbrev Move := Run.Move Stimulus

/-- A run with two devices, on a roster that knows both. -/
def run (moves : List Move) : Run Simulator Device Session :=
  (Run.start (withDevices ["0", "1"]) (Roster.empty.update ["0", "1"]) 20).run moves

end Simulator

end CameraControl
