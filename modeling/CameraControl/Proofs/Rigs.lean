import CameraControl.Proofs.Stages

/-!
The rig of a camera: what previews are made with, from the stage and the device to the surface that is bound,
beside the subsystem and the mailbox. `Rig.Step` lists all that a message can do to it, each with the calls
that it takes, in their order. Callbacks, settings and all that is told to callers are left out.
-/
namespace CameraControl

structure Rig (σ δ τ : Type) where
  stage : Stage
  device : Option δ
  session : Option τ
  draft : Option Draft
  texture : Option TextureId
  surface : Option SurfaceId
  canvas : Canvas
  world : σ
  mailbox : List (Message δ τ)

def Controller.rig {σ δ τ : Type} (c : Controller σ δ τ) : Rig σ δ τ where
  stage := c.stage
  device := c.attached.device
  session := c.attached.session
  draft := c.attached.draft
  texture := c.attached.texture
  surface := c.attached.surface
  canvas := c.canvas
  world := c.subsystem
  mailbox := c.mailbox

/-- The event has no bearing on the rig. -/
def Event.isPassing {δ τ : Type} : Event δ τ → Bool
  | opened _ | configured _ => false
  | _ => true

/-- In this stage the message can do without the rig. -/
def Message.Passes {δ τ : Type} : Message δ τ → Stage → Prop
  | action (.setMoveCallback _), _ | action (.querySettings _), _ => True
  | action (.openCamera _ _), _ | action (.reconnect _ _), _ => True
  | action a, stage => ¬ a.Suits stage
  | hardware event, _ => event.isPassing
  | barrier _, _ => True
  | shutdown, stage => stage = .unopened

namespace Rig

variable {σ δ τ : Type}

def releaseSurface (k : Rig σ δ τ) : Rig σ δ τ :=
  match k.surface with
  | some surface => { k with canvas := k.canvas.release surface, surface := none }
  | none => k

/-- A new surface of the texture takes the place of the one that is bound. -/
def bind (k : Rig σ δ τ) (texture : TextureId) (size : Size) (draft : Draft) : Rig σ δ τ :=
  let draft := (k.surface.map draft.removeTarget).getD draft
  let k := { k with canvas := k.canvas.resize texture size }.releaseSurface
  let (canvas, surface) := k.canvas.addSurface texture
  { k with
    canvas
    draft := some (draft.addTarget surface)
    texture := some texture
    surface := some surface }

theorem releaseSurface_world (k : Rig σ δ τ) : k.releaseSurface.world = k.world := by
  unfold releaseSurface
  split <;> rfl

theorem bind_stage (k : Rig σ δ τ) (texture : TextureId) (size : Size) (draft : Draft) :
    (k.bind texture size draft).stage = k.stage := by
  unfold bind releaseSurface
  dsimp only
  split <;> rfl

theorem bind_world (k : Rig σ δ τ) (texture : TextureId) (size : Size) (draft : Draft) :
    (k.bind texture size draft).world = k.world := by
  unfold bind releaseSurface
  dsimp only
  split <;> rfl

def vacate (k : Rig σ δ τ) : Rig σ δ τ :=
  { k with
    stage := .unopened, device := none, session := none, draft := none, texture := none
    surface := none }

variable [Subsystem σ δ τ]

def fault (k : Rig σ δ τ) (q : Call δ τ) : Option Fault := (Subsystem.answer k.world q).fault

def call (k : Rig σ δ τ) (q : Call δ τ) : Rig σ δ τ :=
  { k with
    world := (Subsystem.answer k.world q).world
    mailbox := k.mailbox ++ (Subsystem.answer k.world q).posted.map .hardware }

/-- A call whose outcome decides on the stage. -/
def submit (k : Rig σ δ τ) (q : Call δ τ) (accepted refused : Stage) : Rig σ δ τ :=
  { k.call q with stage := if (k.fault q).isNone then accepted else refused }

def closeDevice (k : Rig σ δ τ) : Rig σ δ τ :=
  match k.device with
  | some device => { k with device := none }.call (.closeDevice device)
  | none => k

def closeSession (k : Rig σ δ τ) : Rig σ δ τ :=
  match k.session with
  | some session => { { k with session := none }.call (.abortCaptures session) with stage := .configured }
  | none => k

/-- Has a session created on the device, if one is held, for the surface that is bound. -/
def createSession (k : Rig σ δ τ) : Rig σ δ τ :=
  match k.device, k.surface with
  | some device, some surface => k.call (.createSession device [surface])
  | _, _ => k

/-- The rig after a draft was asked for. -/
def drafted (k : Rig σ δ τ) (device : δ) : Rig σ δ τ :=
  { k with world := (Subsystem.draft k.world device .preview).1 }

/-- One capture carries a trigger, which the draft does not keep. -/
def submitTrigger (k : Rig σ δ τ) (session : τ) (draft : Draft) (trigger : Trigger)
    (listener : Listener) (accepted refused : Stage) : Rig σ δ τ :=
  { k with draft := some ((draft.withTrigger trigger).withTrigger .idle) }.submit
    (.capture session (draft.withTrigger trigger).build listener) accepted refused

/-- What a message can do to the rig. -/
inductive Step (k : Rig σ δ τ) : Message δ τ → Rig σ δ τ → Prop
  | still {message : Message δ τ} (hpasses : message.Passes k.stage) : Step k message k
  | asked {message : Message δ τ} {id : DeviceId} (hopening : message.opening?.isSome)
      (hstage : k.stage = .unopened) : Step k message (k.call (.openDevice id))
  | failed {action : Action} (hkind : action.kind.isSupported = false) :
      Step k (.action action) k.closeDevice
  | released {message : Message δ τ} (hrelease : message.isRelease) (hstage : k.stage ≠ .unopened) :
      Step k message k.closeSession.closeDevice.releaseSurface.vacate
  | kept {texture : TextureId} (hstage : .configured ≤ k.stage) (htexture : k.texture = some texture) :
      Step k (.action (.setPreviewTexture texture)) k
  | bound {texture : TextureId} (size : Size) {draft : Draft} (hstage : .configured ≤ k.stage)
      (htexture : k.texture ≠ some texture) (hdraft : k.draft = some draft) :
      Step k (.action (.setPreviewTexture texture))
        (k.closeSession.bind texture size draft).createSession
  | started {callback : Option Tag} {session : τ} {draft : Draft} (hstage : k.stage = .previewReady)
      (hsession : k.session = some session) (hdraft : k.draft = some draft) :
      Step k (.action (.startPreview callback))
        (k.submit (.setRepeating session draft.build .lensState) .previewActive .previewReady)
  | stopped {session : τ} (hstage : .previewActive ≤ k.stage) (hsession : k.session = some session) :
      Step k (.action .stopPreview) (k.submit (.stopRepeating session) .previewReady k.stage)
  | applied {settings : Settings} (array : Rect) {draft : Draft} (hstage : k.stage ≠ .unopened)
      (hidle : k.stage < .previewActive) (hdraft : k.draft = some draft) :
      Step k (.action (.applySettings settings)) { k with
        draft := some (draft.merge settings array)
        stage := if k.stage < .previewReady then .configured else k.stage }
  | resubmitted {settings : Settings} (array : Rect) {session : τ} {draft : Draft}
      (hstage : .previewActive ≤ k.stage) (hsession : k.session = some session)
      (hdraft : k.draft = some draft) :
      Step k (.action (.applySettings settings))
        ({ k with draft := some (draft.merge settings array) }.call
          (.setRepeating session (draft.merge settings array).build .lensState))
  | focusing {callback : Option Tag} {session : τ} {draft : Draft} (hstage : .previewActive ≤ k.stage)
      (hsession : k.session = some session) (hdraft : k.draft = some draft) :
      Step k (.action (.autoFocus callback))
        (k.submitTrigger session draft .start .focusTrigger .focusLocked .previewActive)
  | unlocking {session : τ} {draft : Draft} (hstage : .previewActive ≤ k.stage)
      (hsession : k.session = some session) (hdraft : k.draft = some draft) :
      Step k (.action .cancelAutoFocus)
        (k.submitTrigger session draft .cancel .untracked .previewActive .focusLocked)
  | adopted {device : δ} {draft : Draft}
      (hdraft : (Subsystem.draft k.world device .preview).2 = .ok draft) :
      Step k (.hardware (.opened device)) { k.drafted device with
        stage := .unconfigured, device := some device, draft := some draft }
  | stray {device : δ} : Step k (.hardware (.opened device)) (k.call (.closeDevice device))
  | broken {device : δ} :
      Step k (.hardware (.opened device)) ((k.drafted device).call (.closeDevice device))
  | discarded {session : τ} (hstage : k.stage < .configured) :
      Step k (.hardware (.configured session)) (k.call (.abortCaptures session))
  | configured {session : τ} (hstage : .configured ≤ k.stage) :
      Step k (.hardware (.configured session)) { k with session := some session, stage := .previewReady }

theorem closeDevice_none {k : Rig σ δ τ} (hdevice : k.device = none) : k.closeDevice = k := by
  unfold closeDevice
  rw [hdevice]

section
variable (k : Rig σ δ τ) (q : Call δ τ) (accepted refused : Stage)

theorem closeSession_draft : k.closeSession.draft = k.draft := by
  unfold closeSession
  split <;> rfl

/-- Without its session nothing is left of a preview. -/
theorem closeSession_stage (hsession : .previewReady ≤ k.stage → k.session.isSome) :
    k.closeSession.stage < .previewReady := by
  unfold closeSession
  split
  · exact (by decide : Stage.configured < .previewReady)
  · next hnone =>
    refine Nat.lt_of_not_le fun hready => ?_
    have hsome := hsession hready
    rw [hnone] at hsome
    cases hsome

theorem closeSession_canvas : k.closeSession.canvas = k.canvas := by
  unfold closeSession
  split <;> rfl

theorem closeDevice_device : k.closeDevice.device = none := by
  unfold closeDevice
  split
  · rfl
  · next hdevice => exact hdevice

theorem closeDevice_surface : k.closeDevice.surface = k.surface := by
  unfold closeDevice
  split <;> rfl

theorem createSession_stage : k.createSession.stage = k.stage := by
  unfold createSession
  split <;> rfl

theorem createSession_surface : k.createSession.surface = k.surface := by
  unfold createSession
  split <;> rfl

theorem closeSession_configured (hstage : .configured ≤ k.stage) :
    .configured ≤ k.closeSession.stage := by
  unfold closeSession
  split
  · exact Nat.le_refl _
  · exact hstage

theorem submit_accepted (hfault : k.fault q = none) :
    k.submit q accepted refused = { k.call q with stage := accepted } := by
  unfold submit
  rw [hfault]
  rfl

theorem submit_refused {fault : Fault} (hfault : k.fault q = some fault) :
    k.submit q accepted refused = { k.call q with stage := refused } := by
  unfold submit
  rw [hfault]
  rfl

end

end Rig

end CameraControl
