import CameraControl.Proofs.OpenDevice
import CameraControl.Proofs.Reopening
import CameraControl.Proofs.Surfaces

/-!
Setting the texture of a preview. The texture is remembered as soon as a surface of it is bound, whatever then
becomes of the session. One that is set again is taken for one that has a session already, which need not be
so: after a session failed it takes another texture to get a preview.
-/
namespace CameraControl

namespace Rig

section
variable {σ δ τ : Type}

/-- Of the texture that is remembered a surface is bound, and not released. -/
def Hung (k : Rig σ δ τ) : Prop :=
  ∀ texture, k.texture = some texture →
    ∃ surface, k.surface = some surface ∧ k.canvas.surface? surface = some { texture }

variable {k k' : Rig σ δ τ}

theorem Hung.keep (hk : k.Hung) (htexture : k'.texture = k.texture) (hsurface : k'.surface = k.surface)
    (hcanvas : k'.canvas = k.canvas) : k'.Hung := by
  unfold Hung
  rw [htexture, hsurface, hcanvas]
  exact hk

theorem bind_hung (k : Rig σ δ τ) (texture : TextureId) (size : Size) (draft : Draft) :
    (k.bind texture size draft).Hung := by
  intro texture' htexture
  unfold bind at htexture ⊢
  cases htexture
  refine ⟨_, rfl, ?_⟩
  rw [Canvas.surface_addSurface, if_pos rfl]

variable [Subsystem σ δ τ]

theorem Hung.closeDevice (hk : k.Hung) : k.closeDevice.Hung := by
  unfold Rig.closeDevice
  split
  · exact hk.keep rfl rfl rfl
  · exact hk

theorem Hung.createSession (hk : k.Hung) : k.createSession.Hung := by
  unfold Rig.createSession
  split
  · exact hk.keep rfl rfl rfl
  · exact hk

/-- Every message keeps a surface of the texture that is remembered. -/
theorem Hung.step {message : Message δ τ} (hk : k.Hung) (h : k.Step message k') : k'.Hung := by
  cases h with
  | failed => exact hk.closeDevice
  | released => exact nofun
  | bound => exact (bind_hung _ _ _ _).createSession
  | _ => exact hk.keep rfl rfl rfl

end

end Rig

theorem Stage.previewReady_le {stage : Stage} (hle : .configured ≤ stage) (hne : stage ≠ .configured) :
    .previewReady ≤ stage := by
  cases stage <;> first | exact absurd rfl hne | exact absurd hle (by decide) | decide

namespace Controller

variable {σ δ τ : Type}

/-- A preview of the texture can be started. -/
def Prepared (c : Controller σ δ τ) (texture : TextureId) : Prop :=
  .previewReady ≤ c.stage ∧ c.attached.session.isSome ∧
    ∃ surface, c.attached.surface = some surface ∧ c.canvas.surface? surface = some { texture }

section
variable (c : Controller σ δ τ)

/-- Only what has to do with surfaces is different once a surface is bound. -/
theorem bindTexture_same (texture : TextureId) (size : Size) (draft : Draft) :
    (c.bindTexture texture size draft).1.status = c.status ∧
      (c.bindTexture texture size draft).1.mailbox = c.mailbox ∧
      (c.bindTexture texture size draft).1.cell = c.cell ∧
      (c.bindTexture texture size draft).1.subsystem = c.subsystem := by
  unfold bindTexture releaseSurface
  dsimp only
  split <;> exact ⟨rfl, rfl, rfl, rfl⟩

end

variable [Subsystem σ δ τ] {c : Controller σ δ τ}

theorem closeSession_status : c.closeSession.status = c.status := by
  unfold closeSession
  split <;> rfl

/-- A texture other than the last is bound, and a session for its surface asked for. -/
theorem setPreviewTexture_bound {texture : TextureId} {device : δ} (hc : c.Layered)
    (hstage : .configured ≤ c.stage) (htexture : c.attached.texture ≠ some texture)
    (hdevice : c.attached.device = some device) :
    ∃ size draft, c.setPreviewTexture texture =
      ((c.closeSession.bindTexture texture size draft).1.tell
        (.createSession device [(c.closeSession.bindTexture texture size draft).2]), none) := by
  have hclosed : c.closeSession.Layered := closeSession_layered hc hstage
  have hconfigured := closeSession_configured hstage
  obtain ⟨size, hsize⟩ := Option.isSome_iff_exists.mp (hclosed.previewSize hconfigured)
  obtain ⟨draft, hdraft⟩ :=
    Option.isSome_iff_exists.mp (hclosed.draft (Stage.le_trans (by decide) hconfigured))
  refine ⟨size, draft, ?_⟩
  unfold setPreviewTexture
  rw [if_neg (Stage.not_lt.mpr hstage), if_neg htexture]
  dsimp only
  rw [hsize, hdraft]
  dsimp only
  rw [bindTexture_device, closeSession_device, hdevice]

end Controller

namespace Simulator

theorem createSession_configured {s : Simulator} (device : Device) (surfaces : List SurfaceId)
    (hcreate : .createSession ∉ s.armed) (hconfigure : .configureSession ∉ s.armed) :
    (s.createSession device surfaces).posted = [.configured ⟨s.generation + 1⟩] := by
  have hnoted (op : Operation) (hfree : op ∉ s.armed) :
      op ∉ (s.note (.createSession device.id surfaces)).armed := hfree
  unfold createSession
  dsimp only
  rw [if_neg (hnoted _ hcreate), if_neg (hnoted _ hconfigure)]
  rfl

/-- With nothing awaited, the device that is open is the one that is held. -/
theorem Known.device {r : Run Simulator Device Session} (hr : Known r) (hmailbox : r.now.mailbox = [])
    (hopen : r.now.subsystem.openDevice ≠ none) : ∃ device, r.now.attached.device = some device := by
  obtain ⟨id, hid⟩ := Option.ne_none_iff_exists'.mp hopen
  obtain ⟨device, hnewest, -⟩ := hr.newest id hid
  unfold Controller.newest Controller.awaited at hnewest
  rw [hmailbox] at hnewest
  exact ⟨device, hnewest⟩

theorem closeSession_armed (c : Controller Simulator Device Session) :
    c.closeSession.subsystem.armed ⊆ c.subsystem.armed := by
  unfold Controller.closeSession
  split
  · exact (answer_aftermath _ _).armed
  · exact List.Subset.refl _

/-- A texture that is not the last one gets a session, as long as none is armed to fail. -/
theorem drain_rebinds {c : Controller Simulator Device Session} {texture : TextureId} {device : Device}
    (hc : c.Layered) (hstatus : c.status = .running) (hmailbox : c.mailbox = [])
    (hstage : .configured ≤ c.stage) (htexture : c.attached.texture ≠ some texture)
    (hdevice : c.attached.device = some device) (hcreate : .createSession ∉ c.subsystem.armed)
    (hconfigure : .configureSession ∉ c.subsystem.armed) :
    let d := (c.post (.action (.setPreviewTexture texture))).drain.1
    d.status = .running ∧ d.mailbox = [] ∧ d.Prepared texture := by
  intro d
  let closed := (c.record .setPreviewTexture).closeSession
  obtain ⟨size, draft, hset⟩ := Controller.setPreviewTexture_bound
    (c := c.record .setPreviewTexture) hc hstage htexture hdevice
  let bound := (closed.bindTexture texture size draft).1
  let asked := bound.tell (.createSession device [(closed.bindTexture texture size draft).2])
  let session : Session := ⟨bound.subsystem.generation + 1⟩
  obtain ⟨hsameStatus, hsameMailbox, hsameCell, hsameWorld⟩ :=
    closed.bindTexture_same texture size draft
  have hd : d = (asked.run 1).1 :=
    Controller.drain_served (.setPreviewTexture texture) hstatus hmailbox hset
  have hrunning : asked.status = .running :=
    hsameStatus.trans (Controller.closeSession_status.trans hstatus)
  have hfree {op : Operation} (hop : op ∉ c.subsystem.armed) : op ∉ bound.subsystem.armed := by
    rw [hsameWorld]
    exact fun harmed => hop (closeSession_armed (c.record .setPreviewTexture) harmed)
  have hqueue : asked.mailbox = [.hardware (.configured session)] := by
    have hposted := createSession_configured (s := bound.subsystem) device
      [(closed.bindTexture texture size draft).2] (hfree hcreate) (hfree hconfigure)
    have hempty : bound.mailbox = [] :=
      hsameMailbox.trans ((closeSession_calm (c := c.record .setPreviewTexture)).mailbox.trans hmailbox)
    show bound.mailbox ++ _ = _
    rw [hempty, List.nil_append]
    exact congrArg (List.map Message.hardware) hposted
  have hconfigured : .configured ≤ asked.stage := by
    have hclosed : .configured ≤ closed.stage :=
      Controller.closeSession_configured (c := c.record .setPreviewTexture) hstage
    have hsame : asked.stage = closed.stage := congrArg Stage.Cell.stage hsameCell
    rwa [hsame]
  have hung : bound.rig.Hung := by
    rw [(closed.bindTexture_rig texture size draft).1]
    exact Rig.bind_hung _ _ _ _
  have htaken : { asked with mailbox := [] }.handle (.hardware (.configured session)) =
      (({ asked with mailbox := [] } : Controller Simulator Device Session).countEvent.attach
        { asked.attached with session := some session }).enter .previewReady :=
    if_neg (Stage.not_lt.mpr hconfigured)
  rw [hd, Controller.run_cons (c := asked) hrunning hqueue, htaken]
  exact ⟨hrunning, rfl, Nat.le_refl _, rfl, hung texture rfl⟩

theorem hung_handle {h : Handled Simulator Device Session} {past : List (Handled Simulator Device Session)}
    (htenured : Run.Tenured ⟨h.before, past⟩) (hr : (Run.before h past).now.rig.Hung) :
    h.after.rig.Hung := by
  have hbefore : h.before.rig.Hung := hr
  exact hbefore.step (Handled.rigged htenured)

/-- Whatever sessions failed before, a texture that is set on a camera with an open device can be previewed
once the mailbox is empty, as long as no session is armed to fail. The one exception is the texture that was
set last, while the camera is configured only: then it has no session, and setting it again gets it none. -/
theorem texture_prepared_iff (world : Simulator) (hrest : world.AtRest) (roster : Roster)
    (historySize : Nat) (moves : List Move) (texture : TextureId) :
    let r := (Run.start world roster historySize).run moves
    r.now.status = .running → r.now.mailbox = [] → .configured ≤ r.now.stage →
      r.now.subsystem.openDevice ≠ none → .createSession ∉ r.now.subsystem.armed →
      .configureSession ∉ r.now.subsystem.armed →
      let d := (r.now.post (.action (.setPreviewTexture texture))).drain.1
      d.status = .running ∧ d.mailbox = [] ∧
        (d.Prepared texture ↔
          ¬ (r.now.attached.texture = some texture ∧ r.now.stage = .configured)) := by
  intro r hstatus hmailbox hstage hopen hcreate hconfigure d
  obtain ⟨htenured, hknown, -⟩ := known world hrest roster historySize moves
  obtain ⟨-, hung, -⟩ := Run.invariant_tenured (fun r => r.now.rig.Hung) (fun _ => True)
    (fun r move _ hr => by cases move <;> exact hr)
    (fun h past htenured hr => hung_handle htenured hr) world roster historySize
    (fun move (_ : move ∈ moves) => trivial) nofun
  by_cases htexture : r.now.attached.texture = some texture
  · have hset : (r.now.record .setPreviewTexture).setPreviewTexture texture =
        (r.now.record .setPreviewTexture, none) :=
      (if_neg (Stage.not_lt.mpr hstage)).trans (if_pos htexture)
    have hd : d = r.now.record .setPreviewTexture :=
      (Controller.drain_served (.setPreviewTexture texture) hstatus hmailbox hset).trans
        (Controller.run_empty (c := r.now.record .setPreviewTexture) hmailbox 1)
    rw [hd]
    refine ⟨hstatus, hmailbox, fun hprepared hstuck => ?_, fun hready => ?_⟩
    · have hready : .previewReady ≤ r.now.stage := hprepared.1
      rw [hstuck.2] at hready
      exact absurd hready (by decide)
    · have hready : .previewReady ≤ r.now.stage :=
        Stage.previewReady_le hstage fun hconfigured => hready ⟨htexture, hconfigured⟩
      exact ⟨hready, htenured.layered.session hready, hung texture htexture⟩
  · obtain ⟨device, hdevice⟩ := hknown.device hmailbox hopen
    obtain ⟨hrunning, hempty, hprepared⟩ := drain_rebinds htenured.layered hstatus hmailbox hstage
      htexture hdevice hcreate hconfigure
    exact ⟨hrunning, hempty, iff_of_true hprepared fun hsame => htexture hsame.1⟩

/-- The session for a texture fails to be configured. -/
def spoiledMoves : List Move :=
  [.ask (.openCamera 0 0), .handle, .handle, .addTexture, .addTexture,
    .ask (.applySettings { preview := ⟨640, 480⟩, photo := ⟨640, 480⟩ }), .handle,
    .stir (.arm .configureSession), .ask (.setPreviewTexture 1), .handle, .handle]

theorem spoiled_prepared_with_other :
    let c := (run spoiledMoves).now
    c.status = .running ∧ c.mailbox = [] ∧ .configured ≤ c.stage ∧ c.subsystem.openDevice ≠ none ∧
      c.subsystem.armed = [] ∧ (c.post (.action (.setPreviewTexture 2))).drain.1.Prepared 2 := by
  obtain ⟨-, -, hprepared⟩ := texture_prepared_iff _ (withDevices_atRest ["0", "1"])
    (Roster.empty.update ["0", "1"]) 20 spoiledMoves 2 rfl rfl (by decide) (by decide) (by decide)
    (by decide)
  exact ⟨rfl, rfl, by decide, by decide, rfl, hprepared.mpr (by decide)⟩

/-- Setting the same texture again asks for no session. -/
theorem spoiled_not_prepared :
    let c := (run spoiledMoves).now
    let d := (c.post (.action (.setPreviewTexture 1))).drain.1
    c.status = .running ∧ c.mailbox = [] ∧ .configured ≤ c.stage ∧ c.subsystem.openDevice ≠ none ∧
      c.subsystem.armed = [] ∧ d.mailbox = [] ∧ d.stage = .configured ∧ d.attached.session = none ∧
      d.subsystem = c.subsystem ∧ ¬ d.Prepared 1 :=
  ⟨rfl, rfl, by decide, by decide, rfl, rfl, rfl, rfl, rfl, fun hprepared => absurd hprepared.1 (by decide)⟩

end Simulator

end CameraControl
