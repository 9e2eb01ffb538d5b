import Mathlib.Tactic.SplitIfs
import CameraControl.Proofs.Primitives

/-!
One controller in different guises. A guise puts another subsystem behind the controller, one that answers
alike, and messages, reports and counted events before the controller's own. The controller cannot tell:
`handle_under` says for every message that it is handled in the same way. A guise may also have it remember
a lens state from before, which it heeds only where `Message.heedsLens` says so.
-/
namespace CameraControl

structure Guise (σ σ' δ τ : Type) where
  world : σ → σ'
  mailbox : List (Message δ τ) := []
  reports : List Reported := []
  events : Nat := 0
  /-- Remembered as long as no newer lens state is. -/
  lens : Option Lens := none

/-- The subsystem behind the guise answers as the one before it. -/
structure Guise.Faithful {σ σ' δ τ : Type} [Subsystem σ δ τ] [Subsystem σ' δ τ]
    (g : Guise σ σ' δ τ) : Prop where
  characteristics : ∀ s id, Subsystem.characteristics (g.world s) id = Subsystem.characteristics s id
  idOf : ∀ device, Subsystem.idOf σ' device = Subsystem.idOf σ device
  draft : ∀ s device template, Subsystem.draft (g.world s) device template =
    (Subsystem.draft s device template).map g.world id
  answer : ∀ s q, Subsystem.answer (g.world s) q =
    { Subsystem.answer s q with world := g.world (Subsystem.answer s q).world }

/-- Whether it matters for a message which lens state is remembered. -/
def Message.heedsLens {δ τ : Type} : Message δ τ → Bool
  | action a => a.kind = .release
  | shutdown => true
  | hardware (.completed .lensState _ (some _)) => true
  | _ => false

namespace Controller

variable {σ σ' δ τ : Type}

def under (g : Guise σ σ' δ τ) (c : Controller σ δ τ) : Controller σ' δ τ :=
  { c with
    subsystem := g.world c.subsystem
    mailbox := g.mailbox ++ c.mailbox
    reports := g.reports ++ c.reports
    tally := { c.tally with events := g.events + c.tally.events }
    lastLens := c.lastLens.or g.lens }

section
variable (g : Guise σ σ' δ τ) (c : Controller σ δ τ)

theorem stage_under : (c.under g).stage = c.stage := rfl

theorem attached_under : (c.under g).attached = c.attached := rfl

theorem attach_under (attached : Attachment δ τ) :
    (c.under g).attach attached = (c.attach attached).under g := rfl

theorem enter_under (stage : Stage) : (c.under g).enter stage = (c.enter stage).under g := rfl

theorem reject_under : (c.under g).reject = c.reject.under g := rfl

theorem post_under (message : Message δ τ) :
    (c.under g).post message = (c.post message).under g := by
  unfold post under
  simp only [List.append_assoc]

theorem postAll_under (events : List (Event δ τ)) :
    (c.under g).postAll events = (c.postAll events).under g := by
  unfold postAll under
  simp only [List.append_assoc]

theorem report_under (r : Report) : (c.under g).report r = (c.report r).under g := by
  unfold report under stage
  simp only [List.append_assoc]

theorem reportTo_under (callback : Option Tag) (r : Tag → Report) :
    (c.under g).reportTo callback r = (c.reportTo callback r).under g := by
  cases callback with
  | none => rfl
  | some tag => exact report_under g c (r tag)

theorem reportFocus_under (callback : Option Tag) (sharp : Bool) :
    (c.under g).reportFocus callback sharp = (c.reportFocus callback sharp).under g := by
  unfold reportFocus
  rw [attached_under]
  cases callback with
  | none => rfl
  | some tag =>
    cases c.attached.camera with
    | none => rfl
    | some camera => exact report_under g c _

theorem onTriggered_under : (c.under g).onTriggered = c.onTriggered.under g := by
  unfold onTriggered
  rw [attached_under]
  cases c.attached.pendingFocus <;> rfl

theorem onTriggerFailed_under : (c.under g).onTriggerFailed = c.onTriggerFailed.under g :=
  reportFocus_under g (c.attach { c.attached with pendingFocus := none }) _ _

theorem onCaptureFailed_under (listener : Listener) :
    (c.under g).onCaptureFailed listener = (c.onCaptureFailed listener).under g := by
  cases listener with
  | focusTrigger => exact onTriggerFailed_under g c
  | lensState => rfl
  | untracked => rfl

/-- Frames are watched alike if the same lens state is remembered from the last one. -/
theorem onLens_under (lens : Lens) (hlast : c.lastLens.or g.lens ≠ some lens ↔ c.lastLens ≠ some lens) :
    (c.under g).onLens lens = (c.onLens lens).under g := by
  have hseen : { c.under g with lastLens := some lens } =
    ({ c with lastLens := some lens } : Controller σ δ τ).under g := rfl
  have hchanged : (c.under g).lastLens ≠ some lens ↔ c.lastLens ≠ some lens := hlast
  unfold onLens
  dsimp only
  rw [hseen, attached_under]
  simp only [hchanged]
  cases c.attached.camera with
  | none => rfl
  | some camera =>
    dsimp only
    split_ifs
    · exact reportTo_under g _ _ _
    · rfl
    · rw [attach_under]
      exact reportTo_under g _ _ _
    · rfl

theorem onCompleted_under {listener : Listener} {lens : Option Lens}
    (hlens : g.lens = none ∨ listener ≠ .lensState ∨ lens = none) :
    (c.under g).onCompleted listener lens = (c.onCompleted listener lens).under g := by
  cases listener with
  | lensState =>
    cases lens with
    | none => rfl
    | some lens =>
      have hnone : g.lens = none := by simpa using hlens
      exact onLens_under g c lens (by rw [hnone, Option.or_none])
  | focusTrigger => cases lens <;> exact onTriggered_under g c
  | untracked => cases lens <;> rfl

theorem releaseSurface_under : (c.under g).releaseSurface = c.releaseSurface.under g := by
  unfold releaseSurface
  rw [attached_under]
  cases c.attached.surface <;> rfl

theorem bindTexture_under (texture : TextureId) (size : Size) (draft : Draft) :
    (c.under g).bindTexture texture size draft =
      (c.bindTexture texture size draft).map (·.under g) id := by
  unfold bindTexture releaseSurface
  dsimp only
  rw [attached_under]
  cases c.attached.surface <;> rfl

theorem raise_under (failure : Failure) : (c.under g).raise failure = (c.raise failure).under g := by
  unfold raise
  have hcallback : (c.under g).exceptionCallback = c.exceptionCallback := rfl
  rw [hcallback]
  cases c.exceptionCallback with
  | none => rfl
  | some callback => exact report_under g c _

end

section
variable [Subsystem σ δ τ] [Subsystem σ' δ τ] {g : Guise σ σ' δ τ} (hg : g.Faithful)
  (c : Controller σ δ τ)
include hg

theorem call_under (q : Call δ τ) : (c.under g).call q = (c.call q).map (·.under g) id := by
  unfold call
  have hanswer : Subsystem.answer (c.under g).subsystem q =
    { Subsystem.answer c.subsystem q with world := g.world (Subsystem.answer c.subsystem q).world } :=
    hg.answer c.subsystem q
  rw [hanswer]
  exact Prod.ext (postAll_under g { c with subsystem := (Subsystem.answer c.subsystem q).world } _) rfl

theorem tell_under (q : Call δ τ) : (c.under g).tell q = (c.tell q).under g :=
  congrArg Prod.fst (call_under hg c q)

theorem closeDevice_under : (c.under g).closeDevice = c.closeDevice.under g := by
  unfold closeDevice
  rw [attached_under]
  cases c.attached.device with
  | none => rfl
  | some device => exact tell_under hg (c.attach { c.attached with device := none }) _

theorem closeSession_under : (c.under g).closeSession = c.closeSession.under g := by
  unfold closeSession
  rw [attached_under]
  cases c.attached.session with
  | none => rfl
  | some session =>
    dsimp only
    rw [attach_under, tell_under hg, enter_under]

theorem openCamera_under (index : Nat) (callback : Tag) :
    (c.under g).openCamera index callback = (c.openCamera index callback).map (·.under g) id := by
  by_cases hstage : c.stage = .unopened
  · have hawaiting (id : Option DeviceId) : (c.under g).awaiting index callback id =
      (c.awaiting index callback id).under g := rfl
    have hroster : (c.under g).roster = c.roster := rfl
    rw [openCamera_unopened hstage, openCamera_unopened (c := c.under g) hstage, hroster]
    rcases c.roster.deviceId index with failure | _ | id
    · rfl
    · exact Prod.ext (report_under g (c.awaiting index callback none) _) rfl
    · dsimp only
      rw [hawaiting, call_under hg]
      rfl
  · unfold openCamera
    rw [stage_under, if_pos hstage, if_pos hstage, reject_under, report_under]
    rfl

theorem populate_under (device : δ) :
    (c.under g).populate device = (c.populate device).map (·.under g) id := by
  unfold populate
  have hknown : Subsystem.characteristics (c.under g).subsystem (Subsystem.idOf σ' device) =
      Subsystem.characteristics c.subsystem (Subsystem.idOf σ device) := by
    rw [hg.idOf]
    exact hg.characteristics c.subsystem _
  rw [hknown]
  cases Subsystem.characteristics c.subsystem (Subsystem.idOf σ device) with
  | error fault => rfl
  | ok characteristics =>
    have hdraft : Subsystem.draft (c.under g).subsystem device .preview =
      (Subsystem.draft c.subsystem device .preview).map g.world id := hg.draft c.subsystem device _
    rw [hdraft]
    rcases Subsystem.draft c.subsystem device .preview with ⟨world, fault | draft⟩ <;> rfl

theorem onOpened_under (device : δ) : (c.under g).onOpened device = (c.onOpened device).under g := by
  unfold onOpened
  rw [attached_under, populate_under hg]
  cases c.attached.openCallback with
  | none => exact tell_under hg c _
  | some callback =>
    rcases c.populate device with ⟨c, fault | camera⟩
    · dsimp only [Prod.map, id]
      rw [tell_under hg, report_under]
      rfl
    · dsimp only [Prod.map, id]
      rw [attach_under, enter_under, report_under]
      rfl

/-- With the camera given up, nothing is remembered of the lens. -/
theorem release_under_opened (hstage : c.stage ≠ .unopened) :
    (c.under g).release = c.release.under { g with lens := none } := by
  unfold release
  rw [stage_under, if_neg hstage, if_neg hstage, closeSession_under hg, closeDevice_under hg,
    releaseSurface_under]
  rfl

theorem release_under (hlens : g.lens = none) : (c.under g).release = c.release.under g := by
  by_cases hstage : c.stage = .unopened
  · unfold release
    rw [stage_under, if_pos hstage, if_pos hstage, reject_under]
  · have hnone : { g with lens := none } = g := by rw [← hlens]
    rw [release_under_opened hg c hstage, hnone]

theorem setPreviewTexture_under (texture : TextureId) :
    (c.under g).setPreviewTexture texture = (c.setPreviewTexture texture).map (·.under g) id := by
  unfold setPreviewTexture
  rw [stage_under, attached_under, closeSession_under hg]
  split_ifs
  · rfl
  · rfl
  · generalize c.closeSession = c
    dsimp only
    rw [attached_under]
    cases c.attached.previewSize <;> cases c.attached.draft
    · rfl
    · rfl
    · rfl
    · dsimp only
      rw [bindTexture_under]
      rcases c.bindTexture texture _ _ with ⟨c, surface⟩
      dsimp only [Prod.map]
      rw [attached_under]
      cases c.attached.device with
      | none => rfl
      | some device => exact Prod.ext (tell_under hg c _) rfl

theorem onConfigured_under (session : τ) :
    (c.under g).onConfigured session = (c.onConfigured session).under g := by
  unfold onConfigured
  rw [stage_under]
  split_ifs
  · exact tell_under hg c _
  · rfl

theorem startPreview_under (callback : Option Tag) :
    (c.under g).startPreview callback = (c.startPreview callback).map (·.under g) id := by
  unfold startPreview
  rw [stage_under, attached_under]
  split_ifs
  · rfl
  · cases c.attached.session with
    | none => rfl
    | some session =>
      cases c.attached.draft with
      | none => rfl
      | some draft =>
        dsimp only
        rw [attach_under, enter_under, call_under hg]
        rcases ((c.attach _).enter .previewActive).call _ with ⟨c, _ | fault⟩ <;> rfl

theorem stopPreview_under : (c.under g).stopPreview = c.stopPreview.map (·.under g) id := by
  unfold stopPreview
  rw [stage_under, attached_under]
  split_ifs
  · rfl
  · cases c.attached.session with
    | none => rfl
    | some session =>
      dsimp only
      rw [call_under hg]
      rcases c.call (.stopRepeating session) with ⟨c, _ | fault⟩ <;> rfl

theorem applySettings_under (settings : Settings) :
    (c.under g).applySettings settings = (c.applySettings settings).map (·.under g) id := by
  unfold applySettings
  rw [stage_under, attached_under]
  split_ifs
  · rfl
  · cases c.attached.activeArray with
    | none => rfl
    | some array =>
      cases c.attached.draft with
      | none => rfl
      | some draft =>
        dsimp only
        rw [attach_under]
        generalize c.attach _ = c
        rw [stage_under, attached_under]
        split_ifs
        · cases c.attached.session with
          | none => rfl
          | some session => exact Prod.ext (tell_under hg c _) rfl
        · rfl
        · rfl

theorem submitTrigger_under (session : τ) (draft : Draft) (trigger : Trigger)
    (listener : Listener) : (c.under g).submitTrigger session draft trigger listener =
      (c.submitTrigger session draft trigger listener).map (·.under g) id := by
  unfold submitTrigger
  dsimp only
  rw [attached_under, attach_under]
  exact call_under hg _ _

theorem autoFocus_under (callback : Option Tag) :
    (c.under g).autoFocus callback = (c.autoFocus callback).map (·.under g) id := by
  unfold autoFocus
  rw [stage_under, attached_under]
  split_ifs
  · rfl
  · cases c.attached.session with
    | none => rfl
    | some session =>
      cases c.attached.draft with
      | none => rfl
      | some draft =>
        dsimp only
        rw [enter_under, submitTrigger_under hg]
        rcases (c.enter .focusLocked).submitTrigger session draft .start .focusTrigger with
          ⟨c, _ | fault⟩
        · rfl
        · exact Prod.ext (reportFocus_under g (c.enter .previewActive) callback false) rfl

theorem cancelAutoFocus_under :
    (c.under g).cancelAutoFocus = c.cancelAutoFocus.map (·.under g) id := by
  unfold cancelAutoFocus
  rw [stage_under, attached_under]
  split_ifs
  · rfl
  · cases c.attached.session with
    | none => rfl
    | some session =>
      cases c.attached.draft with
      | none => rfl
      | some draft =>
        dsimp only
        rw [enter_under, submitTrigger_under hg]
        rcases (c.enter .previewActive).submitTrigger session draft .cancel .untracked with
          ⟨c, _ | fault⟩ <;> rfl

theorem perform_under {action : Action} (hlens : g.lens = none ∨ action.kind ≠ .release) :
    (c.under g).perform action = (c.perform action).map (·.under g) id := by
  cases action with
  | openCamera index callback => exact openCamera_under hg c index callback
  | reconnect index callback => exact openCamera_under hg c index callback
  | release => exact Prod.ext (release_under hg c (hlens.resolve_right (not_not_intro rfl))) rfl
  | setPreviewTexture texture => exact setPreviewTexture_under hg c texture
  | startPreview callback => exact startPreview_under hg c callback
  | stopPreview => exact stopPreview_under hg c
  | applySettings settings => exact applySettings_under hg c settings
  | autoFocus callback => exact autoFocus_under hg c callback
  | cancelAutoFocus => exact cancelAutoFocus_under hg c
  | _ => rfl

theorem tidy_under (kind : Action.Kind) : (c.under g).tidy kind = (c.tidy kind).under g := by
  unfold tidy
  rw [attached_under, closeDevice_under hg, reportTo_under]
  split_ifs <;> rfl

theorem recover_under (kind : Action.Kind) (failure : Failure) :
    (c.under g).recover kind failure = (c.recover kind failure).under g := by
  have hcount : (c.under g).countFailure = c.countFailure.under g := rfl
  rw [recover_eq, recover_eq, hcount, tidy_under hg, raise_under]
  split_ifs <;> rfl

theorem act_under {action : Action} (hlens : g.lens = none ∨ action.kind ≠ .release) :
    (c.under g).act action = (c.act action).under g := by
  unfold act
  have hrecord : (c.under g).record action.kind = (c.record action.kind).under g := rfl
  rw [hrecord, perform_under hg _ hlens]
  rcases (c.record action.kind).perform action with ⟨c, _ | failure⟩
  · rfl
  · exact recover_under hg c action.kind failure

theorem notice_under {event : Event δ τ}
    (hlens : g.lens = none ∨ (Message.hardware event).heedsLens = false) :
    (c.under g).notice event = (c.notice event).under g := by
  cases event with
  | opened device => exact onOpened_under hg c.countEvent device
  | deviceError code => exact reportTo_under g c.countEvent _ _
  | configured session => exact onConfigured_under hg c.countEvent session
  | active => exact reportTo_under g (c.countEvent.attach _) _ _
  | completed listener frame lens =>
    refine onCompleted_under g c.countEvent (hlens.imp_right fun hheeds => ?_)
    cases listener <;> cases lens <;> first | exact Or.inl (by decide) | exact Or.inr rfl | cases hheeds
  | captureFailed listener frame reason => exact onCaptureFailed_under g c.countEvent listener
  | disconnected => rfl
  | configureFailed => rfl

/-- The controller handles every message as if in no guise. -/
theorem handle_under {message : Message δ τ}
    (hlens : g.lens = none ∨ message.heedsLens = false) :
    (c.under g).handle message = (c.handle message).under g := by
  cases message with
  | action action => exact act_under hg c (hlens.imp_right of_decide_eq_false)
  | hardware event => exact notice_under hg c hlens
  | barrier ticket => rfl
  | shutdown =>
    have hnone : g.lens = none := hlens.resolve_right (by simp [Message.heedsLens])
    show (c.under g).shutDown = c.shutDown.under g
    unfold shutDown
    dsimp only
    rw [stage_under, release_under hg c hnone]
    split_ifs <;> rfl

end

end Controller

end CameraControl
