import Mathlib.Logic.Basic
import CameraControl.Proofs.Runs

/-!
What each stage relies on. A stage that is further along needs more of the attachment to be there: a draft,
the active array and a camera for any open camera, the preview size and settings once configured, a session
for a preview. No message breaks this, so an action that was let in by its stage finds what it needs, and
only a device can be missing, when a session is to be created on it.
-/
namespace CameraControl

theorem Stage.le_trans {a b c : Stage} (hab : a ≤ b) (hbc : b ≤ c) : a ≤ c :=
  Nat.le_trans (n := a.rank) (m := b.rank) (k := c.rank) hab hbc

theorem Stage.not_lt {a b : Stage} : ¬ a < b ↔ b ≤ a := Nat.not_lt

theorem Stage.unconfigured_le {a : Stage} : .unconfigured ≤ a ↔ a ≠ .unopened := by
  cases a <;> decide

theorem Stage.ne_unopened {a b : Stage} (hab : ¬ a < b) (hb : b ≠ .unopened) : a ≠ .unopened := by
  intro ha
  have hunconfigured : .unconfigured ≤ a := le_trans (unconfigured_le.mpr hb) (not_lt.mp hab)
  exact unconfigured_le.mp hunconfigured ha

variable {σ δ τ : Type}

/-- The attachment has what the stage relies on. -/
structure Attachment.Supports (a : Attachment δ τ) (stage : Stage) : Prop where
  draft : .unconfigured ≤ stage → a.draft.isSome
  activeArray : .unconfigured ≤ stage → a.activeArray.isSome
  camera : .unconfigured ≤ stage → a.camera.isSome
  previewSize : .configured ≤ stage → a.previewSize.isSome
  settings : .configured ≤ stage → a.settings.isSome
  session : .previewReady ≤ stage → a.session.isSome

namespace Attachment.Supports

variable {a : Attachment δ τ} {stage target : Stage}

/-- With no camera open nothing is needed. -/
theorem unopened : a.Supports .unopened where
  draft hle := absurd hle (by decide)
  activeArray hle := absurd hle (by decide)
  camera hle := absurd hle (by decide)
  previewSize hle := absurd hle (by decide)
  settings hle := absurd hle (by decide)
  session hle := absurd hle (by decide)

theorem lower (h : a.Supports stage) (hle : target ≤ stage) : a.Supports target where
  draft htarget := h.draft (Stage.le_trans htarget hle)
  activeArray htarget := h.activeArray (Stage.le_trans htarget hle)
  camera htarget := h.camera (Stage.le_trans htarget hle)
  previewSize htarget := h.previewSize (Stage.le_trans htarget hle)
  settings htarget := h.settings (Stage.le_trans htarget hle)
  session htarget := h.session (Stage.le_trans htarget hle)

/-- With a session on a configured camera any stage can be entered. -/
theorem full (h : a.Supports .configured) (hsession : a.session.isSome) : a.Supports stage where
  draft _ := h.draft (by decide)
  activeArray _ := h.activeArray (by decide)
  camera _ := h.camera (by decide)
  previewSize _ := h.previewSize (by decide)
  settings _ := h.settings (by decide)
  session _ := hsession

end Attachment.Supports

namespace Controller

def Layered (c : Controller σ δ τ) : Prop := c.attached.Supports c.stage

variable {c : Controller σ δ τ}

theorem layered_unopened (hstage : c.stage = .unopened) : c.Layered := by
  unfold Layered
  rw [hstage]
  exact .unopened

theorem reportTo_layered {callback : Option Tag} {r : Tag → Report} (h : c.Layered) :
    (c.reportTo callback r).Layered := by
  cases callback <;> exact h

theorem reportFocus_layered {callback : Option Tag} {sharp : Bool} (h : c.Layered) :
    (c.reportFocus callback sharp).Layered := by
  unfold reportFocus
  split <;> exact h

theorem onActive_layered (h : c.Layered) : c.onActive.Layered :=
  reportTo_layered (c := c.attach { c.attached with previewCallback := none }) { h with }

theorem onTriggered_layered (h : c.Layered) : c.onTriggered.Layered := by
  unfold onTriggered
  cases c.attached.pendingFocus with
  | none => exact h
  | some tag => exact { h with }

theorem onTriggerFailed_layered (h : c.Layered) : c.onTriggerFailed.Layered :=
  reportFocus_layered (c := c.attach { c.attached with pendingFocus := none }) { h with }

theorem onLens_layered {lens : Lens} (h : c.Layered) : (c.onLens lens).Layered := by
  unfold onLens
  dsimp only
  cases c.attached.camera with
  | none => exact h
  | some camera =>
    dsimp only
    split_ifs
    · exact reportTo_layered (c := { c with lastLens := some lens }) h
    · exact h
    · apply reportTo_layered
      exact { h with camera := fun _ => rfl }
    · exact h

theorem onCompleted_layered {listener : Listener} {lens : Option Lens} (h : c.Layered) :
    (c.onCompleted listener lens).Layered := by
  cases listener with
  | lensState =>
    cases lens with
    | none => exact h
    | some lens => exact onLens_layered h
  | focusTrigger => exact onTriggered_layered h
  | untracked => exact h

theorem onCaptureFailed_layered {listener : Listener} (h : c.Layered) :
    (c.onCaptureFailed listener).Layered := by
  cases listener with
  | focusTrigger => exact onTriggerFailed_layered h
  | lensState => exact h
  | untracked => exact h

/-- From a preview on, actions find a session and a draft, and can enter any stage. -/
theorem layered_previewing (h : c.Layered) (hstage : .previewReady ≤ c.stage) :
    ∃ session draft, c.attached.session = some session ∧ c.attached.draft = some draft ∧
      ∀ stage, c.attached.Supports stage := by
  have hconfigured : c.attached.Supports .configured := h.lower (Stage.le_trans (by decide) hstage)
  obtain ⟨session, hsession⟩ := Option.isSome_iff_exists.mp (h.session hstage)
  obtain ⟨draft, hdraft⟩ := Option.isSome_iff_exists.mp (hconfigured.draft (by decide))
  exact ⟨session, draft, hsession, hdraft, fun _ => hconfigured.full (h.session hstage)⟩

theorem bindTexture_layered {texture : TextureId} {size : Size} {draft : Draft} (h : c.Layered) :
    (c.bindTexture texture size draft).1.Layered := by
  unfold bindTexture releaseSurface
  dsimp only
  cases c.attached.surface <;> exact { h with draft := fun _ => rfl }

theorem bindTexture_device {texture : TextureId} {size : Size} {draft : Draft} :
    (c.bindTexture texture size draft).1.attached.device = c.attached.device := by
  unfold bindTexture releaseSurface
  dsimp only
  cases c.attached.surface <;> rfl

variable [Subsystem σ δ τ]

theorem closeDevice_layered (h : c.Layered) : c.closeDevice.Layered := by
  unfold closeDevice
  cases c.attached.device with
  | none => exact h
  | some device => exact { h with }

/-- Without its session an attachment supports no more than a configured camera. -/
theorem closeSession_layered (h : c.Layered) (hstage : .configured ≤ c.stage) :
    c.closeSession.Layered := by
  unfold closeSession
  cases c.attached.session with
  | none => exact h
  | some session =>
    have hconfigured : c.attached.Supports .configured := h.lower hstage
    have hclosed : ({ c.attached with session := none } : Attachment δ τ).Supports .configured :=
      { hconfigured with session := fun hready => absurd hready (by decide) }
    exact hclosed

theorem openCamera_layered {index : Nat} {callback : Tag} (h : c.Layered) :
    (c.openCamera index callback).1.Layered := by
  unfold openCamera
  split_ifs with hstage
  · exact h
  · have hunopened : c.stage = .unopened := not_not.mp hstage
    dsimp only
    split <;> exact layered_unopened hunopened

theorem onOpened_layered {device : δ} (h : c.Layered) : (c.onOpened device).Layered := by
  unfold onOpened populate
  cases c.attached.openCallback with
  | none => exact h
  | some callback =>
    dsimp only
    cases Subsystem.characteristics c.subsystem (Subsystem.idOf σ device) with
    | error fault => exact h
    | ok characteristics =>
      dsimp only
      rcases Subsystem.draft c.subsystem device .preview with ⟨world, fault | draft⟩
      · exact h
      · exact {
          draft := fun _ => rfl
          activeArray := fun _ => rfl
          camera := fun _ => rfl
          previewSize := fun hle => absurd hle (by decide : ¬ Stage.configured ≤ .unconfigured)
          settings := fun hle => absurd hle (by decide : ¬ Stage.configured ≤ .unconfigured)
          session := fun hle => absurd hle (by decide : ¬ Stage.previewReady ≤ .unconfigured) }

theorem release_layered (h : c.Layered) : c.release.Layered := by
  unfold release
  split_ifs with hstage
  · exact h
  · exact layered_unopened rfl

theorem onConfigured_layered {session : τ} (h : c.Layered) :
    (c.onConfigured session).Layered := by
  unfold onConfigured
  split_ifs with hstage
  · exact h
  · have hconfigured : c.attached.Supports .configured := h.lower (Stage.not_lt.mp hstage)
    have hsession : ({ c.attached with session := some session } : Attachment δ τ).Supports
      .configured := { hconfigured with session := fun _ => rfl }
    exact hsession.full rfl

theorem call_full {q : Call δ τ} {fault : Option Fault} {c' : Controller σ δ τ}
    (hcall : c.call q = (c', fault)) (hfull : ∀ stage, c.attached.Supports stage) (stage : Stage) :
    c'.attached.Supports stage := by
  cases hcall
  exact hfull stage

theorem startPreview_layered {callback : Option Tag} (h : c.Layered) :
    (c.startPreview callback).1.Layered ∧ (c.startPreview callback).2 = none := by
  unfold startPreview
  split_ifs with hstage
  · exact ⟨h, rfl⟩
  · have hready : .previewReady ≤ c.stage := by rw [not_not.mp hstage]; decide
    obtain ⟨session, draft, hsession, hdraft, hfull⟩ := layered_previewing h hready
    rw [hsession, hdraft]
    dsimp only
    split
    · next c' hcall =>
      refine ⟨call_full hcall ?_ _, rfl⟩
      exact fun stage => { hfull stage with }
    · next c' fault hcall =>
      have hstarted : c'.attached.Supports .previewReady := by
        refine call_full hcall ?_ _
        exact fun stage => { hfull stage with }
      exact ⟨{ hstarted with }, rfl⟩

theorem stopPreview_layered (h : c.Layered) :
    c.stopPreview.1.Layered ∧ c.stopPreview.2 = none := by
  unfold stopPreview
  split_ifs with hstage
  · exact ⟨h, rfl⟩
  · have hready : .previewReady ≤ c.stage := Stage.le_trans (by decide) (Stage.not_lt.mp hstage)
    obtain ⟨session, draft, hsession, hdraft, hfull⟩ := layered_previewing h hready
    rw [hsession]
    dsimp only
    split
    · next c' hcall => exact ⟨call_full hcall hfull _, rfl⟩
    · next c' fault hcall => exact ⟨call_full hcall hfull _, rfl⟩

theorem applySettings_layered {settings : Settings} (h : c.Layered) :
    (c.applySettings settings).1.Layered ∧ (c.applySettings settings).2 = none := by
  unfold applySettings
  split_ifs with hstage
  · exact ⟨h, rfl⟩
  · have hopen : .unconfigured ≤ c.stage := Stage.unconfigured_le.mpr hstage
    obtain ⟨array, harray⟩ := Option.isSome_iff_exists.mp (h.activeArray hopen)
    obtain ⟨draft, hdraft⟩ := Option.isSome_iff_exists.mp (h.draft hopen)
    have happlied (stage : Stage) (hle : stage ≤ c.stage ∨ stage = .configured) :
        ({ c.attached with
          previewSize := some settings.preview
          draft := some (draft.merge settings array)
          settings := some settings } : Attachment δ τ).Supports stage := {
      draft := fun _ => rfl
      activeArray := fun _ => h.activeArray hopen
      camera := fun _ => h.camera hopen
      previewSize := fun _ => rfl
      settings := fun _ => rfl
      session := fun hready => by
        cases hle with
        | inl hle => exact h.session (Stage.le_trans hready hle)
        | inr hconfigured => rw [hconfigured] at hready; exact absurd hready (by decide) }
    rw [harray, hdraft]
    dsimp only
    split_ifs with hactive hready
    · have hpreview : .previewReady ≤ c.stage := Stage.le_trans (by decide) hactive
      obtain ⟨session, hsession⟩ := Option.isSome_iff_exists.mp (h.session hpreview)
      have hattached : (c.attach { c.attached with
        previewSize := some settings.preview
        draft := some (draft.merge settings array)
        settings := some settings }).attached.session = some session := hsession
      rw [hattached]
      exact ⟨happlied _ (Or.inl (Nat.le_refl _)), rfl⟩
    · exact ⟨happlied _ (Or.inr rfl), rfl⟩
    · exact ⟨happlied _ (Or.inl (Nat.le_refl _)), rfl⟩

/-- A trigger is submitted without a loss: the draft is replaced, not taken. -/
theorem submitTrigger_full {session : τ} {draft : Draft} {trigger : Trigger} {listener : Listener}
    {fault : Option Fault} {c' : Controller σ δ τ}
    (hsubmit : c.submitTrigger session draft trigger listener = (c', fault))
    (hfull : ∀ stage, c.attached.Supports stage) (stage : Stage) : c'.attached.Supports stage := by
  refine call_full hsubmit ?_ stage
  exact fun stage => { hfull stage with draft := fun _ => rfl }

theorem autoFocus_layered {callback : Option Tag} (h : c.Layered) :
    (c.autoFocus callback).1.Layered ∧ (c.autoFocus callback).2 = none := by
  unfold autoFocus
  split_ifs with hstage
  · exact ⟨h, rfl⟩
  · have hready : .previewReady ≤ c.stage := Stage.le_trans (by decide) (Stage.not_lt.mp hstage)
    obtain ⟨session, draft, hsession, hdraft, hfull⟩ := layered_previewing h hready
    rw [hsession, hdraft]
    dsimp only
    split
    · next c' hsubmit =>
      have hfocused : c'.attached.Supports _ := submitTrigger_full hsubmit hfull c'.stage
      exact ⟨{ hfocused with }, rfl⟩
    · next c' fault hsubmit =>
      have hfailed : (c'.enter .previewActive).Layered := submitTrigger_full hsubmit hfull _
      exact ⟨reportFocus_layered hfailed, rfl⟩

theorem cancelAutoFocus_layered (h : c.Layered) :
    c.cancelAutoFocus.1.Layered ∧ c.cancelAutoFocus.2 = none := by
  unfold cancelAutoFocus
  split_ifs with hstage
  · exact ⟨h, rfl⟩
  · have hready : .previewReady ≤ c.stage := Stage.le_trans (by decide) (Stage.not_lt.mp hstage)
    obtain ⟨session, draft, hsession, hdraft, hfull⟩ := layered_previewing h hready
    rw [hsession, hdraft]
    dsimp only
    split
    · next c' hsubmit => exact ⟨submitTrigger_full hsubmit hfull _, rfl⟩
    · next c' fault hsubmit => exact ⟨submitTrigger_full hsubmit hfull _, rfl⟩

theorem closeSession_device : c.closeSession.attached.device = c.attached.device := by
  unfold closeSession
  cases c.attached.session <;> rfl

theorem closeSession_configured (hstage : .configured ≤ c.stage) :
    .configured ≤ c.closeSession.stage := by
  unfold closeSession
  cases c.attached.session with
  | none => exact hstage
  | some session => exact Nat.le_refl _

/-- How an action can fail: an opening with nothing open, an action that is not supported, and a texture
for a preview without a device. -/
inductive Mishap (c : Controller σ δ τ) : Action → Failure → Prop
  | opening {action : Action} {failure : Failure} (hopening : action.opening?.isSome)
      (hstage : c.stage = .unopened) (hfatal : failure.isFatal = false) : Mishap c action failure
  | unsupported {action : Action} (hkind : action.kind.isSupported = false) :
      Mishap c action (.unsupported action.kind)
  | deviceless (texture : TextureId) (hstage : .configured ≤ c.stage)
      (hdevice : c.attached.device = none) :
      Mishap c (.setPreviewTexture texture) (.missing Part.device.name .setPreviewTexture)

theorem setPreviewTexture_layered {texture : TextureId} (h : c.Layered) :
    (c.setPreviewTexture texture).1.Layered := by
  unfold setPreviewTexture
  split_ifs with hstage
  · exact h
  · exact h
  · have hclosed : c.closeSession.Layered := closeSession_layered h (Stage.not_lt.mp hstage)
    dsimp only
    split
    · exact hclosed
    · exact hclosed
    · next size draft hsize hdraft =>
      have hbound : (c.closeSession.bindTexture texture size draft).1.Layered :=
        bindTexture_layered hclosed
      split <;> exact hbound

theorem setPreviewTexture_mishap {texture : TextureId} {failure : Failure} (h : c.Layered)
    (hfailure : (c.setPreviewTexture texture).2 = some failure) :
    Mishap c (.setPreviewTexture texture) failure := by
  unfold setPreviewTexture at hfailure
  split_ifs at hfailure with hstage htexture
  have hconfigured : .configured ≤ c.stage := Stage.not_lt.mp hstage
  have hclosed : c.closeSession.Layered := closeSession_layered h hconfigured
  have hstage : .configured ≤ c.closeSession.stage := closeSession_configured hconfigured
  obtain ⟨size, hsize⟩ := Option.isSome_iff_exists.mp (hclosed.previewSize hstage)
  obtain ⟨draft, hdraft⟩ :=
    Option.isSome_iff_exists.mp (hclosed.draft (Stage.le_trans (by decide) hstage))
  dsimp only at hfailure
  rw [hsize, hdraft] at hfailure
  dsimp only at hfailure
  rw [bindTexture_device, closeSession_device] at hfailure
  cases hdevice : c.attached.device with
  | none =>
    rw [hdevice] at hfailure
    cases hfailure
    exact .deviceless texture hconfigured hdevice
  | some device =>
    rw [hdevice] at hfailure
    cases hfailure

theorem openCamera_mishap {index : Nat} {callback : Tag} {failure : Failure}
    (hfailure : (c.openCamera index callback).2 = some failure) :
    c.stage = .unopened ∧ failure.isFatal = false := by
  unfold openCamera at hfailure
  split_ifs at hfailure with hstage
  refine ⟨not_not.mp hstage, ?_⟩
  dsimp only at hfailure
  split at hfailure
  · next unknown hunknown =>
    cases hfailure
    unfold Roster.deviceId at hunknown
    split at hunknown
    · cases hunknown
    · cases hunknown
      rfl
  · cases hfailure
  · obtain ⟨fault, -, hfault⟩ := Option.map_eq_some_iff.mp hfailure
    rw [← hfault]
    rfl

theorem perform_layered {action : Action} (h : c.Layered) : (c.perform action).1.Layered := by
  cases action with
  | openCamera index callback => exact openCamera_layered h
  | reconnect index callback => exact openCamera_layered h
  | release => exact release_layered h
  | setPreviewTexture texture => exact setPreviewTexture_layered h
  | startPreview callback => exact (startPreview_layered h).1
  | stopPreview => exact (stopPreview_layered h).1
  | applySettings settings => exact (applySettings_layered h).1
  | autoFocus callback => exact (autoFocus_layered h).1
  | cancelAutoFocus => exact (cancelAutoFocus_layered h).1
  | setMoveCallback callback => exact { h with }
  | _ => exact h

theorem perform_mishap {action : Action} {failure : Failure} (h : c.Layered)
    (hfailure : (c.perform action).2 = some failure) : Mishap c action failure := by
  cases action with
  | openCamera index callback =>
    obtain ⟨hstage, hfatal⟩ := openCamera_mishap hfailure
    exact .opening rfl hstage hfatal
  | reconnect index callback =>
    obtain ⟨hstage, hfatal⟩ := openCamera_mishap hfailure
    exact .opening rfl hstage hfatal
  | setPreviewTexture texture => exact setPreviewTexture_mishap h hfailure
  | startPreview callback => exact absurd hfailure (by simp [perform, (startPreview_layered h).2])
  | stopPreview => exact absurd hfailure (by simp [perform, (stopPreview_layered h).2])
  | applySettings settings => exact absurd hfailure (by simp [perform, (applySettings_layered h).2])
  | autoFocus callback => exact absurd hfailure (by simp [perform, (autoFocus_layered h).2])
  | cancelAutoFocus => exact absurd hfailure (by simp [perform, (cancelAutoFocus_layered h).2])
  | release => cases hfailure
  | setMoveCallback callback => cases hfailure
  | querySettings reply => cases hfailure
  | lock | unlock | capturePhoto | setDisplayOrientation degrees | startFaceDetection
  | stopFaceDetection =>
    cases hfailure
    exact .unsupported rfl

theorem failure_mishap {action : Action} {failure : Failure} (h : c.Layered)
    (hfailure : c.failure? (.action action) = some failure) : Mishap c action failure := by
  have hrecorded : (c.record action.kind).Layered := h
  cases perform_mishap hrecorded hfailure with
  | opening hopening hstage hfatal => exact .opening hopening hstage hfatal
  | unsupported hkind => exact .unsupported hkind
  | deviceless texture hstage hdevice => exact .deviceless texture hstage hdevice

/-- An action that is not supported fails, whatever the controller is doing. -/
theorem failure_unsupported {message : Message δ τ} (hkind : message.isSupported = false) :
    (c.failure? message).isSome := by
  cases message with
  | action action => cases action <;> first | rfl | cases hkind
  | _ => cases hkind

theorem recover_layered {kind : Action.Kind} {failure : Failure} (h : c.Layered) :
    (c.recover kind failure).Layered := by
  have htidy : (c.countFailure.tidy kind).Layered := by
    unfold tidy
    split_ifs
    · exact h
    · exact closeDevice_layered (c := c.countFailure) h
    · exact reportTo_layered (c := c.countFailure) h
    · exact h
  rw [recover_eq]
  split_ifs
  · unfold raise
    split <;> exact htidy
  · exact htidy

theorem act_layered {action : Action} (h : c.Layered) : (c.act action).Layered := by
  have hperformed : ((c.record action.kind).perform action).1.Layered := perform_layered h
  unfold act
  split
  · next c' heq => rwa [heq] at hperformed
  · next c' failure heq =>
    rw [heq] at hperformed
    exact recover_layered hperformed

theorem notice_layered {event : Event δ τ} (h : c.Layered) : (c.notice event).Layered := by
  have hcounted : c.countEvent.Layered := h
  cases event with
  | opened device => exact onOpened_layered hcounted
  | disconnected => exact hcounted
  | deviceError code => exact reportTo_layered hcounted
  | configured session => exact onConfigured_layered hcounted
  | configureFailed => exact hcounted
  | active => exact onActive_layered hcounted
  | completed listener frame lens => exact onCompleted_layered hcounted
  | captureFailed listener frame reason => exact onCaptureFailed_layered hcounted

theorem shutDown_layered (h : c.Layered) : c.shutDown.Layered := by
  unfold shutDown
  dsimp only
  split_ifs
  · exact h
  · exact release_layered h

theorem handle_layered {message : Message δ τ} (h : c.Layered) : (c.handle message).Layered := by
  cases message with
  | action action => exact act_layered h
  | hardware event => exact notice_layered h
  | barrier ticket => exact h
  | shutdown => exact shutDown_layered h

end Controller

end CameraControl
