import Mathlib.Tactic.SplitIfs
import CameraControl.Proofs.Primitives

/-!
What the other threads can rely on while a message is handled. The mailbox only takes up events of the
hardware, at its end; the stage cell stays as valid as it was; and no barrier is acknowledged but the one
that is handled. This holds of every controller, however its stage came about.
-/
namespace CameraControl

namespace Message

variable {δ τ : Type}

def action? : Message δ τ → Option Action
  | action a => some a
  | _ => none

def barrier? : Message δ τ → Option Ticket
  | barrier ticket => some ticket
  | _ => none

theorem eq_of_action? {message : Message δ τ} {a : Action} (h : message.action? = some a) :
    message = .action a := by
  cases message <;> cases h
  rfl

theorem eq_of_barrier? {message : Message δ τ} {ticket : Ticket} (h : message.barrier? = some ticket) :
    message = .barrier ticket := by
  cases message <;> cases h
  rfl

/-- The hardware asks for nothing. -/
theorem filterMap_action_hardware (events : List (Event δ τ)) :
    (events.map hardware).filterMap action? = [] := by
  rw [List.filterMap_map]
  exact List.filterMap_eq_nil_iff.mpr fun event _ => rfl

theorem filterMap_barrier_hardware (events : List (Event δ τ)) :
    (events.map hardware).filterMap barrier? = [] := by
  rw [List.filterMap_map]
  exact List.filterMap_eq_nil_iff.mpr fun event _ => rfl

end Message

namespace Controller

variable {σ δ τ : Type}

/-- Events of the hardware may have joined the mailbox. -/
structure Adds (c c' : Controller σ δ τ) : Prop where
  mailbox : ∃ events : List (Event δ τ), c'.mailbox = c.mailbox ++ events.map .hardware
  invalid : c'.cell.invalid = c.cell.invalid
  acknowledged : c'.acknowledged = c.acknowledged

variable {c c' c'' : Controller σ δ τ}

theorem Adds.same (hmailbox : c'.mailbox = c.mailbox) (hinvalid : c'.cell.invalid = c.cell.invalid)
    (hacknowledged : c'.acknowledged = c.acknowledged) : c.Adds c' :=
  ⟨⟨[], hmailbox.trans (List.append_nil _).symm⟩, hinvalid, hacknowledged⟩

theorem Adds.refl (c : Controller σ δ τ) : c.Adds c := .same rfl rfl rfl

theorem Adds.trans (h : c.Adds c') (h' : c'.Adds c'') : c.Adds c'' := by
  obtain ⟨events, hevents⟩ := h.mailbox
  obtain ⟨more, hmore⟩ := h'.mailbox
  refine ⟨⟨events ++ more, ?_⟩, h'.invalid.trans h.invalid, h'.acknowledged.trans h.acknowledged⟩
  rw [hmore, hevents, List.map_append, List.append_assoc]

theorem Adds.enter (h : c.Adds c') (stage : Stage) : c.Adds (c'.enter stage) :=
  h.trans (.same rfl rfl rfl)

theorem Adds.attach (h : c.Adds c') (attached : Attachment δ τ) : c.Adds (c'.attach attached) :=
  h.trans (.same rfl rfl rfl)

theorem Adds.report (h : c.Adds c') (r : Report) : c.Adds (c'.report r) :=
  h.trans (.same rfl rfl rfl)

theorem Adds.reportTo (h : c.Adds c') (callback : Option Tag) (r : Tag → Report) :
    c.Adds (c'.reportTo callback r) := by
  cases callback with
  | none => exact h
  | some tag => exact h.report (r tag)

theorem Adds.reportFocus (h : c.Adds c') (callback : Option Tag) (sharp : Bool) :
    c.Adds (c'.reportFocus callback sharp) := by
  unfold Controller.reportFocus
  split
  · exact h.report _
  · exact h

theorem onActive_adds : c.Adds c.onActive := ((Adds.refl c).attach _).reportTo _ _

theorem onTriggered_adds : c.Adds c.onTriggered := by
  unfold onTriggered
  split
  · exact (Adds.refl c).attach _
  · exact .refl c

theorem onTriggerFailed_adds : c.Adds c.onTriggerFailed :=
  ((Adds.refl c).attach _).reportFocus _ _

theorem onLens_adds (lens : Lens) : c.Adds (c.onLens lens) := by
  have hseen : c.Adds { c with lastLens := some lens } := .same rfl rfl rfl
  unfold onLens
  dsimp only
  split
  · exact hseen
  · split_ifs
    · exact hseen.reportTo _ _
    · exact hseen
    · exact (hseen.attach _).reportTo _ _
    · exact hseen

theorem onCompleted_adds (listener : Listener) (lens : Option Lens) :
    c.Adds (c.onCompleted listener lens) := by
  unfold onCompleted
  split
  · exact onLens_adds _
  · exact .refl c
  · exact onTriggered_adds
  · exact .refl c

theorem onCaptureFailed_adds (listener : Listener) : c.Adds (c.onCaptureFailed listener) := by
  unfold onCaptureFailed
  split
  · exact onTriggerFailed_adds
  · exact .refl c
  · exact .refl c

theorem raise_adds (failure : Failure) : c.Adds (c.raise failure) := by
  unfold raise
  split
  · exact (Adds.refl c).report _
  · exact .same rfl rfl rfl

theorem releaseSurface_adds : c.Adds c.releaseSurface := by
  unfold releaseSurface
  split <;> exact .same rfl rfl rfl

theorem bindTexture_adds (texture : TextureId) (size : Size) (draft : Draft) :
    c.Adds (c.bindTexture texture size draft).1 := by
  have hresized : c.Adds { c with canvas := c.canvas.resize texture size } := .same rfl rfl rfl
  have hreleased := hresized.trans releaseSurface_adds
  exact hreleased.trans (.same rfl rfl rfl)

variable [Subsystem σ δ τ]

theorem Adds.call (h : c.Adds c') (q : Call δ τ) : c.Adds (c'.call q).1 :=
  h.trans ⟨⟨_, rfl⟩, rfl, rfl⟩

theorem Adds.of_call {q : Call δ τ} {fault : Option Fault} (h : c.Adds c')
    (hcall : c'.call q = (c'', fault)) : c.Adds c'' := by
  have hadds := h.call q
  rwa [hcall] at hadds

theorem Adds.closeDevice (h : c.Adds c') : c.Adds c'.closeDevice := by
  unfold Controller.closeDevice
  split
  · exact (h.attach _).call _
  · exact h

theorem Adds.closeSession (h : c.Adds c') : c.Adds c'.closeSession := by
  unfold Controller.closeSession
  split
  · exact ((h.attach _).call _).enter _
  · exact h

theorem openCamera_adds (index : Nat) (callback : Tag) : c.Adds (c.openCamera index callback).1 := by
  have hawaiting (id : Option DeviceId) : c.Adds (c.awaiting index callback id) := .same rfl rfl rfl
  by_cases hstage : c.stage = .unopened
  · rw [openCamera_unopened hstage]
    split
    · exact hawaiting none
    · exact (hawaiting none).report _
    · next id hid => exact (hawaiting (some id)).call _
  · unfold openCamera
    rw [if_pos hstage]
    exact .same rfl rfl rfl

theorem populate_adds (device : δ) : c.Adds (c.populate device).1 := by
  unfold populate
  split
  · exact .refl c
  · split <;> exact .same rfl rfl rfl

theorem onOpened_adds (device : δ) : c.Adds (c.onOpened device) := by
  have hpopulate : c.Adds (c.populate device).1 := populate_adds device
  unfold onOpened
  split
  · exact (Adds.refl c).call _
  · split
    · next c' camera hpopulated =>
      rw [hpopulated] at hpopulate
      exact ((hpopulate.attach _).enter _).report _
    · next c' fault hpopulated =>
      rw [hpopulated] at hpopulate
      exact (hpopulate.call _).report _

theorem release_adds : c.Adds c.release := by
  unfold release
  split_ifs
  · exact .same rfl rfl rfl
  · have hreleased : c.Adds c.closeSession.closeDevice.releaseSurface :=
      (Adds.refl c).closeSession.closeDevice.trans releaseSurface_adds
    exact hreleased.trans (.same rfl rfl rfl)

theorem setPreviewTexture_adds (texture : TextureId) : c.Adds (c.setPreviewTexture texture).1 := by
  unfold setPreviewTexture
  split_ifs
  · exact .same rfl rfl rfl
  · exact .refl c
  · have hclosed : c.Adds c.closeSession := (Adds.refl c).closeSession
    dsimp only
    split
    · exact hclosed
    · exact hclosed
    · next size draft hsize hdraft =>
      have hbound := hclosed.trans (bindTexture_adds texture size draft)
      split
      · exact hbound
      · exact hbound.call _

theorem onConfigured_adds (session : τ) : c.Adds (c.onConfigured session) := by
  unfold onConfigured
  split_ifs
  · exact (Adds.refl c).call _
  · exact ((Adds.refl c).attach _).enter _

theorem startPreview_adds (callback : Option Tag) : c.Adds (c.startPreview callback).1 := by
  unfold startPreview
  split_ifs
  · exact .same rfl rfl rfl
  · split
    · exact .refl c
    · exact .refl c
    · have hentered : c.Adds ((c.attach { c.attached with previewCallback := callback }).enter
        .previewActive) := ((Adds.refl c).attach _).enter _
      dsimp only
      split
      · next c' hcall => exact hentered.of_call hcall
      · next c' fault hcall => exact ((hentered.of_call hcall).attach _).enter _

theorem stopPreview_adds : c.Adds c.stopPreview.1 := by
  unfold stopPreview
  split_ifs
  · exact .same rfl rfl rfl
  · split
    · exact .refl c
    · split
      · next c' hcall => exact ((Adds.refl c).of_call hcall).enter _
      · next c' fault hcall => exact (Adds.refl c).of_call hcall

theorem applySettings_adds (settings : Settings) : c.Adds (c.applySettings settings).1 := by
  unfold applySettings
  split_ifs
  · exact .same rfl rfl rfl
  · split
    · exact .refl c
    · exact .refl c
    · next array draft harray hdraft =>
      have happlied := (Adds.refl c).attach { c.attached with
        previewSize := some settings.preview
        draft := some (draft.merge settings array)
        settings := some settings }
      dsimp only
      split_ifs
      · split
        · exact happlied
        · exact happlied.call _
      · exact happlied.enter _
      · exact happlied

theorem submitTrigger_adds {session : τ} {draft : Draft} {trigger : Trigger} {listener : Listener}
    {fault : Option Fault} (h : c.Adds c')
    (hsubmit : c'.submitTrigger session draft trigger listener = (c'', fault)) : c.Adds c'' :=
  (h.attach _).of_call hsubmit

theorem autoFocus_adds (callback : Option Tag) : c.Adds (c.autoFocus callback).1 := by
  unfold autoFocus
  split_ifs
  · exact .same rfl rfl rfl
  · split
    · exact .refl c
    · exact .refl c
    · have hentered := (Adds.refl c).enter .focusLocked
      split
      · next c' hsubmit => exact (submitTrigger_adds hentered hsubmit).attach _
      · next c' fault hsubmit =>
        exact ((submitTrigger_adds hentered hsubmit).enter _).reportFocus _ _

theorem cancelAutoFocus_adds : c.Adds c.cancelAutoFocus.1 := by
  unfold cancelAutoFocus
  split_ifs
  · exact .same rfl rfl rfl
  · split
    · exact .refl c
    · exact .refl c
    · have hentered := (Adds.refl c).enter .previewActive
      split
      · next c' hsubmit => exact submitTrigger_adds hentered hsubmit
      · next c' fault hsubmit => exact (submitTrigger_adds hentered hsubmit).enter _

theorem perform_adds (action : Action) : c.Adds (c.perform action).1 := by
  cases action with
  | openCamera index callback => exact openCamera_adds index callback
  | reconnect index callback => exact openCamera_adds index callback
  | release => exact release_adds
  | setPreviewTexture texture => exact setPreviewTexture_adds texture
  | startPreview callback => exact startPreview_adds callback
  | stopPreview => exact stopPreview_adds
  | applySettings settings => exact applySettings_adds settings
  | autoFocus callback => exact autoFocus_adds callback
  | cancelAutoFocus => exact cancelAutoFocus_adds
  | _ => exact .same rfl rfl rfl

theorem tidy_adds (kind : Action.Kind) : c.Adds (c.tidy kind) := by
  unfold tidy
  split_ifs
  · exact .refl c
  · exact (Adds.refl c).closeDevice
  · exact (Adds.refl c).reportTo _ _
  · exact .refl c

theorem recover_adds (kind : Action.Kind) (failure : Failure) : c.Adds (c.recover kind failure) := by
  have hcounted : c.Adds c.countFailure := .same rfl rfl rfl
  have htidied : c.Adds (c.countFailure.tidy kind) := hcounted.trans (tidy_adds kind)
  rw [recover_eq]
  split_ifs
  · exact htidied.trans (raise_adds failure)
  · exact htidied

theorem act_adds (action : Action) : c.Adds (c.act action) := by
  have hrecorded : c.Adds (c.record action.kind) := .same rfl rfl rfl
  have hperformed := hrecorded.trans (perform_adds action)
  rw [act_eq]
  generalize (c.record action.kind).perform action = result at hperformed ⊢
  rcases result with ⟨c', _ | failure⟩
  · exact hperformed
  · exact hperformed.trans (recover_adds action.kind failure)

theorem notice_adds (event : Event δ τ) : c.Adds (c.notice event) := by
  have hcounted : c.Adds c.countEvent := .same rfl rfl rfl
  cases event with
  | opened device => exact hcounted.trans (onOpened_adds device)
  | deviceError code => exact hcounted.reportTo _ _
  | configured session => exact hcounted.trans (onConfigured_adds session)
  | active => exact hcounted.trans onActive_adds
  | completed listener frame lens => exact hcounted.trans (onCompleted_adds listener lens)
  | captureFailed listener frame reason => exact hcounted.trans (onCaptureFailed_adds listener)
  | _ => exact hcounted

theorem shutDown_adds : c.Adds c.shutDown := by
  unfold shutDown
  dsimp only
  split_ifs
  · exact .same rfl rfl rfl
  · exact release_adds.trans (.same rfl rfl rfl)

/-- Only events of the hardware join the mailbox while a message is handled. -/
theorem handle_mailbox (c : Controller σ δ τ) (message : Message δ τ) :
    ∃ events : List (Event δ τ), (c.handle message).mailbox = c.mailbox ++ events.map .hardware := by
  cases message with
  | action action => exact (act_adds action).mailbox
  | hardware event => exact (notice_adds event).mailbox
  | barrier ticket => exact ⟨[], (List.append_nil _).symm⟩
  | shutdown => exact shutDown_adds.mailbox

theorem handle_invalid (c : Controller σ δ τ) (message : Message δ τ) :
    (c.handle message).cell.invalid = c.cell.invalid := by
  cases message with
  | action action => exact (act_adds action).invalid
  | hardware event => exact (notice_adds event).invalid
  | barrier ticket => rfl
  | shutdown => exact shutDown_adds.invalid

theorem handle_acknowledged (c : Controller σ δ τ) (message : Message δ τ) :
    (c.handle message).acknowledged = c.acknowledged ++ message.barrier?.toList := by
  have hkept {c' : Controller σ δ τ} (h : c.Adds c') : c'.acknowledged = c.acknowledged ++ [] := by
    rw [h.acknowledged, List.append_nil]
  cases message with
  | action action => exact hkept (act_adds action)
  | hardware event => exact hkept (notice_adds event)
  | barrier ticket => rfl
  | shutdown => exact hkept shutDown_adds

end Controller

end CameraControl
