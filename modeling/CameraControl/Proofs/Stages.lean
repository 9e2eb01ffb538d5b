import CameraControl.Proofs.Layers

/-!
What stages have to do with messages: in which ones an action is let in, and into which ones a message can
take the camera. An action that is let in is not rejected, whatever else becomes of it; one that is not is
rejected and has no other effect than to tell its opener so. This holds of every controller.
-/
namespace CameraControl

namespace Action

/-- The stages in which the action is let in. -/
def Suits : Action → Stage → Prop
  | openCamera _ _, stage | reconnect _ _, stage => stage = .unopened
  | release, stage | applySettings _, stage => stage ≠ .unopened
  | setPreviewTexture _, stage => .configured ≤ stage
  | startPreview _, stage => stage = .previewReady
  | stopPreview, stage | autoFocus _, stage | cancelAutoFocus, stage => .previewActive ≤ stage
  | _, _ => True

instance : (action : Action) → (stage : Stage) → Decidable (action.Suits stage)
  | openCamera _ _, stage | reconnect _ _, stage => inferInstanceAs (Decidable (stage = .unopened))
  | release, stage | applySettings _, stage => inferInstanceAs (Decidable (stage ≠ .unopened))
  | setPreviewTexture _, stage => inferInstanceAs (Decidable (.configured ≤ stage))
  | startPreview _, stage => inferInstanceAs (Decidable (stage = .previewReady))
  | stopPreview, stage | autoFocus _, stage | cancelAutoFocus, stage =>
    inferInstanceAs (Decidable (.previewActive ≤ stage))
  | setMoveCallback _, _ | querySettings _, _ | lock, _ | unlock, _ | capturePhoto, _
  | setDisplayOrientation _, _ | startFaceDetection, _ | stopFaceDetection, _ => isTrue trivial

/-- The stages to which the action can take the camera from one in which it is let in. -/
def targets : Action → Stage → List Stage
  | release, _ => [.unopened]
  | setPreviewTexture _, _ => [.configured]
  | startPreview _, _ => [.previewActive]
  | stopPreview, _ => [.previewReady]
  | applySettings _, stage => if stage < .previewReady then [.configured] else []
  | autoFocus _, _ | cancelAutoFocus, _ => [.previewActive, .focusLocked]
  | _, _ => []

end Action

def Message.configured? {δ τ : Type} : Message δ τ → Option τ
  | hardware (.configured session) => some session
  | _ => none

/-- The stages to which the message can take the camera from another one. -/
def Message.targets {δ τ : Type} : Message δ τ → Stage → List Stage
  | action a, stage => if a.Suits stage then a.targets stage else []
  | hardware (.opened _), _ => [.unconfigured]
  | hardware (.configured _), stage => if stage < .configured then [] else [.previewReady]
  | hardware _, _ => []
  | barrier _, _ => []
  | shutdown, _ => [.unopened]

namespace Controller

variable {σ δ τ : Type}

/-- Nothing was rejected, and the camera is in a stage that is as before or one of these. -/
structure Turns (c : Controller σ δ τ) (targets : List Stage) (c' : Controller σ δ τ) : Prop where
  stage : c'.stage = c.stage ∨ c'.stage ∈ targets
  rejected : c'.tally.rejected = c.tally.rejected

variable {c c' c'' : Controller σ δ τ} {targets : List Stage}

theorem Turns.same (hcell : c'.cell = c.cell) (hrejected : c'.tally.rejected = c.tally.rejected) :
    c.Turns targets c' := ⟨Or.inl (congrArg Stage.Cell.stage hcell), hrejected⟩

theorem Turns.refl (c : Controller σ δ τ) : c.Turns targets c := .same rfl rfl

theorem Turns.trans (h : c.Turns [] c') (h' : c'.Turns targets c'') : c.Turns targets c'' := by
  have hstage : c'.stage = c.stage := by simpa using h.stage
  refine ⟨?_, h'.rejected.trans h.rejected⟩
  rw [← hstage]
  exact h'.stage

/-- What comes later has no bearing on the stage. -/
theorem Turns.still (h : c.Turns targets c') (h' : c'.Turns [] c'') : c.Turns targets c'' := by
  have hstage : c''.stage = c'.stage := by simpa using h'.stage
  refine ⟨?_, h'.rejected.trans h.rejected⟩
  rw [hstage]
  exact h.stage

theorem Turns.enter {stage : Stage} (hrejected : c'.tally.rejected = c.tally.rejected)
    (hstage : stage = c.stage ∨ stage ∈ targets) : c.Turns targets (c'.enter stage) :=
  ⟨hstage, hrejected⟩

theorem Turns.attach (h : c.Turns targets c') (attached : Attachment δ τ) :
    c.Turns targets (c'.attach attached) := h.still (.same rfl rfl)

theorem Turns.reportTo (h : c.Turns targets c') (callback : Option Tag) (r : Tag → Report) :
    c.Turns targets (c'.reportTo callback r) := by
  refine h.still ?_
  cases callback <;> exact .same rfl rfl

theorem Turns.reportFocus (h : c.Turns targets c') (callback : Option Tag) (sharp : Bool) :
    c.Turns targets (c'.reportFocus callback sharp) := by
  refine h.still ?_
  unfold Controller.reportFocus
  split <;> exact .same rfl rfl

theorem onActive_turns : c.Turns [] c.onActive := ((Turns.refl c).attach _).reportTo _ _

theorem onTriggered_turns : c.Turns [] c.onTriggered := by
  unfold onTriggered
  split <;> exact .same rfl rfl

theorem onTriggerFailed_turns : c.Turns [] c.onTriggerFailed :=
  ((Turns.refl c).attach _).reportFocus _ _

theorem onLens_turns (lens : Lens) : c.Turns [] (c.onLens lens) := by
  have hseen : c.Turns [] { c with lastLens := some lens } := .same rfl rfl
  unfold onLens
  dsimp only
  split
  · exact hseen
  · split_ifs
    · exact hseen.reportTo _ _
    · exact hseen
    · exact (hseen.attach _).reportTo _ _
    · exact hseen

theorem onCompleted_turns (listener : Listener) (lens : Option Lens) :
    c.Turns [] (c.onCompleted listener lens) := by
  unfold onCompleted
  split
  · exact onLens_turns _
  · exact .refl c
  · exact onTriggered_turns
  · exact .refl c

theorem onCaptureFailed_turns (listener : Listener) : c.Turns [] (c.onCaptureFailed listener) := by
  unfold onCaptureFailed
  split
  · exact onTriggerFailed_turns
  · exact .refl c
  · exact .refl c

theorem raise_turns (failure : Failure) : c.Turns [] (c.raise failure) := by
  unfold raise
  split <;> exact .same rfl rfl

theorem releaseSurface_turns : c.Turns [] c.releaseSurface := by
  unfold releaseSurface
  split <;> exact .same rfl rfl

theorem bindTexture_turns (texture : TextureId) (size : Size) (draft : Draft) :
    c.Turns [] (c.bindTexture texture size draft).1 := by
  have hresized : c.Turns [] { c with canvas := c.canvas.resize texture size } := .same rfl rfl
  have hreleased := hresized.trans releaseSurface_turns
  exact hreleased.trans (.same rfl rfl)

variable [Subsystem σ δ τ]

theorem Turns.of_call {q : Call δ τ} {fault : Option Fault} (hcall : c.call q = (c', fault)) :
    c.Turns [] c' := by
  have hsame : c.Turns [] (c.call q).1 := .same rfl rfl
  rwa [hcall] at hsame

theorem closeDevice_turns : c.Turns [] c.closeDevice := by
  unfold closeDevice
  split <;> exact .same rfl rfl

theorem closeSession_turns : c.Turns [.configured] c.closeSession := by
  unfold closeSession
  split
  · exact .enter rfl (Or.inr (List.mem_singleton_self _))
  · exact .refl c

theorem openCamera_turns (index : Nat) (callback : Tag) (hstage : c.stage = .unopened) :
    c.Turns [] (c.openCamera index callback).1 := by
  rw [openCamera_unopened hstage]
  split <;> exact .same rfl rfl

theorem onOpened_turns (device : δ) : c.Turns [.unconfigured] (c.onOpened device) := by
  have hpopulate : c.Turns [] (c.populate device).1 := by
    unfold populate
    split
    · exact .refl c
    · split <;> exact .same rfl rfl
  unfold onOpened
  split
  · exact .same rfl rfl
  · split
    · next c' camera hpopulated =>
      rw [hpopulated] at hpopulate
      exact ⟨Or.inr (List.mem_singleton_self _), hpopulate.rejected⟩
    · next c' fault hpopulated =>
      rw [hpopulated] at hpopulate
      exact hpopulate.trans (.same rfl rfl)

theorem release_turns (hstage : c.stage ≠ .unopened) : c.Turns [.unopened] c.release := by
  have hclosed : c.closeSession.closeDevice.releaseSurface.tally.rejected = c.tally.rejected :=
    releaseSurface_turns.rejected.trans
      (closeDevice_turns.rejected.trans closeSession_turns.rejected)
  unfold release
  rw [if_neg hstage]
  exact ⟨Or.inr (List.mem_singleton_self _), hclosed⟩

theorem setPreviewTexture_turns (texture : TextureId) (hstage : .configured ≤ c.stage) :
    c.Turns [.configured] (c.setPreviewTexture texture).1 := by
  unfold setPreviewTexture
  rw [if_neg (Stage.not_lt.mpr hstage)]
  split_ifs
  · exact .refl c
  · have hclosed : c.Turns [.configured] c.closeSession := closeSession_turns
    dsimp only
    split
    · exact hclosed
    · exact hclosed
    · next size draft hsize hdraft =>
      have hbound := hclosed.still (bindTexture_turns texture size draft)
      split
      · exact hbound
      · exact hbound.still (.same rfl rfl)

theorem onConfigured_turns (session : τ) :
    c.Turns (if c.stage < .configured then [] else [.previewReady]) (c.onConfigured session) := by
  unfold onConfigured
  split_ifs
  · exact .same rfl rfl
  · exact .enter rfl (Or.inr (List.mem_singleton_self _))

theorem startPreview_turns (callback : Option Tag) (hstage : c.stage = .previewReady) :
    c.Turns [.previewActive] (c.startPreview callback).1 := by
  unfold startPreview
  rw [if_neg (not_not_intro hstage)]
  split
  · exact .refl c
  · exact .refl c
  · have hentered : c.Turns [.previewActive] ((c.attach { c.attached with
      previewCallback := callback }).enter .previewActive) :=
      .enter rfl (Or.inr (List.mem_singleton_self _))
    dsimp only
    split
    · next c' hcall => exact hentered.still (.of_call hcall)
    · next c' fault hcall =>
      have hcalled := hentered.still (.of_call hcall)
      exact .enter hcalled.rejected (Or.inl hstage.symm)

theorem stopPreview_turns (hstage : .previewActive ≤ c.stage) :
    c.Turns [.previewReady] c.stopPreview.1 := by
  unfold stopPreview
  rw [if_neg (Stage.not_lt.mpr hstage)]
  split
  · exact .refl c
  · split
    · next c' hcall =>
      have hcalled : c.Turns [] c' := .of_call hcall
      exact .enter hcalled.rejected (Or.inr (List.mem_singleton_self _))
    · next c' fault hcall => exact (Turns.refl c).still (.of_call hcall)

theorem applySettings_turns (settings : Settings) (hstage : c.stage ≠ .unopened) :
    c.Turns (if c.stage < .previewReady then [.configured] else [])
      (c.applySettings settings).1 := by
  unfold applySettings
  rw [if_neg hstage]
  cases c.attached.activeArray with
  | none => exact .refl c
  | some array =>
    cases c.attached.draft with
    | none => exact .refl c
    | some draft =>
      have hkept (attached : Attachment δ τ) : (c.attach attached).stage = c.stage := rfl
      dsimp only
      simp only [hkept]
      by_cases hactive : .previewActive ≤ c.stage
      · have hready : ¬ c.stage < .previewReady :=
          Stage.not_lt.mpr (Stage.le_trans (by decide) hactive)
        rw [if_pos hactive, if_neg hready]
        split <;> exact .same rfl rfl
      · rw [if_neg hactive]
        by_cases hready : c.stage < .previewReady
        · rw [if_pos hready, if_pos hready]
          exact .enter rfl (Or.inr (List.mem_singleton_self _))
        · rw [if_neg hready, if_neg hready]
          exact .same rfl rfl

theorem submitTrigger_turns {session : τ} {draft : Draft} {trigger : Trigger} {listener : Listener}
    {fault : Option Fault} (h : c.Turns targets c')
    (hsubmit : c'.submitTrigger session draft trigger listener = (c'', fault)) :
    c.Turns targets c'' := (h.attach _).still (.of_call hsubmit)

theorem autoFocus_turns (callback : Option Tag) (hstage : .previewActive ≤ c.stage) :
    c.Turns [.previewActive, .focusLocked] (c.autoFocus callback).1 := by
  unfold autoFocus
  rw [if_neg (Stage.not_lt.mpr hstage)]
  split
  · exact .refl c
  · exact .refl c
  · have hentered : c.Turns [.previewActive, .focusLocked] (c.enter .focusLocked) :=
      .enter rfl (Or.inr (by simp))
    split
    · next c' hsubmit => exact (submitTrigger_turns hentered hsubmit).attach _
    · next c' fault hsubmit =>
      have hsubmitted := submitTrigger_turns hentered hsubmit
      have hfailed : c.Turns [.previewActive, .focusLocked] (c'.enter .previewActive) :=
        .enter hsubmitted.rejected (Or.inr (by simp))
      exact hfailed.reportFocus _ _

theorem cancelAutoFocus_turns (hstage : .previewActive ≤ c.stage) :
    c.Turns [.previewActive, .focusLocked] c.cancelAutoFocus.1 := by
  unfold cancelAutoFocus
  rw [if_neg (Stage.not_lt.mpr hstage)]
  split
  · exact .refl c
  · exact .refl c
  · have hentered : c.Turns [.previewActive, .focusLocked] (c.enter .previewActive) :=
      .enter rfl (Or.inr (by simp))
    split
    · next c' hsubmit => exact submitTrigger_turns hentered hsubmit
    · next c' fault hsubmit =>
      have hsubmitted := submitTrigger_turns hentered hsubmit
      exact .enter hsubmitted.rejected (Or.inr (by simp))

/-- An action that is let in is not rejected. -/
theorem perform_turns {action : Action} (hsuits : action.Suits c.stage) :
    c.Turns (action.targets c.stage) (c.perform action).1 := by
  cases action with
  | openCamera index callback => exact openCamera_turns index callback hsuits
  | reconnect index callback => exact openCamera_turns index callback hsuits
  | release => exact release_turns hsuits
  | setPreviewTexture texture => exact setPreviewTexture_turns texture hsuits
  | startPreview callback => exact startPreview_turns callback hsuits
  | stopPreview => exact stopPreview_turns hsuits
  | applySettings settings => exact applySettings_turns settings hsuits
  | autoFocus callback => exact autoFocus_turns callback hsuits
  | cancelAutoFocus => exact cancelAutoFocus_turns hsuits
  | _ => exact .same rfl rfl

/-- Drops the action, which only an opener is told. -/
def refuse (c : Controller σ δ τ) (action : Action) : Controller σ δ τ :=
  match action.opening? with
  | some (index, callback) =>
    c.reject.report (.alreadyOpen callback index (c.history.describe index))
  | none => c.reject

theorem perform_refused {action : Action} (hsuits : ¬ action.Suits c.stage) :
    c.perform action = (c.refuse action, none) := by
  cases action with
  | openCamera index callback => exact if_pos hsuits
  | reconnect index callback => exact if_pos hsuits
  | release => exact congrArg (·, none) (if_pos (not_not.mp hsuits))
  | applySettings settings => exact if_pos (not_not.mp hsuits)
  | setPreviewTexture texture => exact if_pos (Nat.lt_of_not_le hsuits)
  | startPreview callback => exact if_pos hsuits
  | stopPreview => exact if_pos (Nat.lt_of_not_le hsuits)
  | autoFocus callback => exact if_pos (Nat.lt_of_not_le hsuits)
  | cancelAutoFocus => exact if_pos (Nat.lt_of_not_le hsuits)
  | _ => exact absurd trivial hsuits

theorem tidy_turns (kind : Action.Kind) : c.Turns [] (c.tidy kind) := by
  unfold tidy
  split_ifs
  · exact .refl c
  · exact closeDevice_turns
  · exact (Turns.refl c).reportTo _ _
  · exact .refl c

theorem recover_turns (kind : Action.Kind) (failure : Failure) :
    c.Turns [] (c.recover kind failure) := by
  have hcounted : c.Turns [] c.countFailure := .same rfl rfl
  have htidied : c.Turns [] (c.countFailure.tidy kind) := hcounted.trans (tidy_turns kind)
  rw [recover_eq]
  split_ifs
  · exact htidied.trans (raise_turns failure)
  · exact htidied

theorem settle_turns (kind : Action.Kind) (result : Controller σ δ τ × Option Failure) :
    result.1.Turns [] (settle kind result) := by
  rcases result with ⟨c', _ | failure⟩
  · exact .refl c'
  · exact recover_turns kind failure

theorem act_suited {action : Action} (hsuits : action.Suits c.stage) :
    c.Turns (action.targets c.stage) (c.act action) := by
  have hrecorded : c.Turns [] (c.record action.kind) := .same rfl rfl
  have hperformed : (c.record action.kind).Turns (action.targets c.stage) _ := perform_turns hsuits
  rw [act_eq]
  exact (hrecorded.trans hperformed).still (settle_turns _ _)

theorem act_refused {action : Action} (hsuits : ¬ action.Suits c.stage) :
    c.act action = (c.record action.kind).refuse action := by
  have hrecorded : ¬ action.Suits (c.record action.kind).stage := hsuits
  rw [act_eq, perform_refused hrecorded]
  rfl

/-- An action is rejected exactly if the stage does not suit it. -/
theorem act_rejected (action : Action) : (c.act action).tally.rejected =
    c.tally.rejected + if action.Suits c.stage then 0 else 1 := by
  by_cases hsuits : action.Suits c.stage
  · rw [if_pos hsuits]
    exact (act_suited hsuits).rejected
  · rw [if_neg hsuits, act_refused hsuits]
    unfold refuse
    split <;> rfl

theorem notice_turns (event : Event δ τ) :
    c.Turns ((Message.hardware event).targets c.stage) (c.notice event) := by
  have hcounted : c.Turns [] c.countEvent := .same rfl rfl
  cases event with
  | opened device => exact hcounted.trans (onOpened_turns device)
  | deviceError code => exact hcounted.reportTo _ _
  | configured session => exact hcounted.trans (onConfigured_turns session)
  | active => exact hcounted.trans onActive_turns
  | completed listener frame lens => exact hcounted.trans (onCompleted_turns listener lens)
  | captureFailed listener frame reason => exact hcounted.trans (onCaptureFailed_turns listener)
  | _ => exact hcounted

/-- A message takes the camera to one of its targets, if it takes it anywhere. -/
theorem handle_stage (c : Controller σ δ τ) (message : Message δ τ) :
    (c.handle message).stage = c.stage ∨ (c.handle message).stage ∈ message.targets c.stage := by
  cases message with
  | action action =>
    by_cases hsuits : action.Suits c.stage
    · have htargets : (Message.action (δ := δ) (τ := τ) action).targets c.stage =
        action.targets c.stage := if_pos hsuits
      rw [htargets]
      exact (act_suited hsuits).stage
    · left
      show (c.act action).stage = c.stage
      rw [act_refused hsuits]
      unfold refuse
      split <;> rfl
  | hardware event => exact (notice_turns event).stage
  | barrier ticket => exact Or.inl rfl
  | shutdown =>
    show c.shutDown.stage = c.stage ∨ c.shutDown.stage ∈ [Stage.unopened]
    unfold shutDown
    dsimp only
    split_ifs with hstage
    · exact Or.inl rfl
    · exact (release_turns hstage).stage

end Controller

end CameraControl
