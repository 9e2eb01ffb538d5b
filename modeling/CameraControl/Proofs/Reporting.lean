import CameraControl.Proofs.Isolation

/-!
What a controller tells while it handles a message. Only a frame of the preview that shows the lens can have
movement reported, and only if a callback is registered, a camera is known, and the lens state is a passive one
that was not seen last. A report that shows the history shows it as it is once the message is recorded in it.
-/
namespace CameraControl

namespace Report

/-- What a report on movement says, and to whom. -/
def moved? : Report → Option (Tag × Bool)
  | moved callback moving _ => some (callback, moving)
  | _ => none

/-- The history that a report shows, with the index that it is about. -/
def info? : Report → Option (Nat × String)
  | openFailed _ index info | alreadyOpen _ index info => some (index, info)
  | _ => none

/-- If the report shows a history, it is this one. -/
def Shows (r : Report) (h : History) : Prop :=
  ∀ index info, r.info? = some (index, info) → info = h.describe index

/-- The report is not on movement, and shows at most this history. -/
structure Modest (r : Report) (h : History) : Prop where
  moved : r.moved? = none
  shows : r.Shows h

theorem shows_of_none {r : Report} {h : History} (hinfo : r.info? = none) : r.Shows h := by
  intro index info hsome
  cases hinfo.symm.trans hsome

theorem modest_of_none {r : Report} {h : History} (hmoved : r.moved? = none) (hinfo : r.info? = none) :
    r.Modest h :=
  ⟨hmoved, shows_of_none hinfo⟩

end Report

/-- What a callback is to be told of a lens state, if it is news after the one that was seen last. -/
def Lens.news (lens : Lens) (last : Option Lens) (callback : Option Tag) : Option (Tag × Bool) :=
  if lens.isPassive ∧ last ≠ some lens then callback.map (·, lens = .passiveScan) else none

/-- Who is registered to be told of movement: a callback, or no one. -/
def Action.registers? : Action → Option (Option Tag)
  | setMoveCallback callback => some callback
  | _ => none

namespace Message

variable {δ τ : Type}

/-- The lens state that a frame of the preview shows. -/
def lens? : Message δ τ → Option Lens
  | hardware event => event.lens?
  | _ => none

def registers? : Message δ τ → Option (Option Tag)
  | action a => a.registers?
  | _ => none

theorem eq_of_lens? {message : Message δ τ} {lens : Lens} (h : message.lens? = some lens) :
    ∃ frame, message = .hardware (.completed .lensState frame (some lens)) := by
  cases message with
  | hardware event =>
    cases event with
    | completed listener frame shown =>
      cases listener <;> cases h
      exact ⟨frame, rfl⟩
    | _ => cases h
  | _ => cases h

theorem eq_of_registers? {message : Message δ τ} {callback : Option Tag}
    (h : message.registers? = some callback) : message = .action (.setMoveCallback callback) := by
  cases message with
  | action a => cases a <;> cases h; rfl
  | _ => cases h

end Message

namespace Controller

variable {σ δ τ : Type}

/-- What was reported on movement so far. -/
def movements (c : Controller σ δ τ) : List (Tag × Bool) := c.reports.filterMap (·.report.moved?)

/-- This is reported on movement, and no history is shown but the one that stays as it is. -/
structure Tells (c : Controller σ δ τ) (moves : List (Tag × Bool)) (c' : Controller σ δ τ) : Prop where
  history : c'.history = c.history
  reports : ∃ new : List Reported, c'.reports = c.reports ++ new ∧
    new.filterMap (·.report.moved?) = moves ∧ ∀ r ∈ new, r.report.Shows c.history

/-- Nothing is reported on movement, and it stays the same what was seen of the lens and who is told of it. -/
structure Discreet (c c' : Controller σ δ τ) : Prop where
  history : c'.history = c.history
  lastLens : c'.lastLens = c.lastLens
  moveCallback : c'.attached.moveCallback = c.attached.moveCallback
  reports : ∃ new : List Reported, c'.reports = c.reports ++ new ∧
    ∀ r ∈ new, r.report.Modest c.history

namespace Discreet

variable {c c' c'' : Controller σ δ τ}

theorem same (hhistory : c'.history = c.history) (hlens : c'.lastLens = c.lastLens)
    (hcallback : c'.attached.moveCallback = c.attached.moveCallback)
    (hreports : c'.reports = c.reports) : c.Discreet c' :=
  ⟨hhistory, hlens, hcallback, [], hreports.trans (List.append_nil _).symm, List.forall_mem_nil _⟩

theorem refl (c : Controller σ δ τ) : c.Discreet c := .same rfl rfl rfl rfl

theorem trans (h : c.Discreet c') (h' : c'.Discreet c'') : c.Discreet c'' := by
  obtain ⟨new, hnew, hplain⟩ := h.reports
  obtain ⟨more, hmore, hplain'⟩ := h'.reports
  rw [h.history] at hplain'
  refine ⟨h'.history.trans h.history, h'.lastLens.trans h.lastLens,
    h'.moveCallback.trans h.moveCallback, new ++ more, ?_, ?_⟩
  · rw [hmore, hnew, List.append_assoc]
  · exact List.forall_mem_append.mpr ⟨hplain, hplain'⟩

theorem enter (h : c.Discreet c') (stage : Stage) : c.Discreet (c'.enter stage) :=
  h.trans (.same rfl rfl rfl rfl)

theorem attach (h : c.Discreet c') {attached : Attachment δ τ}
    (hcallback : attached.moveCallback = c'.attached.moveCallback) : c.Discreet (c'.attach attached) :=
  h.trans (.same rfl rfl hcallback rfl)

theorem report (h : c.Discreet c') {r : Report} (hr : r.Modest c'.history) : c.Discreet (c'.report r) :=
  h.trans ⟨rfl, rfl, rfl, [⟨r, c'.stage⟩], rfl, List.forall_mem_singleton.mpr hr⟩

theorem reportTo (h : c.Discreet c') (callback : Option Tag) {r : Tag → Report}
    (hr : ∀ tag, (r tag).Modest c'.history) : c.Discreet (c'.reportTo callback r) := by
  cases callback with
  | none => exact h
  | some tag => exact h.report (hr tag)

theorem reportFocus (h : c.Discreet c') (callback : Option Tag) (sharp : Bool) :
    c.Discreet (c'.reportFocus callback sharp) := by
  unfold Controller.reportFocus
  split
  · exact h.report (Report.modest_of_none rfl rfl)
  · exact h

theorem tells (h : c.Discreet c') : c.Tells [] c' := by
  obtain ⟨new, hnew, hplain⟩ := h.reports
  refine ⟨h.history, new, hnew, ?_, fun r hr => (hplain r hr).shows⟩
  exact List.filterMap_eq_nil_iff.mpr fun r hr => (hplain r hr).moved

end Discreet

variable {c c' c'' : Controller σ δ τ} {moves : List (Tag × Bool)}

theorem Tells.movements (h : c.Tells moves c') : c'.movements = c.movements ++ moves := by
  obtain ⟨new, hnew, hmoves, -⟩ := h.reports
  unfold Controller.movements
  rw [hnew, List.filterMap_append, hmoves]

/-- A failure to open shows the history. -/
theorem openFailed_modest (c : Controller σ δ τ) (callback : Tag) :
    (Report.openFailed callback c.attached.index c.info).Modest c.history := by
  refine ⟨rfl, ?_⟩
  rintro index info hinfo
  cases hinfo
  rfl

theorem onActive_discreet : c.Discreet c.onActive :=
  ((Discreet.refl c).attach (by rfl)).reportTo _ fun _ => Report.modest_of_none rfl rfl

theorem onDeviceError_discreet : c.Discreet c.onDeviceError :=
  (Discreet.refl c).reportTo _ c.openFailed_modest

theorem onTriggered_discreet : c.Discreet c.onTriggered := by
  unfold onTriggered
  split
  · exact (Discreet.refl c).attach (by rfl)
  · exact .refl c

theorem onTriggerFailed_discreet : c.Discreet c.onTriggerFailed :=
  ((Discreet.refl c).attach (by rfl)).reportFocus _ _

theorem onCaptureFailed_discreet (listener : Listener) : c.Discreet (c.onCaptureFailed listener) := by
  unfold onCaptureFailed
  split
  · exact onTriggerFailed_discreet
  · exact .refl c
  · exact .refl c

/-- A frame that shows the lens is reported if it is news for a callback, and if the camera is known. -/
theorem onLens_tells (lens : Lens) :
    c.Tells (c.attached.camera.bind fun _ => lens.news c.lastLens c.attached.moveCallback).toList
      (c.onLens lens) := by
  have hquiet {c' : Controller σ δ τ} (h : Discreet { c with lastLens := some lens } c') : c.Tells [] c' :=
    ⟨h.tells.history, h.tells.reports⟩
  unfold onLens Lens.news
  dsimp only
  cases c.attached.camera with
  | none => exact hquiet (.refl _)
  | some camera =>
    dsimp only [Option.bind_some]
    by_cases hpassive : lens.isPassive
    · by_cases hchanged : c.lastLens ≠ some lens
      · rw [if_pos hpassive, if_pos hchanged, if_pos ⟨hpassive, hchanged⟩]
        cases c.attached.moveCallback with
        | none => exact hquiet (.refl _)
        | some tag =>
          refine ⟨rfl, [⟨.moved tag (lens = .passiveScan) camera, c.stage⟩], rfl, rfl, ?_⟩
          exact List.forall_mem_singleton.mpr (Report.shows_of_none rfl)
      · rw [if_pos hpassive, if_neg hchanged, if_neg fun h => hchanged h.2]
        exact hquiet (.refl _)
    · rw [if_neg hpassive, if_neg fun h => hpassive h.1]
      split_ifs
      · exact hquiet (((Discreet.refl _).attach (by rfl)).reportTo _ fun _ => Report.modest_of_none rfl rfl)
      · exact hquiet (.refl _)

theorem onLens_seen (lens : Lens) :
    (c.onLens lens).lastLens = some lens ∧
      (c.onLens lens).attached.moveCallback = c.attached.moveCallback := by
  unfold onLens
  dsimp only
  split
  · exact ⟨rfl, rfl⟩
  · split_ifs
    · cases hcallback : c.attached.moveCallback <;> exact ⟨rfl, hcallback⟩
    · exact ⟨rfl, rfl⟩
    · cases c.attached.armedFocus <;> exact ⟨rfl, rfl⟩
    · exact ⟨rfl, rfl⟩

theorem raise_discreet (failure : Failure) : c.Discreet (c.raise failure) := by
  unfold raise
  split
  · exact (Discreet.refl c).report (Report.modest_of_none rfl rfl)
  · exact .same rfl rfl rfl rfl

theorem releaseSurface_discreet : c.Discreet c.releaseSurface := by
  unfold releaseSurface
  split <;> exact .same rfl rfl rfl rfl

theorem bindTexture_discreet (texture : TextureId) (size : Size) (draft : Draft) :
    c.Discreet (c.bindTexture texture size draft).1 := by
  have hresized : c.Discreet { c with canvas := c.canvas.resize texture size } := .same rfl rfl rfl rfl
  exact (hresized.trans releaseSurface_discreet).trans (.same rfl rfl rfl rfl)

variable [Subsystem σ δ τ]

theorem Discreet.call (h : c.Discreet c') (q : Call δ τ) : c.Discreet (c'.call q).1 :=
  h.trans (.same rfl rfl rfl rfl)

theorem Discreet.of_call {q : Call δ τ} {fault : Option Fault} (h : c.Discreet c')
    (hcall : c'.call q = (c'', fault)) : c.Discreet c'' := by
  have hcalled := h.call q
  rwa [hcall] at hcalled

theorem Discreet.closeDevice (h : c.Discreet c') : c.Discreet c'.closeDevice := by
  unfold Controller.closeDevice
  split
  · exact (h.attach (by rfl)).call _
  · exact h

theorem Discreet.closeSession (h : c.Discreet c') : c.Discreet c'.closeSession := by
  unfold Controller.closeSession
  split
  · exact ((h.attach (by rfl)).call _).enter _
  · exact h

theorem openCamera_discreet (index : Nat) (callback : Tag) :
    c.Discreet (c.openCamera index callback).1 := by
  have hawaiting (id : Option DeviceId) : c.Discreet (c.awaiting index callback id) :=
    .same rfl rfl rfl rfl
  by_cases hstage : c.stage = .unopened
  · rw [openCamera_unopened hstage]
    split
    · exact hawaiting none
    · exact (hawaiting none).report (Report.modest_of_none rfl rfl)
    · next id hid => exact (hawaiting (some id)).call _
  · have hrejected : c.Discreet c.reject := .same rfl rfl rfl rfl
    unfold openCamera
    rw [if_pos hstage]
    refine hrejected.report ⟨rfl, ?_⟩
    rintro index info hinfo
    cases hinfo
    rfl

theorem populate_discreet (device : δ) : c.Discreet (c.populate device).1 := by
  unfold populate
  split
  · exact .refl c
  · split <;> exact .same rfl rfl rfl rfl

theorem onOpened_discreet (device : δ) : c.Discreet (c.onOpened device) := by
  have hpopulate : c.Discreet (c.populate device).1 := populate_discreet device
  unfold onOpened
  split
  · exact (Discreet.refl c).call _
  · next callback hopener =>
    split
    · next c' camera hpopulated =>
      rw [hpopulated] at hpopulate
      exact ((hpopulate.attach (by rfl)).enter _).report (Report.modest_of_none rfl rfl)
    · next c' fault hpopulated =>
      rw [hpopulated] at hpopulate
      exact (hpopulate.call _).report (c'.openFailed_modest callback)

theorem setPreviewTexture_discreet (texture : TextureId) :
    c.Discreet (c.setPreviewTexture texture).1 := by
  unfold setPreviewTexture
  split_ifs
  · exact .same rfl rfl rfl rfl
  · exact .refl c
  · have hclosed : c.Discreet c.closeSession := (Discreet.refl c).closeSession
    dsimp only
    split
    · exact hclosed
    · exact hclosed
    · next size draft hsize hdraft =>
      have hbound := hclosed.trans (bindTexture_discreet texture size draft)
      split
      · exact hbound
      · exact hbound.call _

theorem onConfigured_discreet (session : τ) : c.Discreet (c.onConfigured session) := by
  unfold onConfigured
  split_ifs
  · exact (Discreet.refl c).call _
  · exact ((Discreet.refl c).attach (by rfl)).enter _

theorem startPreview_discreet (callback : Option Tag) : c.Discreet (c.startPreview callback).1 := by
  unfold startPreview
  split_ifs
  · exact .same rfl rfl rfl rfl
  · split
    · exact .refl c
    · exact .refl c
    · have hentered : c.Discreet ((c.attach { c.attached with previewCallback := callback }).enter
        .previewActive) := ((Discreet.refl c).attach (by rfl)).enter _
      dsimp only
      split
      · next c' hcall => exact hentered.of_call hcall
      · next c' fault hcall => exact ((hentered.of_call hcall).attach (by rfl)).enter _

theorem stopPreview_discreet : c.Discreet c.stopPreview.1 := by
  unfold stopPreview
  split_ifs
  · exact .same rfl rfl rfl rfl
  · split
    · exact .refl c
    · split
      · next c' hcall => exact ((Discreet.refl c).of_call hcall).enter _
      · next c' fault hcall => exact (Discreet.refl c).of_call hcall

theorem applySettings_discreet (settings : Settings) : c.Discreet (c.applySettings settings).1 := by
  unfold applySettings
  split_ifs
  · exact .same rfl rfl rfl rfl
  · split
    · exact .refl c
    · exact .refl c
    · next array draft harray hdraft =>
      have happlied : c.Discreet (c.attach { c.attached with
          previewSize := some settings.preview
          draft := some (draft.merge settings array)
          settings := some settings }) := (Discreet.refl c).attach (by rfl)
      dsimp only
      split_ifs
      · split
        · exact happlied
        · exact happlied.call _
      · exact happlied.enter _
      · exact happlied

theorem submitTrigger_discreet {session : τ} {draft : Draft} {trigger : Trigger} {listener : Listener}
    {fault : Option Fault} (h : c.Discreet c')
    (hsubmit : c'.submitTrigger session draft trigger listener = (c'', fault)) : c.Discreet c'' :=
  (h.attach (by rfl)).of_call hsubmit

theorem autoFocus_discreet (callback : Option Tag) : c.Discreet (c.autoFocus callback).1 := by
  unfold autoFocus
  split_ifs
  · exact .same rfl rfl rfl rfl
  · split
    · exact .refl c
    · exact .refl c
    · have hentered := (Discreet.refl c).enter .focusLocked
      split
      · next c' hsubmit => exact (submitTrigger_discreet hentered hsubmit).attach (by rfl)
      · next c' fault hsubmit =>
        exact ((submitTrigger_discreet hentered hsubmit).enter _).reportFocus _ _

theorem cancelAutoFocus_discreet : c.Discreet c.cancelAutoFocus.1 := by
  unfold cancelAutoFocus
  split_ifs
  · exact .same rfl rfl rfl rfl
  · split
    · exact .refl c
    · exact .refl c
    · have hentered := (Discreet.refl c).enter .previewActive
      split
      · next c' hsubmit => exact submitTrigger_discreet hentered hsubmit
      · next c' fault hsubmit => exact (submitTrigger_discreet hentered hsubmit).enter _

theorem perform_discreet {action : Action} (hregisters : action.registers? = none)
    (hrelease : action.kind ≠ .release) : c.Discreet (c.perform action).1 := by
  cases action with
  | openCamera index callback => exact openCamera_discreet index callback
  | reconnect index callback => exact openCamera_discreet index callback
  | release => exact absurd rfl hrelease
  | setPreviewTexture texture => exact setPreviewTexture_discreet texture
  | startPreview callback => exact startPreview_discreet callback
  | stopPreview => exact stopPreview_discreet
  | applySettings settings => exact applySettings_discreet settings
  | autoFocus callback => exact autoFocus_discreet callback
  | cancelAutoFocus => exact cancelAutoFocus_discreet
  | setMoveCallback callback => cases hregisters
  | _ => exact .same rfl rfl rfl rfl

theorem tidy_discreet (kind : Action.Kind) : c.Discreet (c.tidy kind) := by
  unfold tidy
  split_ifs
  · exact .refl c
  · exact (Discreet.refl c).closeDevice
  · exact (Discreet.refl c).reportTo _ c.openFailed_modest
  · exact .refl c

theorem recover_discreet (kind : Action.Kind) (failure : Failure) :
    c.Discreet (c.recover kind failure) := by
  have hcounted : c.Discreet c.countFailure := .same rfl rfl rfl rfl
  have htidied : c.Discreet (c.countFailure.tidy kind) := hcounted.trans (tidy_discreet kind)
  rw [recover_eq]
  split_ifs
  · exact htidied.trans (raise_discreet failure)
  · exact htidied

theorem act_discreet {action : Action} (hregisters : action.registers? = none)
    (hrelease : action.kind ≠ .release) : (c.record action.kind).Discreet (c.act action) := by
  have hperformed : (c.record action.kind).Discreet ((c.record action.kind).perform action).1 :=
    perform_discreet hregisters hrelease
  rw [act_eq]
  generalize (c.record action.kind).perform action = result at hperformed ⊢
  rcases result with ⟨c', _ | failure⟩
  · exact hperformed
  · exact hperformed.trans (recover_discreet action.kind failure)

theorem notice_discreet {event : Event δ τ} (hlens : event.lens? = none) : c.Discreet (c.notice event) := by
  have hcounted : c.Discreet c.countEvent := .same rfl rfl rfl rfl
  cases event with
  | opened device => exact hcounted.trans (onOpened_discreet device)
  | deviceError code => exact hcounted.trans onDeviceError_discreet
  | configured session => exact hcounted.trans (onConfigured_discreet session)
  | active => exact hcounted.trans onActive_discreet
  | completed listener frame lens =>
    cases listener with
    | lensState =>
      cases lens with
      | none => exact hcounted
      | some lens => cases hlens
    | focusTrigger => exact hcounted.trans onTriggered_discreet
    | untracked => exact hcounted
  | captureFailed listener frame reason => exact hcounted.trans (onCaptureFailed_discreet listener)
  | _ => exact hcounted

theorem release_tells : c.Tells [] c.release := by
  unfold release
  split_ifs
  · exact ⟨rfl, [], (List.append_nil _).symm, rfl, List.forall_mem_nil _⟩
  · have hreleased : c.Discreet c.closeSession.closeDevice.releaseSurface :=
      (Discreet.refl c).closeSession.closeDevice.trans releaseSurface_discreet
    exact ⟨hreleased.tells.history, hreleased.tells.reports⟩

/-- The controller once it has taken note of a message, which it does of actions. -/
def noted (c : Controller σ δ τ) : Message δ τ → Controller σ δ τ
  | .action action => c.record action.kind
  | _ => c

/-- Most messages have nothing to do with movement. -/
theorem handle_discreet {message : Message δ τ} (hlens : message.lens? = none)
    (hregisters : message.registers? = none) (hrelease : message.isRelease = false) :
    (c.noted message).Discreet (c.handle message) := by
  cases message with
  | action action => exact act_discreet hregisters (of_decide_eq_false hrelease)
  | hardware event => exact notice_discreet hlens
  | barrier ticket => exact .same rfl rfl rfl rfl
  | shutdown => cases hrelease

theorem handle_release_tells {message : Message δ τ} (hrelease : message.isRelease) :
    (c.noted message).Tells [] (c.handle message) := by
  cases message with
  | action action =>
    cases action <;> cases hrelease
    exact release_tells
  | shutdown =>
    show c.Tells [] c.shutDown
    unfold shutDown
    dsimp only
    split_ifs
    · exact ⟨rfl, [], (List.append_nil _).symm, rfl, List.forall_mem_nil _⟩
    · exact ⟨release_tells.history, release_tells.reports⟩
  | _ => cases hrelease

/-- What is reported on movement when a message is handled. -/
def moves? (c : Controller σ δ τ) (message : Message δ τ) : Option (Tag × Bool) :=
  message.lens?.bind fun lens => c.attached.camera.bind fun _ =>
    lens.news c.lastLens c.attached.moveCallback

theorem handle_tells (c : Controller σ δ τ) (message : Message δ τ) :
    (c.noted message).Tells (c.moves? message).toList (c.handle message) := by
  unfold moves?
  cases hlens : message.lens? with
  | some lens =>
    obtain ⟨frame, rfl⟩ := Message.eq_of_lens? hlens
    have htells := onLens_tells (c := c.countEvent) lens
    exact ⟨htells.history, htells.reports⟩
  | none =>
    cases hregisters : message.registers? with
    | some callback =>
      obtain rfl := Message.eq_of_registers? hregisters
      exact ⟨rfl, [], (List.append_nil _).symm, rfl, List.forall_mem_nil _⟩
    | none =>
      cases hrelease : message.isRelease with
      | true => exact handle_release_tells hrelease
      | false => exact (handle_discreet hlens hregisters hrelease).tells

omit [Subsystem σ δ τ] in
theorem noted_lastLens (c : Controller σ δ τ) (message : Message δ τ) :
    (c.noted message).lastLens = c.lastLens ∧
      (c.noted message).attached.moveCallback = c.attached.moveCallback := by
  cases message <;> exact ⟨rfl, rfl⟩

/-- Until a release, the controller keeps the lens state that a frame showed last, and the callback that was
registered last. -/
theorem handle_keeps {message : Message δ τ} (hrelease : message.isRelease = false) :
    (c.handle message).lastLens = message.lens?.or c.lastLens ∧
      (c.handle message).attached.moveCallback =
        message.registers?.getD c.attached.moveCallback := by
  cases hlens : message.lens? with
  | some lens =>
    obtain ⟨frame, rfl⟩ := Message.eq_of_lens? hlens
    exact onLens_seen (c := c.countEvent) lens
  | none =>
    cases hregisters : message.registers? with
    | some callback =>
      obtain rfl := Message.eq_of_registers? hregisters
      exact ⟨rfl, rfl⟩
    | none =>
      have hdiscreet := handle_discreet (c := c) hlens hregisters hrelease
      have hnoted := c.noted_lastLens message
      exact ⟨hdiscreet.lastLens.trans hnoted.1, hdiscreet.moveCallback.trans hnoted.2⟩

end Controller

end CameraControl
