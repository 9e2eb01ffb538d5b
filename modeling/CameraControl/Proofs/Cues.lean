import CameraControl.Proofs.Layers

/-!
The callbacks that wait for the focus, and what those were told that no longer wait. Few messages have to do
with them. Such a message gives a cue, and `handle_focus` says what each cue comes to: which callback waits
where afterwards, which one was told, and whether a trigger capture was submitted. Nothing else that a message
does makes a difference.
-/
namespace CameraControl

/-- What a message means to the callbacks that wait for the focus. -/
inductive Cue
  | asked (callback : Option Tag)
  | triggered
  | triggerFailed
  | locked (sharp : Bool)
  | released
deriving DecidableEq, Repr

def Event.cue? {δ τ : Type} : Event δ τ → Option Cue
  | completed .focusTrigger _ _ => some .triggered
  | completed .lensState _ (some lens) =>
    if lens.isLocked then some (.locked (lens = .focusedLocked)) else none
  | captureFailed .focusTrigger _ _ => some .triggerFailed
  | _ => none

def Message.cue? {δ τ : Type} : Message δ τ → Option Cue
  | action (.autoFocus callback) => some (.asked callback)
  | action .release | shutdown => some .released
  | hardware event => event.cue?
  | _ => none

/-- What a focus callback was told. -/
def Report.focused? : Report → Option (Tag × Bool)
  | focused callback sharp _ => some (callback, sharp)
  | _ => none

/-- A capture was submitted to have the focus locked. -/
def Exchange.isTrigger {δ τ : Type} (x : Exchange δ τ) : Bool :=
  match x.call with
  | .capture _ _ .focusTrigger => true
  | _ => false

/-- The focus callbacks that wait, what others were told, and the trigger captures on record. -/
structure Focus (δ τ : Type) where
  pending : Option Tag
  armed : Option Tag
  told : List (Tag × Bool)
  triggers : List (Exchange δ τ)

/-- What a cue does to the callbacks, in a stage. -/
inductive Focus.Step {δ τ : Type} (stage : Stage) (k : Focus δ τ) : Option Cue → Focus δ τ → Prop
  | aside : Step stage k none k
  | rejected {callback : Option Tag} (hstage : stage < .previewActive) :
      Step stage k (some (.asked callback)) k
  | submitted {callback : Option Tag} {x : Exchange δ τ} (hstage : .previewActive ≤ stage)
      (hfault : x.fault = none) :
      Step stage k (some (.asked callback))
        { k with pending := callback, triggers := k.triggers ++ [x] }
  | refused {callback : Option Tag} {x : Exchange δ τ} (hstage : .previewActive ≤ stage)
      (hfault : x.fault.isSome) :
      Step stage k (some (.asked callback)) { k with
        told := k.told ++ callback.toList.map (·, false), triggers := k.triggers ++ [x] }
  | triggered :
      Step stage k (some .triggered) { k with pending := none, armed := k.pending.or k.armed }
  | triggerFailed :
      Step stage k (some .triggerFailed) { k with
        pending := none, told := k.told ++ k.pending.toList.map (·, false) }
  | locked {sharp : Bool} :
      Step stage k (some (.locked sharp)) { k with
        armed := none, told := k.told ++ k.armed.toList.map (·, sharp) }
  | released : Step stage k (some .released) { k with pending := none, armed := none }

namespace Focus.Step

variable {δ τ : Type} {stage : Stage} {k : Focus δ τ}

/-- Where no callback is pending, a trigger that completes arms none. -/
theorem idle (hpending : k.pending = none) : k.Step stage (some .triggered) k := by
  have hstep : k.Step stage (some .triggered) _ := .triggered
  rwa [hpending, Option.none_or, ← hpending] at hstep

/-- Where none is armed, a locked lens is told to nobody. -/
theorem unarmed {sharp : Bool} (harmed : k.armed = none) : k.Step stage (some (.locked sharp)) k := by
  have hstep : k.Step stage (some (.locked sharp)) _ := .locked
  rwa [harmed, Option.toList_none, List.map_nil, List.append_nil, ← harmed] at hstep

/-- Where none waits, giving up the camera drops none. -/
theorem vacated (hpending : k.pending = none) (harmed : k.armed = none) :
    k.Step stage (some .released) k := by
  obtain ⟨pending, armed, told, triggers⟩ := k
  cases hpending
  cases harmed
  exact .released

end Focus.Step

namespace Controller

variable {σ δ τ : Type}

/-- What the focus callbacks were told so far. -/
def told (c : Controller σ δ τ) : List (Tag × Bool) := c.reports.filterMap (·.report.focused?)

/-- Callbacks wait for the focus only while a camera is open. -/
def Attentive (c : Controller σ δ τ) : Prop :=
  c.stage = .unopened → c.attached.pendingFocus = none ∧ c.attached.armedFocus = none

def focus (c : Controller (Recorded σ δ τ) δ τ) : Focus δ τ where
  pending := c.attached.pendingFocus
  armed := c.attached.armedFocus
  told := c.told
  triggers := c.subsystem.record.filter (·.isTrigger)

section
variable (c : Controller (Recorded σ δ τ) δ τ)

theorem report_focus {r : Report} (hr : r.focused? = none) : (c.report r).focus = c.focus := by
  have htold : (c.report r).told = c.told := by simp [told, report, hr]
  unfold focus
  rw [htold]
  rfl

theorem report_focused (callback : Tag) (sharp : Bool) (camera : Camera) :
    (c.report (.focused callback sharp camera)).focus =
      { c.focus with told := c.focus.told ++ [(callback, sharp)] } := by
  have htold : (c.report (.focused callback sharp camera)).told = c.told ++ [(callback, sharp)] := by
    simp [told, report, Report.focused?]
  unfold focus
  rw [htold]
  rfl

theorem reportTo_focus (callback : Option Tag) {r : Tag → Report} (hr : ∀ tag, (r tag).focused? = none) :
    (c.reportTo callback r).focus = c.focus := by
  cases callback with
  | none => rfl
  | some tag => exact c.report_focus (hr tag)

theorem reportTo_focused (callback : Option Tag) (sharp : Bool) (camera : Camera) :
    (c.reportTo callback (.focused · sharp camera)).focus =
      { c.focus with told := c.focus.told ++ callback.toList.map (·, sharp) } := by
  cases callback with
  | none =>
    show c.focus = { c.focus with told := c.focus.told ++ [] }
    rw [List.append_nil]
  | some tag => exact c.report_focused tag sharp camera

/-- With a camera there, the callback is told. -/
theorem reportFocus_focus (callback : Option Tag) (sharp : Bool)
    (hcamera : callback.isSome → c.attached.camera.isSome) :
    (c.reportFocus callback sharp).focus =
      { c.focus with told := c.focus.told ++ callback.toList.map (·, sharp) } := by
  cases callback with
  | none =>
    show c.focus = { c.focus with told := c.focus.told ++ [] }
    rw [List.append_nil]
  | some tag =>
    obtain ⟨camera, hsome⟩ := Option.isSome_iff_exists.mp (hcamera rfl)
    unfold reportFocus
    rw [hsome]
    exact c.report_focused tag sharp camera

theorem raise_focus (failure : Failure) : (c.raise failure).focus = c.focus := by
  unfold raise
  split
  · exact c.report_focus rfl
  · rfl

theorem releaseSurface_focus : c.releaseSurface.focus = c.focus := by
  unfold releaseSurface
  split <;> rfl

theorem bindTexture_focus (texture : TextureId) (size : Size) (draft : Draft) :
    (c.bindTexture texture size draft).1.focus = c.focus := by
  unfold bindTexture releaseSurface
  dsimp only
  split <;> rfl

theorem onActive_focus : c.onActive.focus = c.focus :=
  reportTo_focus (c.attach { c.attached with previewCallback := none }) _ fun _ => rfl

theorem onTriggered_focus {stage : Stage} :
    c.focus.Step stage (some .triggered) c.onTriggered.focus := by
  unfold onTriggered
  split
  · next tag hpending =>
    have hstep : c.focus.Step stage (some .triggered) _ := .triggered
    have hsome : c.focus.pending = some tag := hpending
    rw [hsome] at hstep
    exact hstep
  · next hpending => exact .idle hpending

/-- Unless it is locked, the lens means nothing to them. -/
theorem onLens_focus {lens : Lens} (hlocked : ¬ lens.isLocked) :
    (c.onLens lens).focus = c.focus := by
  unfold onLens
  dsimp only
  split
  · rfl
  · rw [if_neg hlocked]
    split_ifs
    · exact reportTo_focus _ _ fun _ => rfl
    · rfl
    · rfl

variable {c}

/-- A callback waits only where there is a camera to report on. -/
theorem Attentive.camera (hc : c.Layered) (hattentive : c.Attentive) :
    (c.attached.pendingFocus.isSome → c.attached.camera.isSome) ∧
      (c.attached.armedFocus.isSome → c.attached.camera.isSome) := by
  by_cases hstage : c.stage = .unopened
  · obtain ⟨hpending, harmed⟩ := hattentive hstage
    rw [hpending, harmed]
    exact ⟨nofun, nofun⟩
  · have hcamera := hc.camera (Stage.unconfigured_le.mpr hstage)
    exact ⟨fun _ => hcamera, fun _ => hcamera⟩

theorem onTriggerFailed_focus {stage : Stage} (hc : c.Layered) (hattentive : c.Attentive) :
    c.focus.Step stage (some .triggerFailed) c.onTriggerFailed.focus := by
  have htold := reportFocus_focus (c.attach { c.attached with pendingFocus := none })
    c.attached.pendingFocus false (hattentive.camera hc).1
  unfold onTriggerFailed
  rw [htold]
  exact .triggerFailed

theorem onLens_locked {stage : Stage} {lens : Lens} (hlocked : lens.isLocked) (hc : c.Layered)
    (hattentive : c.Attentive) :
    c.focus.Step stage (some (.locked (lens = .focusedLocked))) (c.onLens lens).focus := by
  have hstill : ¬ lens.isPassive := by
    cases lens <;> first | decide | cases hlocked
  unfold onLens
  dsimp only
  split
  · next hcamera =>
    refine .unarmed (Option.not_isSome_iff_eq_none.mp fun hsome => ?_)
    have hthere := (hattentive.camera hc).2 hsome
    rw [hcamera] at hthere
    cases hthere
  · rw [if_neg hstill, if_pos hlocked, reportTo_focused]
    exact .locked

theorem onCompleted_focus {stage : Stage} (listener : Listener) (frame : Nat) (lens : Option Lens)
    (hc : c.Layered) (hattentive : c.Attentive) :
    c.focus.Step stage (Event.completed (δ := δ) (τ := τ) listener frame lens).cue?
      (c.onCompleted listener lens).focus := by
  unfold onCompleted
  split
  · next lens =>
    show c.focus.Step stage (if lens.isLocked then some (.locked (lens = .focusedLocked)) else none) _
    split_ifs with hlocked
    · exact onLens_locked hlocked hc hattentive
    · rw [onLens_focus c hlocked]
      exact .aside
  · exact .aside
  · exact onTriggered_focus c
  · exact .aside

theorem onCaptureFailed_focus {stage : Stage} (listener : Listener) (frame : Nat)
    (reason : FailureReason) (hc : c.Layered) (hattentive : c.Attentive) :
    c.focus.Step stage (Event.captureFailed (δ := δ) (τ := τ) listener frame reason).cue?
      (c.onCaptureFailed listener).focus := by
  unfold onCaptureFailed
  split
  · exact onTriggerFailed_focus hc hattentive
  · exact .aside
  · exact .aside

end

variable [Subsystem σ δ τ]

section
variable (c : Controller (Recorded σ δ τ) δ τ)

/-- The exchange that a call comes to. -/
def exchange (q : Call δ τ) : Exchange δ τ :=
  ⟨q, (c.call q).2, (Subsystem.answer c.subsystem q).posted⟩

theorem call_focus (q : Call δ τ) : (c.call q).1.focus =
    { c.focus with triggers := c.focus.triggers ++ [c.exchange q].filter (·.isTrigger) } := by
  have hrecord : (c.call q).1.subsystem.record = c.subsystem.record ++ [c.exchange q] := rfl
  unfold focus
  rw [hrecord, List.filter_append]
  rfl

theorem tell_focus {q : Call δ τ} (hq : (c.exchange q).isTrigger = false) :
    (c.tell q).focus = c.focus := by
  unfold tell
  rw [call_focus, List.filter_cons_of_neg (by rw [hq]; decide), List.filter_nil, List.append_nil]

theorem closeDevice_focus : c.closeDevice.focus = c.focus := by
  unfold closeDevice
  split
  · exact tell_focus (c.attach { c.attached with device := none }) rfl
  · rfl

theorem closeSession_focus : c.closeSession.focus = c.focus := by
  unfold closeSession
  split
  · exact tell_focus (c.attach { c.attached with session := none }) rfl
  · rfl

theorem setPreviewTexture_focus (texture : TextureId) :
    (c.setPreviewTexture texture).1.focus = c.focus := by
  unfold setPreviewTexture
  split_ifs
  · rfl
  · rfl
  · dsimp only
    split
    · exact closeSession_focus c
    · exact closeSession_focus c
    · next size draft hsize hdraft =>
      have hbound : (c.closeSession.bindTexture texture size draft).1.focus = c.focus :=
        (bindTexture_focus c.closeSession texture size draft).trans (closeSession_focus c)
      split
      · exact hbound
      · exact (tell_focus _ rfl).trans hbound

theorem startPreview_focus (callback : Option Tag) : (c.startPreview callback).1.focus = c.focus := by
  unfold startPreview
  split_ifs
  · rfl
  · split
    · rfl
    · rfl
    · next session draft hsession hdraft =>
      have hcalled := tell_focus
        ((c.attach { c.attached with previewCallback := callback }).enter .previewActive)
        (q := .setRepeating session draft.build .lensState) rfl
      unfold tell at hcalled
      dsimp only
      split <;> next heq => rw [heq] at hcalled; exact hcalled

theorem stopPreview_focus : c.stopPreview.1.focus = c.focus := by
  unfold stopPreview
  split_ifs
  · rfl
  · split
    · rfl
    · next session hsession =>
      have hcalled : (c.call (.stopRepeating session)).1.focus = c.focus := tell_focus c rfl
      split <;> next heq => rw [heq] at hcalled; exact hcalled

theorem applySettings_focus (settings : Settings) :
    (c.applySettings settings).1.focus = c.focus := by
  unfold applySettings
  split_ifs
  · rfl
  · split
    · rfl
    · rfl
    · dsimp only
      split_ifs
      · split
        · rfl
        · exact tell_focus _ rfl
      · rfl
      · rfl

theorem openCamera_focus (index : Nat) (callback : Tag) :
    (c.openCamera index callback).1.focus = c.focus := by
  unfold openCamera
  split_ifs
  · exact c.reject.report_focus rfl
  · dsimp only
    split
    · rfl
    · exact report_focus _ rfl
    · exact tell_focus _ rfl

theorem cancelAutoFocus_focus : c.cancelAutoFocus.1.focus = c.focus := by
  unfold cancelAutoFocus
  split_ifs
  · rfl
  · split
    · rfl
    · rfl
    · next session draft hsession hdraft =>
      have hcalled (c' : Controller (Recorded σ δ τ) δ τ) :
          (c'.submitTrigger session draft .cancel .untracked).1.focus = c'.focus :=
        tell_focus (c'.attach { c'.attached with
          draft := some ((draft.withTrigger .cancel).withTrigger .idle) }) rfl
      have hsubmitted := hcalled (c.enter .previewActive)
      split <;> next heq => rw [heq] at hsubmitted; exact hsubmitted

theorem tidy_focus (kind : Action.Kind) : (c.tidy kind).focus = c.focus := by
  unfold tidy
  split_ifs
  · rfl
  · exact closeDevice_focus c
  · exact reportTo_focus c _ fun _ => rfl
  · rfl

theorem settle_focus (kind : Action.Kind)
    (result : Controller (Recorded σ δ τ) δ τ × Option Failure) :
    (settle kind result).focus = result.1.focus := by
  rcases result with ⟨c, _ | failure⟩
  · rfl
  · have htidy : (c.countFailure.tidy kind).focus = c.focus := tidy_focus c.countFailure kind
    show (c.recover kind failure).focus = c.focus
    rw [recover_eq]
    split_ifs
    · rw [raise_focus, htidy]
    · exact htidy

theorem onOpened_focus (device : δ) : (c.onOpened device).focus = c.focus := by
  unfold onOpened
  cases c.attached.openCallback with
  | none => exact tell_focus c rfl
  | some callback =>
    have hpopulate : (c.populate device).1.focus = c.focus := by
      unfold populate
      split
      · rfl
      · have hrecord : (Subsystem.draft c.subsystem device .preview).1.record = c.subsystem.record := rfl
        unfold focus told
        split <;> next heq => rw [heq] at hrecord; dsimp only; rw [hrecord]
    dsimp only
    split
    · next c' camera heq =>
      rw [heq] at hpopulate
      exact (report_focus _ rfl).trans hpopulate
    · next c' fault heq =>
      rw [heq] at hpopulate
      rw [report_focus _ rfl, tell_focus c' rfl]
      exact hpopulate

theorem onConfigured_focus (session : τ) : (c.onConfigured session).focus = c.focus := by
  unfold onConfigured
  split_ifs
  · exact tell_focus c rfl
  · rfl

end

variable {c : Controller (Recorded σ δ τ) δ τ}

theorem release_focus (hattentive : c.Attentive) :
    c.focus.Step c.stage (some .released) c.release.focus := by
  unfold release
  split_ifs with hstage
  · exact .vacated (hattentive hstage).1 (hattentive hstage).2
  · have hgiven : c.closeSession.closeDevice.releaseSurface.focus = c.focus := by
      rw [releaseSurface_focus, closeDevice_focus, closeSession_focus]
    have hstep : c.focus.Step c.stage (some .released) _ := .released
    rw [← hgiven] at hstep ⊢
    exact hstep

/-- A trigger that is to lock the focus goes on record. -/
theorem submitTrigger_focus {session : τ} {draft : Draft}
    {answer : Controller (Recorded σ δ τ) δ τ × Option Fault}
    (hsubmit : c.submitTrigger session draft .start .focusTrigger = answer) :
    answer.1.attached.camera = c.attached.camera ∧ ∃ x : Exchange δ τ, x.fault = answer.2 ∧
      answer.1.focus = { c.focus with triggers := c.focus.triggers ++ [x] } := by
  rw [← hsubmit]
  unfold submitTrigger
  exact ⟨rfl, _, rfl, call_focus _ _⟩

/-- In a preview an autofocus request finds all that it needs, as `Layered` says. -/
theorem autoFocus_focus (callback : Option Tag) (hc : c.Layered) :
    c.focus.Step c.stage (some (.asked callback)) (c.autoFocus callback).1.focus := by
  unfold autoFocus
  split_ifs with hstage
  · exact .rejected hstage
  · have hactive : .previewActive ≤ c.stage := Stage.not_lt.mp hstage
    have hopen : .unconfigured ≤ c.stage := Stage.le_trans (by decide) hactive
    obtain ⟨session, hsession⟩ := Option.isSome_iff_exists.mp
      (hc.session (Stage.le_trans (by decide) hactive))
    obtain ⟨draft, hdraft⟩ := Option.isSome_iff_exists.mp (hc.draft hopen)
    rw [hsession, hdraft]
    dsimp only
    split
    · next c' hsubmit =>
      obtain ⟨-, x, hfault, hfocus⟩ := submitTrigger_focus hsubmit
      have hstep : c.focus.Step c.stage (some (.asked callback)) _ := .submitted hactive hfault
      have htriggers : (c'.attach { c'.attached with pendingFocus := callback }).focus =
        { c'.focus with pending := callback } := rfl
      rw [htriggers, hfocus]
      exact hstep
    · next c' fault hsubmit =>
      obtain ⟨hcamera, x, hfault, hfocus⟩ := submitTrigger_focus hsubmit
      have hsome : (c'.enter .previewActive).attached.camera.isSome := by
        show c'.attached.camera.isSome
        rw [hcamera]
        exact hc.camera hopen
      have hstep : c.focus.Step c.stage (some (.asked callback)) _ :=
        .refused hactive (hfault ▸ rfl : x.fault.isSome)
      have hentered : (c'.enter .previewActive).focus = c'.focus := rfl
      rw [reportFocus_focus _ _ _ fun _ => hsome, hentered, hfocus]
      exact hstep

theorem perform_focus (action : Action) (hc : c.Layered) (hattentive : c.Attentive) :
    c.focus.Step c.stage (Message.action (δ := δ) (τ := τ) action).cue? (c.perform action).1.focus := by
  have hstill {c' : Controller (Recorded σ δ τ) δ τ} (hsame : c'.focus = c.focus)
      (hcue : (Message.action (δ := δ) (τ := τ) action).cue? = none) :
      c.focus.Step c.stage (Message.action (δ := δ) (τ := τ) action).cue? c'.focus := by
    rw [hsame, hcue]
    exact .aside
  cases action with
  | openCamera index callback => exact hstill (openCamera_focus c index callback) rfl
  | reconnect index callback => exact hstill (openCamera_focus c index callback) rfl
  | release => exact release_focus hattentive
  | setPreviewTexture texture => exact hstill (setPreviewTexture_focus c texture) rfl
  | startPreview callback => exact hstill (startPreview_focus c callback) rfl
  | stopPreview => exact hstill (stopPreview_focus c) rfl
  | applySettings settings => exact hstill (applySettings_focus c settings) rfl
  | autoFocus callback => exact autoFocus_focus callback hc
  | cancelAutoFocus => exact hstill (cancelAutoFocus_focus c) rfl
  | _ => exact hstill rfl rfl

theorem notice_focus (event : Event δ τ) (hc : c.Layered) (hattentive : c.Attentive) :
    c.focus.Step c.stage event.cue? (c.notice event).focus := by
  have hstill {c' : Controller (Recorded σ δ τ) δ τ} (hsame : c'.focus = c.focus)
      (hcue : event.cue? = none) : c.focus.Step c.stage event.cue? c'.focus := by
    rw [hsame, hcue]
    exact .aside
  have hcounted : c.countEvent.Layered := hc
  cases event with
  | opened device => exact hstill (onOpened_focus c.countEvent device) rfl
  | disconnected => exact hstill rfl rfl
  | deviceError code => exact hstill (reportTo_focus c.countEvent _ fun _ => rfl) rfl
  | configured session => exact hstill (onConfigured_focus c.countEvent session) rfl
  | configureFailed => exact hstill rfl rfl
  | active => exact hstill (onActive_focus c.countEvent) rfl
  | completed listener frame lens => exact onCompleted_focus listener frame lens hcounted hattentive
  | captureFailed listener frame reason =>
    exact onCaptureFailed_focus listener frame reason hcounted hattentive

/-- What a message does to the callbacks that wait for the focus depends on its cue alone, on the stage, and
on the answer to a trigger that it submits. -/
theorem handle_focus (message : Message δ τ) (hc : c.Layered) (hattentive : c.Attentive) :
    c.focus.Step c.stage message.cue? (c.handle message).focus := by
  cases message with
  | action action =>
    show c.focus.Step c.stage _ (c.act action).focus
    rw [act_eq, settle_focus]
    exact perform_focus (c := c.record action.kind) action hc hattentive
  | hardware event => exact notice_focus event hc hattentive
  | barrier ticket => exact .aside
  | shutdown =>
    show c.focus.Step c.stage _ c.shutDown.focus
    unfold shutDown
    dsimp only
    split_ifs with hstage
    · exact .vacated (hattentive hstage).1 (hattentive hstage).2
    · exact release_focus hattentive

end Controller

end CameraControl
