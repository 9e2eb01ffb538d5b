import CameraControl.Proofs.Awaiting

/-!
The draft that requests are taken from, and what is taken from it. Settings and triggers edit the draft in
place, and each request that is submitted is a copy of it, whether or not the subsystem then accepts it.
`handle_sketch` lists what a message can do to the draft and to the requests on record. Which surfaces a
request goes to is left out.
-/
namespace CameraControl

def Request.untargeted (r : Request) : Request := { r with targets := [] }

namespace Draft

def untargeted (d : Draft) : Draft := ⟨d.content.untargeted⟩

theorem untargeted_addTarget (d : Draft) (s : SurfaceId) :
    (d.addTarget s).untargeted = d.untargeted := by
  unfold addTarget
  split_ifs <;> rfl

theorem untargeted_removeTarget (d : Draft) (s : SurfaceId) :
    (d.removeTarget s).untargeted = d.untargeted := rfl

theorem untargeted_merge (d : Draft) (s : Settings) (array : Rect) :
    (d.merge s array).untargeted = d.untargeted.merge s array := by
  unfold merge mergeFlash mergeScene
  split_ifs <;> rfl

end Draft

/-- A request that was submitted, without its targets. -/
structure Submission where
  request : Request
  listener : Listener
  repeats : Bool
deriving DecidableEq, Repr

def Call.submission? {δ τ : Type} : Call δ τ → Option Submission
  | setRepeating _ request listener => some ⟨request.untargeted, listener, true⟩
  | capture _ request listener => some ⟨request.untargeted, listener, false⟩
  | _ => none

def Message.settings? {δ τ : Type} : Message δ τ → Option Settings
  | action (.applySettings settings) => some settings
  | _ => none

/-- The part of a controller that requests are made from, and the requests made so far. -/
structure Sketch where
  draft : Option Draft
  activeArray : Option Rect
  submitted : List Submission

/-- What a message does to the sketch while a camera is open or while none is, other than to take one up. -/
inductive Sketch.Step {δ τ : Type} (isOpen : Bool) (k : Sketch) : Message δ τ → Sketch → Prop
  | still {message : Message δ τ}
      (h : isOpen = false ∨ message.settings? = none ∧ message.isRelease = false) :
      Step isOpen k message k
  | released {message : Message δ τ} (hrelease : message.isRelease) :
      Step isOpen k message { k with draft := none, activeArray := none }
  | applied {settings : Settings} {draft : Draft} {array : Rect} (again : List Submission)
      (hdraft : k.draft = some draft) (harray : k.activeArray = some array)
      (hagain : ∀ x ∈ again, x = ⟨(draft.merge settings array).build, .lensState, true⟩) :
      Step isOpen k (.action (.applySettings settings)) { k with
        draft := some (draft.merge settings array)
        submitted := k.submitted ++ again }
  | started {callback : Option Tag} {draft : Draft} (hdraft : k.draft = some draft) :
      Step isOpen k (.action (.startPreview callback)) { k with
        submitted := k.submitted ++ [⟨draft.build, .lensState, true⟩] }
  | focusing {callback : Option Tag} {draft : Draft} (hdraft : k.draft = some draft) :
      Step isOpen k (.action (.autoFocus callback)) { k with
        draft := some (draft.withTrigger .idle)
        submitted := k.submitted ++ [⟨(draft.withTrigger .start).build, .focusTrigger, false⟩] }
  | unlocking {draft : Draft} (hdraft : k.draft = some draft) :
      Step isOpen k (.action .cancelAutoFocus) { k with
        draft := some (draft.withTrigger .idle)
        submitted := k.submitted ++ [⟨(draft.withTrigger .cancel).build, .untracked, false⟩] }

namespace Controller

variable {σ δ τ : Type}

def sketch (c : Controller (Recorded σ δ τ) δ τ) : Sketch where
  draft := c.attached.draft.map Draft.untargeted
  activeArray := c.attached.activeArray
  submitted := c.subsystem.record.filterMap (·.call.submission?)

section
variable (c : Controller (Recorded σ δ τ) δ τ)

theorem sketch_draft {draft : Draft} (hdraft : c.attached.draft = some draft) :
    c.sketch.draft = some draft.untargeted := by
  unfold sketch
  rw [hdraft]
  rfl

theorem reportTo_sketch (callback : Option Tag) (r : Tag → Report) :
    (c.reportTo callback r).sketch = c.sketch := by
  cases callback <;> rfl

theorem reportFocus_sketch (callback : Option Tag) (sharp : Bool) :
    (c.reportFocus callback sharp).sketch = c.sketch := by
  unfold reportFocus
  split <;> rfl

theorem onActive_sketch : c.onActive.sketch = c.sketch :=
  reportTo_sketch (c.attach { c.attached with previewCallback := none }) _ _

theorem onTriggered_sketch : c.onTriggered.sketch = c.sketch := by
  unfold onTriggered
  split <;> rfl

theorem onTriggerFailed_sketch : c.onTriggerFailed.sketch = c.sketch :=
  reportFocus_sketch (c.attach { c.attached with pendingFocus := none }) _ _

theorem onLens_sketch (lens : Lens) : (c.onLens lens).sketch = c.sketch := by
  unfold onLens
  dsimp only
  split
  · rfl
  · split_ifs
    · rw [reportTo_sketch]
      rfl
    · rfl
    · rw [reportTo_sketch]
      rfl
    · rfl

theorem onCompleted_sketch (listener : Listener) (lens : Option Lens) :
    (c.onCompleted listener lens).sketch = c.sketch := by
  unfold onCompleted
  split
  · exact onLens_sketch c _
  · rfl
  · exact onTriggered_sketch c
  · rfl

theorem onCaptureFailed_sketch (listener : Listener) :
    (c.onCaptureFailed listener).sketch = c.sketch := by
  unfold onCaptureFailed
  split
  · exact onTriggerFailed_sketch c
  · rfl
  · rfl

theorem raise_sketch (failure : Failure) : (c.raise failure).sketch = c.sketch := by
  unfold raise
  split <;> rfl

theorem releaseSurface_sketch : c.releaseSurface.sketch = c.sketch := by
  unfold releaseSurface
  split <;> rfl

/-- A new surface changes nothing but the targets of the draft. -/
theorem bindTexture_sketch {draft : Draft} (texture : TextureId) (size : Size)
    (hdraft : c.attached.draft = some draft) :
    (c.bindTexture texture size draft).1.sketch = c.sketch := by
  have hsame (surface : Option SurfaceId) (s : SurfaceId) :
      (((surface.map draft.removeTarget).getD draft).addTarget s).untargeted = draft.untargeted := by
    rw [Draft.untargeted_addTarget]
    cases surface with
    | none => rfl
    | some surface => exact draft.untargeted_removeTarget surface
  unfold bindTexture releaseSurface sketch
  rw [hdraft]
  dsimp only
  split <;> simp only [Option.map_some, hsame]

end

variable [Subsystem σ δ τ]

section
variable (c : Controller (Recorded σ δ τ) δ τ)

theorem call_sketch (q : Call δ τ) : (c.call q).1.sketch =
    { c.sketch with submitted := c.sketch.submitted ++ q.submission?.toList } := by
  have hrecord : (c.call q).1.subsystem.record = c.subsystem.record ++
    [⟨q, (c.call q).2, (Subsystem.answer c.subsystem q).posted⟩] := rfl
  unfold sketch
  rw [hrecord, List.filterMap_append]
  cases q <;> rfl

theorem tell_sketch {q : Call δ τ} (hq : q.submission? = none) : (c.tell q).sketch = c.sketch := by
  unfold tell
  rw [call_sketch, hq]
  simp

theorem closeDevice_sketch : c.closeDevice.sketch = c.sketch := by
  unfold closeDevice
  split
  · exact tell_sketch (c.attach { c.attached with device := none }) rfl
  · rfl

theorem closeSession_sketch : c.closeSession.sketch = c.sketch := by
  unfold closeSession
  split
  · exact tell_sketch (c.attach { c.attached with session := none }) rfl
  · rfl

theorem setPreviewTexture_sketch (texture : TextureId) :
    (c.setPreviewTexture texture).1.sketch = c.sketch := by
  unfold setPreviewTexture
  split_ifs
  · rfl
  · rfl
  · dsimp only
    split
    · exact closeSession_sketch c
    · exact closeSession_sketch c
    · next size draft hsize hdraft =>
      have hbound : (c.closeSession.bindTexture texture size draft).1.sketch = c.sketch :=
        (bindTexture_sketch c.closeSession texture size hdraft).trans (closeSession_sketch c)
      split
      · exact hbound
      · exact (tell_sketch _ rfl).trans hbound

theorem stopPreview_sketch : c.stopPreview.1.sketch = c.sketch := by
  unfold stopPreview
  split_ifs
  · rfl
  · split
    · rfl
    · next session hsession =>
      have hcalled : (c.call (.stopRepeating session)).1.sketch = c.sketch := tell_sketch c rfl
      split <;> next heq => rw [heq] at hcalled; exact hcalled

theorem openCamera_sketch (index : Nat) (callback : Tag) :
    (c.openCamera index callback).1.sketch = c.sketch := by
  unfold openCamera
  split_ifs
  · rfl
  · dsimp only
    split
    · rfl
    · rfl
    · exact tell_sketch _ rfl

theorem tidy_sketch (kind : Action.Kind) : (c.tidy kind).sketch = c.sketch := by
  unfold tidy
  split_ifs
  · rfl
  · exact closeDevice_sketch c
  · exact reportTo_sketch c _ _
  · rfl

theorem recover_sketch (kind : Action.Kind) (failure : Failure) :
    (c.recover kind failure).sketch = c.sketch := by
  have htidy : (c.countFailure.tidy kind).sketch = c.sketch := tidy_sketch c.countFailure kind
  rw [recover_eq]
  split_ifs
  · rw [raise_sketch, htidy]
  · exact htidy

theorem settle_sketch (kind : Action.Kind)
    (result : Controller (Recorded σ δ τ) δ τ × Option Failure) :
    (settle kind result).sketch = result.1.sketch := by
  rcases result with ⟨c, _ | failure⟩
  · rfl
  · exact recover_sketch c kind failure

theorem onConfigured_sketch (session : τ) : (c.onConfigured session).sketch = c.sketch := by
  unfold onConfigured
  split_ifs
  · exact tell_sketch c rfl
  · rfl

theorem release_sketch {message : Message δ τ} (hrelease : message.isRelease) :
    c.sketch.Step (c.stage ≠ .unopened) message c.release.sketch := by
  unfold release
  split_ifs with hstage
  · exact .still (Or.inl (decide_eq_false (not_not_intro hstage)))
  · have hsame : c.closeSession.closeDevice.releaseSurface.sketch = c.sketch := by
      rw [releaseSurface_sketch, closeDevice_sketch, closeSession_sketch]
    have hstep : c.sketch.Step (c.stage ≠ .unopened) message _ := .released hrelease
    rw [← hsame] at hstep ⊢
    exact hstep

/-- Where the camera is open, settings find a draft and the active array, as `Layered` says. -/
theorem applySettings_sketch (settings : Settings) (hc : c.Layered) :
    c.sketch.Step (c.stage ≠ .unopened) (.action (.applySettings settings) : Message δ τ)
      (c.applySettings settings).1.sketch := by
  unfold applySettings
  split_ifs with hstage
  · exact .still (Or.inl (decide_eq_false (not_not_intro hstage)))
  · have hopen : .unconfigured ≤ c.stage := Stage.unconfigured_le.mpr hstage
    obtain ⟨array, harray⟩ := Option.isSome_iff_exists.mp (hc.activeArray hopen)
    obtain ⟨draft, hdraft⟩ := Option.isSome_iff_exists.mp (hc.draft hopen)
    have hsketch := c.sketch_draft hdraft
    have hmerged : (c.attach { c.attached with
        previewSize := some settings.preview
        draft := some (draft.merge settings array)
        settings := some settings }).sketch =
        { c.sketch with draft := some (draft.untargeted.merge settings array) } := by
      rw [← Draft.untargeted_merge]
      rfl
    have hsilent : c.sketch.Step (c.stage ≠ .unopened)
        (.action (.applySettings settings) : Message δ τ)
        { c.sketch with draft := some (draft.untargeted.merge settings array) } := by
      have hstep : c.sketch.Step (c.stage ≠ .unopened)
        (.action (.applySettings settings) : Message δ τ) _ :=
        .applied [] hsketch harray (List.forall_mem_nil _)
      rwa [List.append_nil] at hstep
    rw [harray, hdraft]
    dsimp only
    rw [← hmerged] at hsilent
    split_ifs
    · split
      · exact hsilent
      · unfold tell
        rw [call_sketch, hmerged]
        refine .applied _ hsketch harray ?_
        intro x hx
        rw [List.mem_singleton.mp hx, ← Draft.untargeted_merge]
        rfl
    · exact hsilent
    · exact hsilent

theorem startPreview_sketch {isOpen : Bool} (callback : Option Tag) :
    c.sketch.Step isOpen (.action (.startPreview callback) : Message δ τ)
      (c.startPreview callback).1.sketch := by
  unfold startPreview
  split_ifs
  · exact .still (Or.inr ⟨rfl, rfl⟩)
  · split
    · exact .still (Or.inr ⟨rfl, rfl⟩)
    · exact .still (Or.inr ⟨rfl, rfl⟩)
    · next session draft hsession hdraft =>
      have hsketch := c.sketch_draft hdraft
      have hcalled := call_sketch
        ((c.attach { c.attached with previewCallback := callback }).enter .previewActive)
        (.setRepeating session draft.build .lensState)
      have hstep : c.sketch.Step isOpen (.action (.startPreview callback) : Message δ τ) _ :=
        .started hsketch
      dsimp only
      split <;> next heq => rw [heq] at hcalled; exact hcalled ▸ hstep

theorem submitTrigger_sketch {session : τ} {draft : Draft} {trigger : Trigger} {listener : Listener}
    {answer : Controller (Recorded σ δ τ) δ τ × Option Fault}
    (hsubmit : c.submitTrigger session draft trigger listener = answer) :
    answer.1.sketch = { c.sketch with
      draft := some (draft.untargeted.withTrigger .idle)
      submitted := c.sketch.submitted ++
        [⟨(draft.untargeted.withTrigger trigger).build, listener, false⟩] } := by
  rw [← hsubmit]
  unfold submitTrigger
  rw [call_sketch]
  rfl

theorem autoFocus_sketch {isOpen : Bool} (callback : Option Tag) :
    c.sketch.Step isOpen (.action (.autoFocus callback) : Message δ τ)
      (c.autoFocus callback).1.sketch := by
  unfold autoFocus
  split_ifs
  · exact .still (Or.inr ⟨rfl, rfl⟩)
  · split
    · exact .still (Or.inr ⟨rfl, rfl⟩)
    · exact .still (Or.inr ⟨rfl, rfl⟩)
    · next session draft hsession hdraft =>
      have hsketch := c.sketch_draft hdraft
      have hstep : c.sketch.Step isOpen (.action (.autoFocus callback) : Message δ τ) _ :=
        .focusing hsketch
      split
      · next c' hsubmit =>
        have hsubmitted := submitTrigger_sketch (c.enter .focusLocked) hsubmit
        exact hsubmitted ▸ hstep
      · next c' fault hsubmit =>
        have hsubmitted := submitTrigger_sketch (c.enter .focusLocked) hsubmit
        rw [reportFocus_sketch]
        exact hsubmitted ▸ hstep

theorem cancelAutoFocus_sketch {isOpen : Bool} :
    c.sketch.Step isOpen (.action .cancelAutoFocus : Message δ τ) c.cancelAutoFocus.1.sketch := by
  unfold cancelAutoFocus
  split_ifs
  · exact .still (Or.inr ⟨rfl, rfl⟩)
  · split
    · exact .still (Or.inr ⟨rfl, rfl⟩)
    · exact .still (Or.inr ⟨rfl, rfl⟩)
    · next session draft hsession hdraft =>
      have hsketch := c.sketch_draft hdraft
      have hstep : c.sketch.Step isOpen (.action .cancelAutoFocus : Message δ τ) _ :=
        .unlocking hsketch
      split <;> next hsubmit =>
        have hsubmitted := submitTrigger_sketch (c.enter .previewActive) hsubmit
        exact hsubmitted ▸ hstep

theorem perform_sketch (action : Action) (hc : c.Layered) :
    c.sketch.Step (c.stage ≠ .unopened) (.action action : Message δ τ)
      (c.perform action).1.sketch := by
  have hstill {c' : Controller (Recorded σ δ τ) δ τ} (hsame : c'.sketch = c.sketch)
      (hother : (Message.action (δ := δ) (τ := τ) action).settings? = none ∧
        (Message.action (δ := δ) (τ := τ) action).isRelease = false) :
      c.sketch.Step (c.stage ≠ .unopened) (.action action : Message δ τ) c'.sketch := by
    rw [hsame]
    exact .still (Or.inr hother)
  cases action with
  | openCamera index callback => exact hstill (openCamera_sketch c index callback) ⟨rfl, rfl⟩
  | reconnect index callback => exact hstill (openCamera_sketch c index callback) ⟨rfl, rfl⟩
  | release => exact release_sketch c rfl
  | setPreviewTexture texture => exact hstill (setPreviewTexture_sketch c texture) ⟨rfl, rfl⟩
  | startPreview callback => exact startPreview_sketch c callback
  | stopPreview => exact hstill (stopPreview_sketch c) ⟨rfl, rfl⟩
  | applySettings settings => exact applySettings_sketch c settings hc
  | autoFocus callback => exact autoFocus_sketch c callback
  | cancelAutoFocus => exact cancelAutoFocus_sketch c
  | _ => exact hstill rfl ⟨rfl, rfl⟩

theorem act_sketch (action : Action) (hc : c.Layered) :
    c.sketch.Step (c.stage ≠ .unopened) (.action action : Message δ τ) (c.act action).sketch := by
  rw [act_eq, settle_sketch]
  exact perform_sketch (c.record action.kind) action hc

/-- A device that comes is taken up with a draft of its own, or changes nothing that requests are made
from. -/
theorem onOpened_sketch (device : δ) :
    (∃ callback camera draft, (c.onOpened device).outcomes = c.outcomes ++ [.opened callback camera] ∧
      (Subsystem.draft c.subsystem.world device .preview).2 = .ok draft ∧
      (c.onOpened device).sketch = { c.sketch with
        draft := some draft.untargeted
        activeArray := some camera.characteristics.activeArray }) ∨
    (∃ new : List Report, (c.onOpened device).outcomes = c.outcomes ++ new ∧
      new.any (·.isOpened) = false ∧ (c.onOpened device).sketch = c.sketch) := by
  have hreported (c' : Controller (Recorded σ δ τ) δ τ) {r : Report} (hr : r.opener?.isSome) :
      (c'.report r).outcomes = c'.outcomes ++ [r] := congrArg Custody.outcomes (c'.report_outcome hr)
  have hrefused (c' : Controller (Recorded σ δ τ) δ τ) (callback : Tag) (index : Nat) (info : String)
      (hsketch : c'.sketch = c.sketch) (houtcomes : c'.outcomes = c.outcomes) :
      ∃ new : List Report,
        ((c'.tell (.closeDevice device)).report (.openFailed callback index info)).outcomes =
          c.outcomes ++ new ∧ new.any (·.isOpened) = false ∧
        ((c'.tell (.closeDevice device)).report (.openFailed callback index info)).sketch = c.sketch := by
    refine ⟨[.openFailed callback index info], ?_, rfl, (tell_sketch c' rfl).trans hsketch⟩
    rw [hreported _ rfl, ← houtcomes]
    rfl
  unfold onOpened
  cases c.attached.openCallback with
  | none => exact Or.inr ⟨[], (List.append_nil _).symm, rfl, tell_sketch c rfl⟩
  | some callback =>
    unfold populate
    cases Subsystem.characteristics c.subsystem (Subsystem.idOf (Recorded σ δ τ) device) with
    | error fault => exact Or.inr (hrefused c callback _ _ rfl rfl)
    | ok characteristics =>
      have hdraft : Subsystem.draft c.subsystem device .preview =
        ({ c.subsystem with world := (Subsystem.draft c.subsystem.world device .preview).1 },
          (Subsystem.draft c.subsystem.world device .preview).2) := rfl
      rw [hdraft]
      cases hanswer : (Subsystem.draft c.subsystem.world device .preview).2 with
      | error fault => exact Or.inr (hrefused _ callback _ _ rfl rfl)
      | ok draft =>
        left
        refine ⟨callback, ⟨c.attached.index, characteristics⟩, draft, ?_, rfl, rfl⟩
        exact hreported _ rfl

theorem notice_sketch {event : Event δ τ} (hevent : event.opened? = none) :
    (c.notice event).sketch = c.sketch := by
  cases event with
  | opened device => cases hevent
  | disconnected => rfl
  | deviceError code => exact reportTo_sketch c.countEvent _ _
  | configured session => exact onConfigured_sketch c.countEvent session
  | configureFailed => rfl
  | active => exact onActive_sketch c.countEvent
  | completed listener frame lens => exact onCompleted_sketch c.countEvent listener lens
  | captureFailed listener frame reason => exact onCaptureFailed_sketch c.countEvent listener

theorem handle_sketch {message : Message δ τ} (hc : c.Layered)
    (hdelivered : message.delivered? = none) :
    c.sketch.Step (c.stage ≠ .unopened) message (c.handle message).sketch := by
  cases message with
  | action action => exact act_sketch c action hc
  | hardware event =>
    show c.sketch.Step _ _ (c.notice event).sketch
    rw [notice_sketch c hdelivered]
    exact .still (Or.inr ⟨rfl, rfl⟩)
  | barrier ticket => exact .still (Or.inr ⟨rfl, rfl⟩)
  | shutdown =>
    show c.sketch.Step _ _ c.shutDown.sketch
    unfold shutDown
    dsimp only
    split_ifs with hstage
    · exact .still (Or.inl (decide_eq_false (not_not_intro hstage)))
    · exact release_sketch c rfl

end

end Controller

end CameraControl
