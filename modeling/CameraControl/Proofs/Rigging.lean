import CameraControl.Proofs.Rigs
import CameraControl.Proofs.Tenure

/-!
How the controller works its rig. For each of its functions there is a lemma that says what it does to the
rig, or that it does nothing; `handle_rig` puts them together, so that every message is a step of the rig.
-/
namespace CameraControl

namespace Controller

variable {σ δ τ : Type}

section
variable (c : Controller σ δ τ)

theorem reportTo_rig (callback : Option Tag) (r : Tag → Report) :
    (c.reportTo callback r).rig = c.rig := by
  cases callback <;> rfl

theorem reportFocus_rig (callback : Option Tag) (sharp : Bool) :
    (c.reportFocus callback sharp).rig = c.rig := by
  unfold reportFocus
  split <;> rfl

theorem onActive_rig : c.onActive.rig = c.rig :=
  reportTo_rig (c.attach { c.attached with previewCallback := none }) _ _

theorem onTriggered_rig : c.onTriggered.rig = c.rig := by
  unfold onTriggered
  split <;> rfl

theorem onTriggerFailed_rig : c.onTriggerFailed.rig = c.rig :=
  reportFocus_rig (c.attach { c.attached with pendingFocus := none }) _ _

theorem onLens_rig (lens : Lens) : (c.onLens lens).rig = c.rig := by
  unfold onLens
  dsimp only
  split
  · rfl
  · split_ifs
    · rw [reportTo_rig]
      rfl
    · rfl
    · rw [reportTo_rig]
      rfl
    · rfl

theorem onCompleted_rig (listener : Listener) (lens : Option Lens) :
    (c.onCompleted listener lens).rig = c.rig := by
  unfold onCompleted
  split
  · exact onLens_rig c _
  · rfl
  · exact onTriggered_rig c
  · rfl

theorem onCaptureFailed_rig (listener : Listener) : (c.onCaptureFailed listener).rig = c.rig := by
  unfold onCaptureFailed
  split
  · exact onTriggerFailed_rig c
  · rfl
  · rfl

theorem raise_rig (failure : Failure) : (c.raise failure).rig = c.rig := by
  unfold raise
  split <;> rfl

theorem refuse_rig (action : Action) : (c.refuse action).rig = c.rig := by
  unfold refuse
  split <;> rfl

theorem releaseSurface_rig : c.releaseSurface.rig = c.rig.releaseSurface := by
  unfold releaseSurface Rig.releaseSurface
  cases hsurface : c.attached.surface with
  | none =>
    have hrig : c.rig.surface = none := hsurface
    rw [hrig]
  | some surface =>
    have hrig : c.rig.surface = some surface := hsurface
    rw [hrig]
    rfl

theorem bindTexture_rig (texture : TextureId) (size : Size) (draft : Draft) :
    (c.bindTexture texture size draft).1.rig = c.rig.bind texture size draft ∧
      (c.rig.bind texture size draft).surface = some (c.bindTexture texture size draft).2 := by
  unfold bindTexture Rig.bind releaseSurface Rig.releaseSurface rig
  dsimp only
  cases c.attached.surface <;> exact ⟨rfl, rfl⟩

end

variable [Subsystem σ δ τ]

section
variable (c : Controller σ δ τ)

theorem call_rig {c' : Controller σ δ τ} {q : Call δ τ} {fault : Option Fault}
    (hcall : c.call q = (c', fault)) : c'.rig = c.rig.call q ∧ c.rig.fault q = fault := by
  cases hcall
  exact ⟨rfl, rfl⟩

theorem closeDevice_rig : c.closeDevice.rig = c.rig.closeDevice := by
  unfold closeDevice Rig.closeDevice
  cases hdevice : c.attached.device with
  | none =>
    have hrig : c.rig.device = none := hdevice
    rw [hrig]
  | some device =>
    have hrig : c.rig.device = some device := hdevice
    rw [hrig]
    rfl

theorem closeSession_rig : c.closeSession.rig = c.rig.closeSession := by
  unfold closeSession Rig.closeSession
  cases hsession : c.attached.session with
  | none =>
    have hrig : c.rig.session = none := hsession
    rw [hrig]
  | some session =>
    have hrig : c.rig.session = some session := hsession
    rw [hrig]
    rfl

theorem recover_rig {kind : Action.Kind} (hkind : kind ≠ .release) (failure : Failure) :
    (c.recover kind failure).rig = c.rig.closeDevice := by
  have htidied : (c.countFailure.tidy kind).rig = c.rig.closeDevice := by
    unfold tidy
    by_cases hheld : c.countFailure.attached.device.isSome
    · rw [if_pos hheld, if_neg hkind]
      exact closeDevice_rig c.countFailure
    · have hkept : c.rig.closeDevice = c.rig :=
        Rig.closeDevice_none (Option.not_isSome_iff_eq_none.mp hheld)
      rw [if_neg hheld, hkept]
      split_ifs
      · exact reportTo_rig c.countFailure _ _
      · rfl
  rw [recover_eq]
  split_ifs
  · exact (raise_rig _ _).trans htidied
  · exact htidied

end

variable {c : Controller σ δ τ}

theorem openCamera_rig (message : Message δ τ) {kind : Action.Kind} (hkind : kind.isOpening)
    (hopening : message.opening?.isSome) (hpasses : message.Passes c.stage) (index : Nat)
    (callback : Tag) (hstage : c.stage = .unopened) (hdevice : c.attached.device = none) :
    c.rig.Step message (settle kind (c.openCamera index callback)).rig := by
  have hkept : kind ≠ .release := by
    rintro rfl
    cases hkind
  have hrecover (c' : Controller σ δ τ) (hnone : c'.attached.device = none) (failure : Failure) :
      (c'.recover kind failure).rig = c'.rig :=
    (recover_rig c' hkept failure).trans (Rig.closeDevice_none hnone)
  rw [openCamera_unopened hstage]
  cases c.roster.deviceId index with
  | error failure =>
    have hsame : (settle kind (c.awaiting index callback none, some failure)).rig = c.rig :=
      hrecover (c.awaiting index callback none) hdevice failure
    rw [hsame]
    exact .still hpasses
  | ok slot =>
    cases slot with
    | none => exact .still hpasses
    | some id =>
      dsimp only
      cases hcall : (c.awaiting index callback (some id)).call (.openDevice id) with
      | mk c' fault =>
        obtain ⟨hcalled, -⟩ := call_rig _ hcall
        have hasked : c.rig.Step message c'.rig := hcalled ▸ .asked hopening hstage
        cases fault with
        | none => exact hasked
        | some fault =>
          have hnone : c'.attached.device = none := (congrArg Rig.device hcalled).trans hdevice
          exact (hrecover c' hnone (.subsystem fault)).symm ▸ hasked

theorem release_rig (message : Message δ τ) (hrelease : message.isRelease)
    (hstage : c.stage ≠ .unopened) : c.rig.Step message c.release.rig := by
  have hreleased : c.release.rig =
      c.rig.closeSession.closeDevice.releaseSurface.vacate := by
    unfold release
    rw [if_neg hstage, ← closeSession_rig, ← closeDevice_rig, ← releaseSurface_rig]
    rfl
  exact hreleased ▸ .released hrelease hstage

theorem setPreviewTexture_rig (texture : TextureId) (hc : c.Layered) (hstage : .configured ≤ c.stage) :
    c.rig.Step (.action (.setPreviewTexture texture))
      (settle .setPreviewTexture (c.setPreviewTexture texture)).rig := by
  unfold setPreviewTexture
  rw [if_neg (Stage.not_lt.mpr hstage)]
  split_ifs with htexture
  · exact .kept hstage htexture
  · have hclosed : c.closeSession.Layered := closeSession_layered hc hstage
    have hconfigured := closeSession_configured hstage
    obtain ⟨size, hsize⟩ := Option.isSome_iff_exists.mp (hclosed.previewSize hconfigured)
    obtain ⟨draft, hdraft⟩ :=
      Option.isSome_iff_exists.mp (hclosed.draft (Stage.le_trans (by decide) hconfigured))
    have hsame : c.closeSession.attached.draft = c.attached.draft := by
      unfold closeSession
      split <;> rfl
    have hbound : c.rig.Step (.action (.setPreviewTexture texture)) _ :=
      .bound size hstage htexture (hsame.symm.trans hdraft)
    obtain ⟨hrig, hsurface⟩ := bindTexture_rig c.closeSession texture size draft
    rw [← closeSession_rig] at hbound
    dsimp only
    rw [hsize, hdraft]
    dsimp only
    generalize c.closeSession.bindTexture texture size draft = result at hrig hsurface ⊢
    rcases result with ⟨c', surface⟩
    rw [← hrig] at hbound hsurface
    have hcreated : Rig.createSession c'.rig = _ := Rig.createSession.eq_def c'.rig
    rw [hsurface] at hcreated
    rw [hcreated] at hbound
    -- By the time that the device is found missing all is bound, and there is none to be closed.
    cases hdevice : c'.attached.device with
    | none =>
      have hrigged : c'.rig.device = none := hdevice
      rw [hrigged] at hbound
      have hkept : Action.Kind.setPreviewTexture ≠ .release := by decide
      have hsame := (recover_rig c' hkept (.missing Part.device.name .setPreviewTexture)).trans
        (Rig.closeDevice_none hdevice)
      exact hsame.symm ▸ hbound
    | some device =>
      have hrigged : c'.rig.device = some device := hdevice
      rw [hrigged] at hbound
      exact hbound

/-- A call that is made in one stage, and whose outcome decides on the stage afterwards. -/
theorem submit_rig {c c' : Controller σ δ τ} {q : Call δ τ} {fault : Option Fault}
    (k : Rig σ δ τ) (accepted refused : Stage) {stage : Stage} (hcall : c.call q = (c', fault))
    (hc : c.rig = { k with stage }) : c'.rig = { c'.rig with stage } ∧
      k.submit q accepted refused =
        { c'.rig with stage := if fault.isNone then accepted else refused } := by
  obtain ⟨hcalled, hfault⟩ := call_rig c hcall
  have hsame : k.fault q = fault := by
    rw [hc] at hfault
    exact hfault
  unfold Rig.submit
  rw [hcalled, hc, hsame]
  exact ⟨rfl, rfl⟩

theorem submitTrigger_rig {c c' : Controller σ δ τ} {k : Rig σ δ τ} {session : τ} {draft : Draft}
    {trigger : Trigger} {listener : Listener} {fault : Option Fault} {stage : Stage}
    (accepted refused : Stage) (hsubmit : c.submitTrigger session draft trigger listener = (c', fault))
    (hc : c.rig = { k with stage }) : c'.rig = { c'.rig with stage } ∧
      k.submitTrigger session draft trigger listener accepted refused =
        { c'.rig with stage := if fault.isNone then accepted else refused } := by
  refine submit_rig { k with draft := some ((draft.withTrigger trigger).withTrigger .idle) } accepted
    refused hsubmit ?_
  exact congrArg (fun k : Rig σ δ τ => { k with
    draft := some ((draft.withTrigger trigger).withTrigger .idle) }) hc

theorem startPreview_rig (callback : Option Tag) (hc : c.Layered) (hstage : c.stage = .previewReady) :
    c.rig.Step (.action (.startPreview callback)) (c.startPreview callback).1.rig := by
  obtain ⟨session, draft, hsession, hdraft, -⟩ := layered_previewing hc (hstage ▸ Nat.le_refl _)
  have hstarted : c.rig.Step (.action (.startPreview callback)) _ :=
    .started hstage hsession hdraft
  unfold startPreview
  rw [if_neg (not_not_intro hstage), hsession, hdraft]
  dsimp only
  split
  · next c' hcall =>
    obtain ⟨hkept, hsubmitted⟩ := submit_rig c.rig .previewActive .previewReady hcall rfl
    rw [hsubmitted] at hstarted
    exact hkept ▸ hstarted
  · next c' fault hcall =>
    obtain ⟨-, hsubmitted⟩ := submit_rig c.rig .previewActive .previewReady hcall rfl
    rw [hsubmitted] at hstarted
    exact hstarted

theorem stopPreview_rig (hc : c.Layered) (hstage : .previewActive ≤ c.stage) :
    c.rig.Step (.action .stopPreview) c.stopPreview.1.rig := by
  obtain ⟨session, -, hsession, -, -⟩ :=
    layered_previewing hc (Stage.le_trans (by decide) hstage)
  have hstopped : c.rig.Step (.action .stopPreview) _ := .stopped hstage hsession
  unfold stopPreview
  rw [if_neg (Stage.not_lt.mpr hstage), hsession]
  dsimp only
  split
  · next c' hcall =>
    obtain ⟨-, hsubmitted⟩ := submit_rig c.rig .previewReady c.rig.stage hcall rfl
    rw [hsubmitted] at hstopped
    exact hstopped
  · next c' fault hcall =>
    obtain ⟨hkept, hsubmitted⟩ := submit_rig c.rig .previewReady c.rig.stage hcall rfl
    rw [hsubmitted] at hstopped
    exact hkept ▸ hstopped

theorem applySettings_rig (settings : Settings) (hc : c.Layered) (hstage : c.stage ≠ .unopened) :
    c.rig.Step (.action (.applySettings settings)) (c.applySettings settings).1.rig := by
  have hopen : .unconfigured ≤ c.stage := Stage.unconfigured_le.mpr hstage
  obtain ⟨array, harray⟩ := Option.isSome_iff_exists.mp (hc.activeArray hopen)
  obtain ⟨draft, hdraft⟩ := Option.isSome_iff_exists.mp (hc.draft hopen)
  unfold applySettings
  rw [if_neg hstage, harray, hdraft]
  dsimp only
  split_ifs with hactive hready
  · obtain ⟨session, -, hsession, -, -⟩ :=
      layered_previewing hc (Stage.le_trans (by decide) hactive)
    have hkept : (c.attach { c.attached with
      previewSize := some settings.preview
      draft := some (draft.merge settings array)
      settings := some settings }).attached.session = some session := hsession
    rw [hkept]
    exact .resubmitted array hactive hsession hdraft
  · have happlied : c.rig.Step (.action (.applySettings settings)) _ :=
      .applied array hstage (Nat.lt_of_not_le hactive) hdraft
    have hready : c.rig.stage < .previewReady := hready
    rw [if_pos hready] at happlied
    exact happlied
  · have happlied : c.rig.Step (.action (.applySettings settings)) _ :=
      .applied array hstage (Nat.lt_of_not_le hactive) hdraft
    have hready : ¬ c.rig.stage < .previewReady := hready
    rw [if_neg hready] at happlied
    exact happlied

theorem autoFocus_rig (callback : Option Tag) (hc : c.Layered) (hstage : .previewActive ≤ c.stage) :
    c.rig.Step (.action (.autoFocus callback)) (c.autoFocus callback).1.rig := by
  obtain ⟨session, draft, hsession, hdraft, -⟩ :=
    layered_previewing hc (Stage.le_trans (by decide) hstage)
  have hfocusing : c.rig.Step (.action (.autoFocus callback)) _ := .focusing hstage hsession hdraft
  unfold autoFocus
  rw [if_neg (Stage.not_lt.mpr hstage), hsession, hdraft]
  dsimp only
  split
  · next c' hsubmit =>
    obtain ⟨hkept, hsubmitted⟩ := submitTrigger_rig (k := c.rig) .focusLocked .previewActive hsubmit rfl
    rw [hsubmitted] at hfocusing
    exact hkept ▸ hfocusing
  · next c' fault hsubmit =>
    obtain ⟨-, hsubmitted⟩ := submitTrigger_rig (k := c.rig) .focusLocked .previewActive hsubmit rfl
    rw [hsubmitted] at hfocusing
    rw [reportFocus_rig]
    exact hfocusing

theorem cancelAutoFocus_rig (hc : c.Layered) (hstage : .previewActive ≤ c.stage) :
    c.rig.Step (.action .cancelAutoFocus) c.cancelAutoFocus.1.rig := by
  obtain ⟨session, draft, hsession, hdraft, -⟩ :=
    layered_previewing hc (Stage.le_trans (by decide) hstage)
  have hunlocking : c.rig.Step (.action .cancelAutoFocus) _ := .unlocking hstage hsession hdraft
  unfold cancelAutoFocus
  rw [if_neg (Stage.not_lt.mpr hstage), hsession, hdraft]
  dsimp only
  split
  · next c' hsubmit =>
    obtain ⟨hkept, hsubmitted⟩ := submitTrigger_rig (k := c.rig) .previewActive .focusLocked hsubmit rfl
    rw [hsubmitted] at hunlocking
    exact hkept ▸ hunlocking
  · next c' fault hsubmit =>
    obtain ⟨-, hsubmitted⟩ := submitTrigger_rig (k := c.rig) .previewActive .focusLocked hsubmit rfl
    rw [hsubmitted] at hunlocking
    exact hunlocking

theorem onOpened_rig (device : δ) : c.rig.Step (.hardware (.opened device)) (c.onOpened device).rig := by
  unfold onOpened populate
  cases c.attached.openCallback with
  | none => exact .stray
  | some callback =>
    cases Subsystem.characteristics c.subsystem (Subsystem.idOf σ device) with
    | error fault => exact .stray
    | ok characteristics =>
      dsimp only
      cases hdraft : Subsystem.draft c.subsystem device .preview with
      | mk world answer =>
        have hworld : c.rig.drafted device = { c.rig with world } :=
          congrArg (fun answer => { c.rig with world := answer.1 }) hdraft
        cases answer with
        | error fault =>
          have hbroken : c.rig.Step (.hardware (.opened device)) _ := .broken
          rw [hworld] at hbroken
          exact hbroken
        | ok draft =>
          have hanswer : (Subsystem.draft c.rig.world device .preview).2 = .ok draft :=
            congrArg Prod.snd hdraft
          have hadopted : c.rig.Step (.hardware (.opened device)) _ := .adopted hanswer
          rw [hworld] at hadopted
          exact hadopted

theorem onConfigured_rig (session : τ) :
    c.rig.Step (.hardware (.configured session)) (c.onConfigured session).rig := by
  unfold onConfigured
  split_ifs with hstage
  · exact .discarded hstage
  · exact .configured (Stage.not_lt.mp hstage)

theorem notice_rig (event : Event δ τ) : c.rig.Step (.hardware event) (c.notice event).rig := by
  have hstill {c' : Controller σ δ τ} (hsame : c'.rig = c.rig) (hpassing : event.isPassing) :
      c.rig.Step (.hardware event) c'.rig := hsame ▸ .still hpassing
  cases event with
  | opened device => exact onOpened_rig (c := c.countEvent) device
  | disconnected => exact .still rfl
  | deviceError code => exact hstill (reportTo_rig c.countEvent _ _) rfl
  | configured session => exact onConfigured_rig (c := c.countEvent) session
  | configureFailed => exact .still rfl
  | active => exact hstill (onActive_rig c.countEvent) rfl
  | completed listener frame lens => exact hstill (onCompleted_rig c.countEvent listener lens) rfl
  | captureFailed listener frame reason =>
    exact hstill (onCaptureFailed_rig c.countEvent listener) rfl

/-- The action is let in. -/
theorem perform_rig {action : Action} (hc : c.Layered)
    (hheld : c.attached.device.isSome → c.stage ≠ .unopened) (hsuits : action.Suits c.stage) :
    c.rig.Step (.action action) (settle action.kind (c.perform action)).rig := by
  have hfine {result : Controller σ δ τ × Option Failure} (hfailure : result.2 = none)
      (hstep : c.rig.Step (.action action) result.1.rig) :
      c.rig.Step (.action action) (settle action.kind result).rig := by
    obtain ⟨c', failure⟩ := result
    cases hfailure
    exact hstep
  have hfailed {failure : Failure} (hkind : action.kind.isSupported = false) :
      c.rig.Step (.action action) (c.recover action.kind failure).rig := by
    have hkept : action.kind ≠ .release := fun hrelease => by
      rw [hrelease] at hkind
      cases hkind
    rw [recover_rig c hkept]
    exact .failed hkind
  have hvacant (hstage : c.stage = .unopened) : c.attached.device = none :=
    Option.not_isSome_iff_eq_none.mp fun hsome => hheld hsome hstage
  cases action with
  | openCamera index callback =>
    exact openCamera_rig (.action (.openCamera index callback)) rfl rfl trivial index callback hsuits
      (hvacant hsuits)
  | reconnect index callback =>
    exact openCamera_rig (.action (.reconnect index callback)) rfl rfl trivial index callback hsuits
      (hvacant hsuits)
  | release => exact release_rig _ rfl hsuits
  | setPreviewTexture texture => exact setPreviewTexture_rig texture hc hsuits
  | startPreview callback => exact hfine (startPreview_layered hc).2 (startPreview_rig callback hc hsuits)
  | stopPreview => exact hfine (stopPreview_layered hc).2 (stopPreview_rig hc hsuits)
  | applySettings settings =>
    exact hfine (applySettings_layered hc).2 (applySettings_rig settings hc hsuits)
  | autoFocus callback => exact hfine (autoFocus_layered hc).2 (autoFocus_rig callback hc hsuits)
  | cancelAutoFocus => exact hfine (cancelAutoFocus_layered hc).2 (cancelAutoFocus_rig hc hsuits)
  | setMoveCallback callback => exact .still trivial
  | querySettings reply => exact .still trivial
  | lock | unlock | capturePhoto | setDisplayOrientation degrees | startFaceDetection
  | stopFaceDetection => exact hfailed rfl

theorem act_rig (action : Action) (hc : c.Layered)
    (hheld : c.attached.device.isSome → c.stage ≠ .unopened) :
    c.rig.Step (.action action) (c.act action).rig := by
  by_cases hsuits : action.Suits c.stage
  · rw [act_eq]
    exact perform_rig (c := c.record action.kind) hc hheld hsuits
  · have hpasses : (Message.action (δ := δ) (τ := τ) action).Passes c.stage := by
      cases action <;> trivial
    rw [act_refused hsuits, refuse_rig]
    exact .still hpasses

/-- Every message is a step of the rig. -/
theorem handle_rig (message : Message δ τ) (hc : c.Layered)
    (hheld : c.attached.device.isSome → c.stage ≠ .unopened) :
    c.rig.Step message (c.handle message).rig := by
  cases message with
  | action action => exact act_rig action hc hheld
  | hardware event => exact notice_rig event
  | barrier ticket => exact .still trivial
  | shutdown =>
    show c.rig.Step .shutdown c.shutDown.rig
    unfold shutDown
    dsimp only
    split_ifs with hstage
    · exact .still hstage
    · exact release_rig .shutdown rfl hstage

end Controller

namespace Handled

variable {σ δ τ : Type} [Subsystem σ δ τ] {h : Handled σ δ τ} {past : List (Handled σ δ τ)}

theorem rigged (htenured : Run.Tenured ⟨h.before, past⟩) : h.before.rig.Step h.message h.after.rig :=
  Controller.handle_rig h.message htenured.layered htenured.held

/-- The same step, with its calls on record. -/
theorem recorded_rigged (htenured : Run.Tenured ⟨h.before, past⟩) :
    h.before.recorded.rig.Step h.message h.recorded.rig :=
  Controller.handle_rig (c := h.before.recorded) h.message htenured.layered htenured.held

end Handled

end CameraControl
