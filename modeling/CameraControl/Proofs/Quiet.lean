import CameraControl.Proofs.Layers

/-!
What most messages leave alone. `Custody` is what of a controller has to do with who has the camera: which
one is awaited or held, and how openings ended. `Quiet` steps change none of it and neither open nor close
a device, whatever else they say to the subsystem. All actions but openings and releases are quiet, until
one fails, and so are all events but those that deliver a device or complain about one.
-/
namespace CameraControl

/-- What subsystem calls and drafts can come to, with the calls on record. -/
inductive Talk {σ δ τ : Type} [Subsystem σ δ τ] : σ → List (Exchange δ τ) → σ → Prop
  | done (s : σ) : Talk s [] s
  | draft {s s' : σ} {xs : List (Exchange δ τ)} (device : δ) (template : Template)
      (h : Talk s xs s') : Talk s xs (Subsystem.draft s' device template).1
  | call {s s' : σ} {xs : List (Exchange δ τ)} (q : Call δ τ) (h : Talk s xs s') :
      Talk s (xs ++ [⟨q, (Subsystem.answer s' q).fault, (Subsystem.answer s' q).posted⟩])
        (Subsystem.answer s' q).world

theorem Talk.trans {σ δ τ : Type} [Subsystem σ δ τ] {s s' s'' : σ} {xs ys : List (Exchange δ τ)}
    (hx : Talk s xs s') (hy : Talk s' ys s'') : Talk s (xs ++ ys) s'' := by
  induction hy with
  | done => rwa [List.append_nil]
  | draft device template h ih => exact .draft device template ih
  | call q h ih => rw [← List.append_assoc]; exact .call q ih

/-- The camera's part of a controller. -/
structure Custody (δ : Type) where
  roster : Roster
  opener : Option Tag
  index : Nat
  isOpen : Bool
  device : Option δ
  outcomes : List Report

namespace Controller

variable {σ δ τ : Type}

def custody (c : Controller σ δ τ) : Custody δ where
  roster := c.roster
  opener := c.attached.openCallback
  index := c.attached.index
  isOpen := c.stage ≠ .unopened
  device := c.attached.device
  outcomes := c.outcomes

theorem report_custody (c : Controller σ δ τ) {r : Report} (hr : r.opener? = none) :
    (c.report r).custody = c.custody := by
  have houtcomes : (c.report r).outcomes = c.outcomes := by
    simp [outcomes, report, hr]
  unfold custody
  rw [houtcomes]
  rfl

theorem reportTo_custody (c : Controller σ δ τ) (callback : Option Tag) {r : Tag → Report}
    (hr : ∀ tag, (r tag).opener? = none) : (c.reportTo callback r).custody = c.custody := by
  cases callback with
  | none => rfl
  | some tag => exact c.report_custody (hr tag)

theorem report_outcome (c : Controller σ δ τ) {r : Report} (hr : r.opener?.isSome) :
    (c.report r).custody = { c.custody with outcomes := c.custody.outcomes ++ [r] } := by
  have houtcomes : (c.report r).outcomes = c.outcomes ++ [r] := by
    simp [outcomes, report, hr]
  unfold custody
  rw [houtcomes]
  rfl

theorem enter_custody (c : Controller σ δ τ) {stage : Stage} (hc : c.stage ≠ .unopened)
    (hstage : stage ≠ .unopened) : (c.enter stage).custody = c.custody := by
  have hopen : decide ((c.enter stage).stage ≠ .unopened) = decide (c.stage ≠ .unopened) := by
    rw [decide_eq_true hc]
    exact decide_eq_true hstage
  unfold custody
  rw [hopen]
  rfl

variable [Subsystem σ δ τ]

/-- From one recorded controller to the next: what was said to the subsystem meanwhile, where all that it
posted joined the mailbox. -/
structure Talks (c : Controller (Recorded σ δ τ) δ τ) (xs : List (Exchange δ τ))
    (c' : Controller (Recorded σ δ τ) δ τ) : Prop where
  talk : Talk c.subsystem.world xs c'.subsystem.world
  record : c'.subsystem.record = c.subsystem.record ++ xs
  mailbox : c'.mailbox = c.mailbox ++ (xs.flatMap (·.posted)).map .hardware

/-- The talk was about these devices, to open and to close them. -/
def Deals (c : Controller (Recorded σ δ τ) δ τ) (accepted : List DeviceId) (closed : List δ)
    (c' : Controller (Recorded σ δ τ) δ τ) : Prop :=
  ∃ xs, c.Talks xs c' ∧ xs.filterMap (·.accepted?) = accepted ∧ xs.filterMap (·.closed?) = closed

variable {c c' c'' : Controller (Recorded σ δ τ) δ τ}

theorem Deals.still (hsubsystem : c'.subsystem = c.subsystem) (hmailbox : c'.mailbox = c.mailbox) :
    c.Deals [] [] c' := by
  refine ⟨[], ⟨?_, ?_, ?_⟩, rfl, rfl⟩
  · rw [hsubsystem]
    exact .done _
  · rw [hsubsystem, List.append_nil]
  · rw [hmailbox]
    exact (List.append_nil _).symm

theorem Deals.trans {accepted accepted' : List DeviceId} {closed closed' : List δ}
    (h : c.Deals accepted closed c') (h' : c'.Deals accepted' closed' c'') :
    c.Deals (accepted ++ accepted') (closed ++ closed') c'' := by
  obtain ⟨xs, hx, rfl, rfl⟩ := h
  obtain ⟨ys, hy, rfl, rfl⟩ := h'
  refine ⟨xs ++ ys, ⟨hx.talk.trans hy.talk, ?_, ?_⟩, ?_, ?_⟩
  · rw [hy.record, hx.record, List.append_assoc]
  · rw [hy.mailbox, hx.mailbox, List.flatMap_append, List.map_append, List.append_assoc]
  · exact List.filterMap_append
  · exact List.filterMap_append

theorem deals_call (q : Call δ τ) :
    c.Deals (Exchange.accepted? ⟨q, (c.call q).2, []⟩).toList
      (Exchange.closed? (δ := δ) (τ := τ) ⟨q, none, []⟩).toList (c.call q).1 := by
  refine ⟨[⟨q, (c.call q).2, (Subsystem.answer c.subsystem q).posted⟩], ⟨?_, rfl, ?_⟩, ?_, ?_⟩
  · exact .call q (.done _)
  · simp [call, postAll]
  · cases q <;> rfl
  · cases q <;> rfl

/-- Nothing happened that has to do with custody. -/
structure Quiet (c c' : Controller (Recorded σ δ τ) δ τ) : Prop where
  deals : c.Deals [] [] c'
  custody : c'.custody = c.custody

theorem Quiet.still (hsubsystem : c'.subsystem = c.subsystem) (hmailbox : c'.mailbox = c.mailbox)
    (hcustody : c'.custody = c.custody) : c.Quiet c' :=
  ⟨.still hsubsystem hmailbox, hcustody⟩

theorem Quiet.refl (c : Controller (Recorded σ δ τ) δ τ) : c.Quiet c := .still rfl rfl rfl

theorem Quiet.trans (h : c.Quiet c') (h' : c'.Quiet c'') : c.Quiet c'' :=
  ⟨h.deals.trans h'.deals, h'.custody.trans h.custody⟩

theorem Deals.quietly {accepted : List DeviceId} {closed : List δ}
    (h : c.Deals accepted closed c') (h' : c'.Quiet c'') : c.Deals accepted closed c'' := by
  have hdeals := h.trans h'.deals
  rwa [List.append_nil, List.append_nil] at hdeals

theorem Quiet.opened (h : c.Quiet c') (hc : c.stage ≠ .unopened) : c'.stage ≠ .unopened := by
  have hopen : decide (c'.stage ≠ .unopened) = decide (c.stage ≠ .unopened) :=
    congrArg Custody.isOpen h.custody
  exact (decide_eq_decide.mp hopen).mpr hc

/-- A call to a session, with whatever answer. -/
theorem Quiet.of_call {q : Call δ τ} {fault : Option Fault} (hcall : c.call q = (c', fault))
    (hdeals : c.Deals [] [] (c.call q).1) : c.Quiet c' := by
  have hworld : c' = (c.call q).1 := by rw [hcall]
  rw [hworld]
  exact ⟨hdeals, rfl⟩

theorem Quiet.enter {stage : Stage} (h : c.Quiet c') (hc : c.stage ≠ .unopened)
    (hstage : stage ≠ .unopened) : c.Quiet (c'.enter stage) :=
  h.trans (.still rfl rfl (c'.enter_custody (h.opened hc) hstage))

theorem Quiet.reportTo {callback : Option Tag} {r : Tag → Report} (h : c.Quiet c')
    (hr : ∀ tag, (r tag).opener? = none) : c.Quiet (c'.reportTo callback r) := by
  refine h.trans (.still ?_ ?_ (c'.reportTo_custody callback hr))
  · cases callback <;> rfl
  · cases callback <;> rfl

theorem Quiet.reportFocus {callback : Option Tag} {sharp : Bool} (h : c.Quiet c') :
    c.Quiet (c'.reportFocus callback sharp) := by
  unfold Controller.reportFocus
  split
  · next tag camera hcamera => exact h.trans (.still rfl rfl (c'.report_custody rfl))
  · exact h

theorem closeSession_deals : c.Deals [] [] c.closeSession := by
  unfold closeSession
  cases c.attached.session with
  | none => exact .still rfl rfl
  | some session =>
    have hforgotten : c.Deals [] [] (c.attach { c.attached with session := none }) :=
      .still rfl rfl
    exact hforgotten.trans ((deals_call (.abortCaptures session)).trans (.still rfl rfl))

theorem closeSession_quiet (hc : c.stage ≠ .unopened) : c.Quiet c.closeSession := by
  refine ⟨closeSession_deals, ?_⟩
  unfold closeSession
  cases c.attached.session with
  | none => rfl
  | some session => exact enter_custody ((c.attach _).tell _) hc (by decide)

theorem bindTexture_quiet {texture : TextureId} {size : Size} {draft : Draft} :
    c.Quiet (c.bindTexture texture size draft).1 := by
  unfold bindTexture releaseSurface
  dsimp only
  cases c.attached.surface <;> exact .still rfl rfl rfl

theorem setPreviewTexture_quiet {texture : TextureId} :
    c.Quiet (c.setPreviewTexture texture).1 := by
  unfold setPreviewTexture
  split_ifs with hstage
  · exact .still rfl rfl rfl
  · exact .refl c
  · have hopen : c.stage ≠ .unopened := Stage.ne_unopened hstage (by decide)
    have hclosed : c.Quiet c.closeSession := closeSession_quiet hopen
    dsimp only
    split
    · exact hclosed
    · exact hclosed
    · next size draft hsize hdraft =>
      have hbound : c.Quiet (c.closeSession.bindTexture texture size draft).1 :=
        hclosed.trans bindTexture_quiet
      split
      · exact hbound
      · next device hdevice => exact hbound.trans ⟨deals_call (.createSession device _), rfl⟩

theorem startPreview_quiet {callback : Option Tag} : c.Quiet (c.startPreview callback).1 := by
  unfold startPreview
  split_ifs with hstage
  · exact .still rfl rfl rfl
  · have hopen : c.stage ≠ .unopened := by rw [not_not.mp hstage]; decide
    split
    · exact .refl c
    · exact .refl c
    · next session draft hsession hdraft =>
      have hattached : c.Quiet (c.attach { c.attached with previewCallback := callback }) :=
        .still rfl rfl rfl
      have hentered := hattached.enter hopen (by decide : Stage.previewActive ≠ .unopened)
      dsimp only
      split
      · next c' hcall => exact hentered.trans (.of_call hcall (deals_call _))
      · next c' fault hcall =>
        have hcalled := hentered.trans (.of_call hcall (deals_call _))
        have hforgotten : c.Quiet (c'.attach { c'.attached with previewCallback := none }) :=
          hcalled.trans (.still rfl rfl rfl)
        exact hforgotten.enter hopen (by decide)

theorem stopPreview_quiet : c.Quiet c.stopPreview.1 := by
  unfold stopPreview
  split_ifs with hstage
  · exact .still rfl rfl rfl
  · have hopen : c.stage ≠ .unopened := Stage.ne_unopened hstage (by decide)
    split
    · exact .refl c
    · split
      · next c' hcall =>
        have hcalled : c.Quiet c' := .of_call hcall (deals_call _)
        exact hcalled.enter hopen (by decide)
      · next c' fault hcall => exact .of_call hcall (deals_call _)

theorem applySettings_quiet {settings : Settings} : c.Quiet (c.applySettings settings).1 := by
  unfold applySettings
  split_ifs with hstage
  · exact .still rfl rfl rfl
  · split
    · exact .refl c
    · exact .refl c
    · next array draft harray hdraft =>
      have happlied : c.Quiet (c.attach { c.attached with
        previewSize := some settings.preview
        draft := some (draft.merge settings array)
        settings := some settings }) := .still rfl rfl rfl
      dsimp only
      split_ifs
      · split
        · exact happlied
        · exact happlied.trans ⟨deals_call (.setRepeating _ _ _), rfl⟩
      · exact happlied.enter hstage (by decide)
      · exact happlied

theorem submitTrigger_quiet {session : τ} {draft : Draft} {trigger : Trigger}
    {listener : Listener} {fault : Option Fault}
    (hsubmit : c.submitTrigger session draft trigger listener = (c', fault)) : c.Quiet c' := by
  have hattached : c.Quiet (c.attach { c.attached with
    draft := some ((draft.withTrigger trigger).withTrigger .idle) }) := .still rfl rfl rfl
  exact hattached.trans (.of_call hsubmit (deals_call _))

theorem autoFocus_quiet {callback : Option Tag} : c.Quiet (c.autoFocus callback).1 := by
  unfold autoFocus
  split_ifs with hstage
  · exact .still rfl rfl rfl
  · have hopen : c.stage ≠ .unopened := Stage.ne_unopened hstage (by decide)
    split
    · exact .refl c
    · exact .refl c
    · have hentered := (Quiet.refl c).enter hopen (by decide : Stage.focusLocked ≠ .unopened)
      dsimp only
      split
      · next c' hsubmit =>
        have hsubmitted := hentered.trans (submitTrigger_quiet hsubmit)
        exact hsubmitted.trans (.still rfl rfl rfl)
      · next c' fault hsubmit =>
        have hsubmitted := hentered.trans (submitTrigger_quiet hsubmit)
        exact (hsubmitted.enter hopen (by decide)).reportFocus

theorem cancelAutoFocus_quiet : c.Quiet c.cancelAutoFocus.1 := by
  unfold cancelAutoFocus
  split_ifs with hstage
  · exact .still rfl rfl rfl
  · have hopen : c.stage ≠ .unopened := Stage.ne_unopened hstage (by decide)
    split
    · exact .refl c
    · exact .refl c
    · have hentered := (Quiet.refl c).enter hopen (by decide : Stage.previewActive ≠ .unopened)
      split
      · next c' hsubmit => exact hentered.trans (submitTrigger_quiet hsubmit)
      · next c' fault hsubmit =>
        have hsubmitted := hentered.trans (submitTrigger_quiet hsubmit)
        exact hsubmitted.enter hopen (by decide)

theorem perform_quiet {action : Action} (hopening : action.opening? = none)
    (hrelease : action.kind ≠ .release) : c.Quiet (c.perform action).1 := by
  cases action with
  | openCamera index callback => cases hopening
  | reconnect index callback => cases hopening
  | release => exact absurd rfl hrelease
  | setPreviewTexture texture => exact setPreviewTexture_quiet
  | startPreview callback => exact startPreview_quiet
  | stopPreview => exact stopPreview_quiet
  | applySettings settings => exact applySettings_quiet
  | autoFocus callback => exact autoFocus_quiet
  | cancelAutoFocus => exact cancelAutoFocus_quiet
  | _ => exact .still rfl rfl rfl

theorem onConfigured_quiet {session : τ} : c.Quiet (c.onConfigured session) := by
  unfold onConfigured
  split_ifs with hstage
  · exact ⟨deals_call (.abortCaptures session), rfl⟩
  · have hsession : c.Quiet (c.attach { c.attached with session := some session }) :=
      .still rfl rfl rfl
    exact hsession.enter (Stage.ne_unopened hstage (by decide)) (by decide)

theorem onActive_quiet : c.Quiet c.onActive := by
  have hforgotten : c.Quiet (c.attach { c.attached with previewCallback := none }) :=
    .still rfl rfl rfl
  exact hforgotten.reportTo fun _ => rfl

theorem onTriggered_quiet : c.Quiet c.onTriggered := by
  unfold onTriggered
  split
  · exact .still rfl rfl rfl
  · exact .refl c

theorem onTriggerFailed_quiet : c.Quiet c.onTriggerFailed := by
  have hforgotten : c.Quiet (c.attach { c.attached with pendingFocus := none }) :=
    .still rfl rfl rfl
  exact hforgotten.reportFocus

theorem onLens_quiet {lens : Lens} : c.Quiet (c.onLens lens) := by
  have hseen : c.Quiet { c with lastLens := some lens } := .still rfl rfl rfl
  unfold onLens
  dsimp only
  split
  · exact hseen
  · split_ifs
    · exact hseen.reportTo fun _ => rfl
    · exact hseen
    · refine Quiet.reportTo ?_ fun _ => rfl
      exact hseen.trans (.still rfl rfl rfl)
    · exact hseen

theorem onCompleted_quiet {listener : Listener} {lens : Option Lens} :
    c.Quiet (c.onCompleted listener lens) := by
  unfold onCompleted
  split
  · exact onLens_quiet
  · exact .refl c
  · exact onTriggered_quiet
  · exact .refl c

theorem onCaptureFailed_quiet {listener : Listener} : c.Quiet (c.onCaptureFailed listener) := by
  unfold onCaptureFailed
  split
  · exact onTriggerFailed_quiet
  · exact .refl c
  · exact .refl c

end Controller

end CameraControl
