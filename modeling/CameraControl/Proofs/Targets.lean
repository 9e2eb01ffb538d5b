import CameraControl.Proofs.Runs

/-!
What the calls of an action are about. Nothing of an earlier opening is left to call on: while an action is
handled, every call about a device or a capture session is about the one that the controller then holds, and
what it holds afterwards it held before. This is put together from `Confined` steps and holds of every
controller, also of one whose stage was forced.
-/
namespace CameraControl

section

variable {σ δ τ : Type}

/-- The device that a call is about. -/
def Call.device? : Call δ τ → Option δ
  | closeDevice device => some device
  | createSession device _ => some device
  | _ => none

/-- The capture session that a call is about. -/
def Call.session? : Call δ τ → Option τ
  | setRepeating session _ _ => some session
  | stopRepeating session => some session
  | capture session _ _ => some session
  | abortCaptures session => some session
  | _ => none

/-- A call is about nothing but what is held. -/
def Attachment.Covers (held : Attachment δ τ) (q : Call δ τ) : Prop :=
  (∀ device, q.device? = some device → held.device = some device) ∧
    ∀ session, q.session? = some session → held.session = some session

/-- Covered by less is covered by more. -/
theorem Attachment.Covers.mono {held more : Attachment δ τ} {q : Call δ τ} (hq : held.Covers q)
    (hdevice : ∀ device, held.device = some device → more.device = some device)
    (hsession : ∀ session, held.session = some session → more.session = some session) :
    more.Covers q :=
  ⟨fun device hq' => hdevice device (hq.1 device hq'), fun session hq' => hsession session (hq.2 session hq')⟩

end

namespace Controller

variable {σ δ τ : Type}

/-- No device or session was called on, or is held, other than the one held before. -/
structure Confined (c c' : Controller (Recorded σ δ τ) δ τ) : Prop where
  device : ∀ device, c'.attached.device = some device → c.attached.device = some device
  session : ∀ session, c'.attached.session = some session → c.attached.session = some session
  calls : ∃ xs, c'.subsystem.record = c.subsystem.record ++ xs ∧ ∀ x ∈ xs, c.attached.Covers x.call

namespace Confined

variable {c c' c'' : Controller (Recorded σ δ τ) δ τ}

theorem same (hdevice : c'.attached.device = c.attached.device)
    (hsession : c'.attached.session = c.attached.session) (hsubsystem : c'.subsystem = c.subsystem) :
    c.Confined c' where
  device device hheld := hdevice ▸ hheld
  session session hheld := hsession ▸ hheld
  calls := ⟨[], by rw [hsubsystem, List.append_nil], fun _ hx => absurd hx List.not_mem_nil⟩

theorem refl (c : Controller (Recorded σ δ τ) δ τ) : c.Confined c := same rfl rfl rfl

theorem trans (h : c.Confined c') (h' : c'.Confined c'') : c.Confined c'' := by
  obtain ⟨xs, hxs, hcovered⟩ := h.calls
  obtain ⟨ys, hys, hcovered'⟩ := h'.calls
  refine ⟨fun device hheld => h.device device (h'.device device hheld),
    fun session hheld => h.session session (h'.session session hheld), xs ++ ys, ?_, ?_⟩
  · rw [hys, hxs, List.append_assoc]
  · intro x hx
    rcases List.mem_append.mp hx with hx | hx
    · exact hcovered x hx
    · exact (hcovered' x hx).mono h.device h.session

theorem enter (h : c.Confined c') (stage : Stage) : c.Confined (c'.enter stage) :=
  h.trans (same rfl rfl rfl)

theorem report (h : c.Confined c') (r : Report) : c.Confined (c'.report r) :=
  h.trans (same rfl rfl rfl)

theorem reportTo (h : c.Confined c') (callback : Option Tag) (r : Tag → Report) :
    c.Confined (c'.reportTo callback r) := by
  cases callback with
  | none => exact h
  | some tag => exact h.report (r tag)

theorem reportFocus (h : c.Confined c') (callback : Option Tag) (sharp : Bool) :
    c.Confined (c'.reportFocus callback sharp) := by
  unfold Controller.reportFocus
  split
  · exact h.report _
  · exact h

variable [Subsystem σ δ τ]

theorem call (h : c.Confined c') {q : Call δ τ} (hq : c'.attached.Covers q) :
    c.Confined (c'.call q).1 := by
  refine h.trans ⟨fun _ => id, fun _ => id,
    [⟨q, (c'.call q).2, (Subsystem.answer c'.subsystem q).posted⟩], rfl, ?_⟩
  intro x hx
  obtain rfl := List.mem_singleton.mp hx
  exact hq

end Confined

variable {c : Controller (Recorded σ δ τ) δ τ}

theorem covers_session {session : τ} (h : c.attached.session = some session) {q : Call δ τ}
    (hdevice : q.device? = none) (hsession : q.session? = some session) : c.attached.Covers q :=
  ⟨fun _ hq => (nomatch hdevice.symm.trans hq), fun _ hq => h.trans (hsession.symm.trans hq)⟩

theorem covers_device {device : δ} (h : c.attached.device = some device) {q : Call δ τ}
    (hdevice : q.device? = some device) (hsession : q.session? = none) : c.attached.Covers q :=
  ⟨fun _ hq => h.trans (hdevice.symm.trans hq), fun _ hq => (nomatch hsession.symm.trans hq)⟩

theorem releaseSurface_confined : c.Confined c.releaseSurface := by
  unfold releaseSurface
  split <;> exact .same rfl rfl rfl

theorem bindTexture_confined (texture : TextureId) (size : Size) (draft : Draft) :
    c.Confined (c.bindTexture texture size draft).1 := by
  unfold bindTexture releaseSurface
  dsimp only
  split <;> exact .same rfl rfl rfl

variable [Subsystem σ δ τ]

/-- The device is let go of as it is closed. -/
theorem closeDevice_confined : c.Confined c.closeDevice := by
  unfold closeDevice
  split
  · next device hdevice =>
    refine ⟨nofun, fun _ => id, [⟨.closeDevice device, _, _⟩], rfl, ?_⟩
    intro x hx
    obtain rfl := List.mem_singleton.mp hx
    exact covers_device hdevice rfl rfl
  · exact .refl c

theorem closeSession_confined : c.Confined c.closeSession := by
  unfold closeSession
  split
  · next session hsession =>
    refine ⟨fun _ => id, nofun, [⟨.abortCaptures session, _, _⟩], rfl, ?_⟩
    intro x hx
    obtain rfl := List.mem_singleton.mp hx
    exact covers_session hsession rfl rfl
  · exact .refl c

theorem openCamera_confined (index : Nat) (callback : Tag) :
    c.Confined (c.openCamera index callback).1 := by
  by_cases hstage : c.stage = .unopened
  · have hawaited (id : Option DeviceId) : c.Confined (c.awaiting index callback id) := .same rfl rfl rfl
    rw [openCamera_unopened hstage]
    split
    · exact hawaited none
    · exact (hawaited none).report _
    · next id hid => exact (hawaited (some id)).call ⟨nofun, nofun⟩
  · unfold openCamera
    rw [if_pos hstage]
    exact .same rfl rfl rfl

theorem release_confined : c.Confined c.release := by
  unfold release
  split_ifs
  · exact .same rfl rfl rfl
  · have hclosed := closeSession_confined.trans (closeDevice_confined (c := c.closeSession))
    have hreleased := hclosed.trans (releaseSurface_confined (c := c.closeSession.closeDevice))
    exact hreleased.trans ⟨nofun, nofun, [], (List.append_nil _).symm,
      fun _ hx => absurd hx List.not_mem_nil⟩

theorem setPreviewTexture_confined (texture : TextureId) :
    c.Confined (c.setPreviewTexture texture).1 := by
  unfold setPreviewTexture
  split_ifs
  · exact .same rfl rfl rfl
  · exact .refl c
  · dsimp only
    split
    · exact closeSession_confined
    · exact closeSession_confined
    · next size draft hsize hdraft =>
      have hbound : c.Confined (c.closeSession.bindTexture texture size draft).1 :=
        closeSession_confined.trans (bindTexture_confined texture size draft)
      split
      · exact hbound
      · next device hdevice => exact hbound.call (covers_device hdevice rfl rfl)

theorem startPreview_confined (callback : Option Tag) : c.Confined (c.startPreview callback).1 := by
  unfold startPreview
  split_ifs
  · exact .same rfl rfl rfl
  · split
    · exact .refl c
    · exact .refl c
    · next session draft hsession hdraft =>
      have hentered : c.Confined ((c.attach { c.attached with previewCallback := callback }).enter
        .previewActive) := .same rfl rfl rfl
      have hcalled := hentered.call (q := .setRepeating session draft.build .lensState)
        (covers_session hsession rfl rfl)
      dsimp only
      split <;> next heq =>
        rw [heq] at hcalled
        exact hcalled.trans (.same rfl rfl rfl)

theorem stopPreview_confined : c.Confined c.stopPreview.1 := by
  unfold stopPreview
  split_ifs
  · exact .same rfl rfl rfl
  · split
    · exact .refl c
    · next session hsession =>
      have hcalled := (Confined.refl c).call (q := .stopRepeating session)
        (covers_session hsession rfl rfl)
      split <;> next heq =>
        rw [heq] at hcalled
        exact hcalled.trans (.same rfl rfl rfl)

theorem applySettings_confined (settings : Settings) : c.Confined (c.applySettings settings).1 := by
  unfold applySettings
  split_ifs
  · exact .same rfl rfl rfl
  · split
    · exact .refl c
    · exact .refl c
    · next array draft harray hdraft =>
      dsimp only
      split_ifs
      · split
        · exact .same rfl rfl rfl
        · next session hsession =>
          have hmerged : c.Confined (c.attach { c.attached with
              previewSize := some settings.preview
              draft := some (draft.merge settings array)
              settings := some settings }) := .same rfl rfl rfl
          exact hmerged.call (q := .setRepeating session _ .lensState) (covers_session hsession rfl rfl)
      · exact .same rfl rfl rfl
      · exact .same rfl rfl rfl

theorem submitTrigger_confined {session : τ} (hsession : c.attached.session = some session)
    (draft : Draft) (trigger : Trigger) (listener : Listener) :
    c.Confined (c.submitTrigger session draft trigger listener).1 := by
  have hattached : c.Confined
    (c.attach { c.attached with draft := some ((draft.withTrigger trigger).withTrigger .idle) }) :=
      .same rfl rfl rfl
  exact hattached.call (covers_session hsession rfl rfl)

theorem autoFocus_confined (callback : Option Tag) : c.Confined (c.autoFocus callback).1 := by
  unfold autoFocus
  split_ifs
  · exact .same rfl rfl rfl
  · split
    · exact .refl c
    · exact .refl c
    · next session draft hsession hdraft =>
      have hentered := (Confined.refl c).enter .focusLocked
      have hsubmitted := hentered.trans
        (submitTrigger_confined (c := c.enter .focusLocked) hsession draft .start .focusTrigger)
      split
      · next heq =>
        rw [heq] at hsubmitted
        exact hsubmitted.trans (.same rfl rfl rfl)
      · next heq =>
        rw [heq] at hsubmitted
        exact (hsubmitted.enter _).reportFocus _ _

theorem cancelAutoFocus_confined : c.Confined c.cancelAutoFocus.1 := by
  unfold cancelAutoFocus
  split_ifs
  · exact .same rfl rfl rfl
  · split
    · exact .refl c
    · exact .refl c
    · next session draft hsession hdraft =>
      have hentered := (Confined.refl c).enter .previewActive
      have hsubmitted := hentered.trans
        (submitTrigger_confined (c := c.enter .previewActive) hsession draft .cancel .untracked)
      split <;> next heq =>
        rw [heq] at hsubmitted
        exact hsubmitted.trans (.same rfl rfl rfl)

theorem perform_confined (action : Action) : c.Confined (c.perform action).1 := by
  cases action with
  | openCamera index callback => exact openCamera_confined index callback
  | reconnect index callback => exact openCamera_confined index callback
  | release => exact release_confined
  | setPreviewTexture texture => exact setPreviewTexture_confined texture
  | startPreview callback => exact startPreview_confined callback
  | stopPreview => exact stopPreview_confined
  | applySettings settings => exact applySettings_confined settings
  | autoFocus callback => exact autoFocus_confined callback
  | cancelAutoFocus => exact cancelAutoFocus_confined
  | _ => exact .same rfl rfl rfl

theorem recover_confined (kind : Action.Kind) (failure : Failure) :
    c.Confined (c.recover kind failure) := by
  have hcounted : c.Confined c.countFailure := .same rfl rfl rfl
  have htidied : c.Confined (c.countFailure.tidy kind) := by
    unfold tidy
    split_ifs
    · exact hcounted
    · exact hcounted.trans closeDevice_confined
    · exact hcounted.reportTo _ _
    · exact hcounted
  rw [recover_eq]
  split_ifs
  · unfold raise
    split
    · exact htidied.report _
    · exact htidied.trans (.same rfl rfl rfl)
  · exact htidied

theorem act_confined (action : Action) : c.Confined (c.act action) := by
  have hrecorded : c.Confined (c.record action.kind) := .same rfl rfl rfl
  have hperformed := hrecorded.trans (perform_confined action)
  rw [act_eq]
  generalize (c.record action.kind).perform action = result at hperformed ⊢
  rcases result with ⟨c', _ | failure⟩
  · exact hperformed
  · exact hperformed.trans (recover_confined action.kind failure)

end Controller

/-- The calls of an action are about what is held when it is handled. -/
theorem Handled.calls_covered {σ δ τ : Type} [Subsystem σ δ τ] {h : Handled σ δ τ} {action : Action}
    (haction : h.message = .action action) :
    ∀ x ∈ h.recorded.subsystem.record, h.before.attached.Covers x.call := by
  have hconfined : h.before.recorded.Confined h.recorded := by
    unfold Handled.recorded
    rw [haction]
    exact Controller.act_confined action
  obtain ⟨xs, hrecord, hcovered⟩ := hconfined.calls
  have hsame : h.recorded.subsystem.record = xs := hrecord
  rw [hsame]
  exact hcovered

end CameraControl
