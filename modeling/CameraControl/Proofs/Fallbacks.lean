import CameraControl.Proofs.StaleSessions
import CameraControl.Proofs.Surfaces

/-!
Submissions that a session refuses. Starting and stopping a preview and applying settings then leave the stage
as it was. The two triggers do not look back: without a lock to be had the preview counts as running, and
without one to be released as locked, whichever of the two it was. Neither leaves its trigger in the draft.
-/
namespace CameraControl

/-- The stage once the session has refused what the action submits. -/
def Action.fallback? : Action → Stage → Option Stage
  | startPreview _, stage | stopPreview, stage | applySettings _, stage => some stage
  | autoFocus _, _ => some .previewActive
  | cancelAutoFocus, _ => some .focusLocked
  | _, _ => none

/-- Only a camera that is open has something to fall back on. -/
theorem Action.fallback_open {action : Action} {stage target : Stage}
    (hfallback : action.fallback? stage = some target) (hsuits : action.Suits stage) :
    target ≠ .unopened := by
  have hhigh {low : Stage} (hlow : low ≠ .unopened) (hle : low ≤ stage) : stage ≠ .unopened :=
    Stage.ne_unopened (Stage.not_lt.mpr hle) hlow
  cases action with
  | startPreview callback =>
    have hready : stage = .previewReady := hsuits
    cases hfallback
    rw [hready]
    decide
  | stopPreview =>
    cases hfallback
    exact hhigh (by decide) hsuits
  | applySettings settings =>
    cases hfallback
    exact hsuits
  | autoFocus | cancelAutoFocus =>
    cases hfallback
    decide
  | _ => cases hfallback

/-- A session was to be used, and refused. -/
def Exchange.isRefusal {δ τ : Type} (x : Exchange δ τ) : Bool := x.call.used?.isSome && x.fault.isSome

section
variable {σ δ τ : Type} [Subsystem σ δ τ]

/-- Handling the message, a session refused to be used. -/
def Handled.refused (h : Handled σ δ τ) : Bool := h.recorded.subsystem.record.any (·.isRefusal)

namespace Rig

variable {k k' : Rig (Recorded σ δ τ) δ τ}

/-- A submission that is on record as refused had the stage fall back. -/
theorem submit_fallback {q : Call δ τ} {accepted refused : Stage} (hrecord : k.world.record = [])
    (hrefused : (k.submit q accepted refused).world.record.any (·.isRefusal)) :
    (k.submit q accepted refused).stage = refused := by
  have hsame : (k.submit q accepted refused).world.record =
      k.world.record ++ [⟨q, k.fault q, (Subsystem.answer k.world q).posted⟩] := rfl
  rw [hsame, hrecord, List.nil_append, List.any_cons, List.any_nil, Bool.or_false] at hrefused
  have hfault : (k.fault q).isSome := (Bool.and_eq_true_iff.mp hrefused).2
  refine if_neg fun hnone => ?_
  rw [Option.isNone_iff_eq_none.mp hnone] at hfault
  cases hfault

theorem Step.fallback {action : Action} {target : Stage} (h : k.Step (.action action) k')
    (hrecord : k.world.record = []) (hfallback : action.fallback? k.stage = some target)
    (hrefused : k'.world.record.any (·.isRefusal)) : k'.stage = target := by
  have hsilent (hsame : k'.world.record = k.world.record) : k'.stage = target := by
    rw [hsame, hrecord] at hrefused
    cases hrefused
  cases h with
  | still => exact hsilent rfl
  | asked hopening => cases action <;> cases hfallback <;> cases hopening
  | failed hkind => cases action <;> cases hfallback <;> cases hkind
  | released hrelease => cases action <;> cases hfallback <;> cases hrelease
  | kept | bound => cases hfallback
  | started hstage =>
    cases hfallback
    rw [hstage]
    exact submit_fallback hrecord hrefused
  | stopped | focusing | unlocking =>
    cases hfallback
    exact submit_fallback hrecord hrefused
  | applied => exact hsilent rfl
  | resubmitted =>
    cases hfallback
    rfl

end Rig

namespace Handled

variable {h : Handled σ δ τ} {past : List (Handled σ δ τ)} {action : Action}

/-- An action that is rejected does not get as far as a session. -/
theorem suits_of_refused (hmessage : h.message = .action action) (hrefused : h.refused) :
    action.Suits h.before.stage := by
  by_contra hsuits
  have hrecorded : h.recorded = (h.before.recorded.record action.kind).refuse action := by
    unfold recorded
    rw [hmessage]
    exact Controller.act_refused hsuits
  have hrig := Controller.refuse_rig (h.before.recorded.record action.kind) action
  rw [← hrecorded] at hrig
  have hsilent : h.recorded.subsystem.record = [] := congrArg (·.world.record) hrig
  unfold refused at hrefused
  rw [hsilent] at hrefused
  cases hrefused

/-- Whatever the stage was set to before the session was asked, it is set right afterwards. -/
theorem falls_back {target : Stage} (htenured : Run.Tenured ⟨h.before, past⟩)
    (hmessage : h.message = .action action) (hfallback : action.fallback? h.before.stage = some target)
    (hrefused : h.refused) :
    h.after.stage = target ∧ h.after.tally.rejected = h.before.tally.rejected := by
  have hstep := recorded_rigged htenured
  rw [hmessage] at hstep
  have hstage : h.after.stage = h.recorded.stage :=
    congrArg Controller.stage h.recorded_bare.symm
  have hafter : h.after = h.before.act action := by
    unfold after
    rw [hmessage]
    rfl
  refine ⟨hstage.trans (hstep.fallback rfl hfallback hrefused), ?_⟩
  rw [hafter, Controller.act_rejected, if_pos (suits_of_refused hmessage hrefused), Nat.add_zero]

end Handled

/-- Between messages no draft carries a trigger. -/
theorem Run.Sketched.idle {r : Run σ δ τ} (hr : r.Sketched) {draft : Draft}
    (hdraft : r.now.attached.draft = some draft) : draft.build.trigger = .idle := by
  unfold Run.Sketched at hr
  rw [hdraft] at hr
  cases htenure : tenure r.past with
  | none =>
    rw [htenure] at hr
    cases hr
  | some held =>
    rw [htenure] at hr
    obtain ⟨camera, -, -, hsketch⟩ := hr
    exact congrArg (·.content.trigger) (Option.some.inj hsketch)

end

namespace Run

variable {ε σ δ τ : Type} [Subsystem σ δ τ] [Spontaneous ε σ δ τ]

/-- In every run, an action that is let in and whose submission is refused leaves the camera in the stage that
it falls back to, and the draft without a trigger. Only the triggers can have it end up in another stage than
before: a lock that is not to be had while another is held, or one not to be released while none is. -/
theorem refused_falls_back (hfresh : Subsystem.Fresh σ) (world : σ) (roster : Roster) (historySize : Nat)
    (moves : List (Move ε)) :
    ∀ h past, (h :: past) <:+ ((start world roster historySize).run moves).past →
      ∀ action target, h.message = .action action → action.fallback? h.before.stage = some target →
        h.refused →
        h.after.stage = target ∧ h.after.tally.rejected = h.before.tally.rejected ∧
          ∃ draft, h.after.attached.draft = some draft ∧ draft.build.trigger = .idle := by
  obtain ⟨-, -, hbefore⟩ := invariant_tenured Sketched (fun _ => True)
    (fun r move _ hr => sketched_meanwhile r move hr)
    (fun h past htenured hr => sketched_handle hfresh htenured hr) world roster historySize
    (fun move (_ : move ∈ moves) => trivial) rfl
  intro h past hsuffix action target hmessage hfallback hrefused
  obtain ⟨htenured, hr⟩ := hbefore h past hsuffix
  have htenured : Tenured ⟨h.before, past⟩ := { htenured with }
  obtain ⟨hstage, hrejected⟩ := Handled.falls_back htenured hmessage hfallback hrefused
  have hopen : .unconfigured ≤ h.after.stage := by
    rw [hstage]
    exact Stage.unconfigured_le.mpr
      (Action.fallback_open hfallback (Handled.suits_of_refused hmessage hrefused))
  obtain ⟨draft, hdraft⟩ := Option.isSome_iff_exists.mp (htenured.handle.layered.draft hopen)
  exact ⟨hstage, hrejected, draft, hdraft, (sketched_handle hfresh htenured hr).idle hdraft⟩

/-- While a preview is running, a lock that is not held is not released, and then another is not to be had. -/
def contraryMoves : List Simulator.Move :=
  [.ask (.openCamera 0 0), .handle, .handle, .addTexture,
    .ask (.applySettings { preview := ⟨640, 480⟩, photo := ⟨640, 480⟩ }), .ask (.setPreviewTexture 1),
    .handle, .handle, .handle, .ask (.startPreview none), .handle, .handle, .stir (.arm .capture),
    .ask .cancelAutoFocus, .handle, .stir (.arm .capture), .ask (.autoFocus none), .handle]

theorem contrary_falls_back : Subsystem.Fresh Simulator ∧
    ∃ h past, (h :: past) <:+ (Simulator.run contraryMoves).past ∧ h.message = .action (.autoFocus none) ∧
      Action.fallback? (.autoFocus none) h.before.stage = some .previewActive ∧ h.refused ∧
      h.after.stage = .previewActive ∧ h.after.tally.rejected = h.before.tally.rejected ∧
      ∃ draft, h.after.attached.draft = some draft ∧ draft.build.trigger = .idle := by
  have hpast := refused_falls_back Simulator.fresh (Simulator.withDevices ["0", "1"])
    (Roster.empty.update ["0", "1"]) 20 contraryMoves
  exact ⟨Simulator.fresh, _, _, List.suffix_refl _, rfl, rfl, rfl,
    hpast _ _ (List.suffix_refl _) _ _ rfl rfl rfl⟩

/-- Neither refusal leaves the stage as it was: the preview counts as locked after the first, and no longer
does after the second. -/
theorem contrary_not_rolled_back :
    (∃ h past, (h :: past) <:+ (Simulator.run contraryMoves).past ∧
      h.message = .action .cancelAutoFocus ∧ h.refused ∧
      h.after.tally.rejected = h.before.tally.rejected ∧ h.before.stage = .previewActive ∧
      h.after.stage = .focusLocked) ∧
    ∃ h past, (h :: past) <:+ (Simulator.run contraryMoves).past ∧
      h.message = .action (.autoFocus none) ∧ h.refused ∧
      h.after.tally.rejected = h.before.tally.rejected ∧ h.before.stage = .focusLocked ∧
      h.after.stage = .previewActive :=
  ⟨⟨_, _, List.suffix_cons _ _, rfl, rfl, rfl, rfl, rfl⟩, _, _, List.suffix_refl _, rfl, rfl, rfl, rfl, rfl⟩

end Run

end CameraControl
