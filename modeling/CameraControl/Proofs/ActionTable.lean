import CameraControl.Proofs.Stages
import CameraControl.Proofs.Release

/-!
The action table. It says of every action in which stages it is let in, and where it can then take the
camera; what is not let in leaves nothing behind but a count, an entry in the history and word to an opener.
Of the events only two move the camera. A controller that has what its stage relies on keeps to the table
exactly, and in a run every controller does.
-/
namespace CameraControl

theorem Stage.previewActive_le {a : Stage} :
    .previewActive ≤ a ↔ a = .focusLocked ∨ a = .previewActive := by
  cases a <;> decide

/-- Where the table lets an action that is let in take the camera, from one stage to the next. -/
def Action.Leads : Action → Stage → Stage → Prop
  | release, _, next => next = .unopened
  | setPreviewTexture _, stage, next => next = stage ∨ next = .configured
  | startPreview _, _, next => next = .previewActive ∨ next = .previewReady
  | stopPreview, stage, next => next = .previewReady ∨ next = stage
  | applySettings _, stage, next => next = if stage < .previewReady then .configured else stage
  | autoFocus _, _, next | cancelAutoFocus, _, next => next = .focusLocked ∨ next = .previewActive
  | _, stage, next => next = stage

/-- Where the table lets an event take the camera. -/
def Event.Leads {δ τ : Type} : Event δ τ → Stage → Stage → Prop
  | opened _, stage, next => next = stage ∨ next = .unconfigured
  | configured _, stage, next => next = if stage < .configured then stage else .previewReady
  | _, stage, next => next = stage

namespace Controller

variable {σ δ τ : Type} {c : Controller σ δ τ}

/-- What is reported when an action is not let in: only an opener is told, with the history so far. -/
def rebuff (c : Controller σ δ τ) (action : Action) : List Reported :=
  match action.opening? with
  | some (index, callback) =>
    [⟨.alreadyOpen callback index ((c.history.record c.clock action.kind).describe index), c.stage⟩]
  | none => []

theorem refuse_eq (c : Controller σ δ τ) (action : Action) :
    (c.record action.kind).refuse action = { c with
      history := c.history.record c.clock action.kind
      tally := { c.tally with actions := c.tally.actions + 1, rejected := c.tally.rejected + 1 }
      reports := c.reports ++ c.rebuff action } := by
  unfold refuse rebuff
  cases action.opening? with
  | some asked => rfl
  | none =>
    rw [List.append_nil]
    rfl

variable [Subsystem σ δ τ]

/-- Settings make a camera configured that was not further along. -/
theorem applySettings_configures (settings : Settings) (h : c.Layered) (hopen : c.stage ≠ .unopened)
    (hstage : c.stage < .previewReady) :
    ∃ c', c.applySettings settings = (c', none) ∧ c'.stage = .configured := by
  have hunconfigured : .unconfigured ≤ c.stage := Stage.unconfigured_le.mpr hopen
  obtain ⟨array, harray⟩ := Option.isSome_iff_exists.mp (h.activeArray hunconfigured)
  obtain ⟨draft, hdraft⟩ := Option.isSome_iff_exists.mp (h.draft hunconfigured)
  have hkept (attached : Attachment δ τ) : (c.attach attached).stage = c.stage := rfl
  have hactive : ¬ .previewActive ≤ c.stage := by
    intro hactive
    exact Stage.not_lt.mpr (Stage.le_trans (by decide) hactive) hstage
  unfold applySettings
  rw [if_neg hopen, harray, hdraft]
  dsimp only
  rw [hkept, if_neg hactive, if_pos hstage]
  exact ⟨_, rfl, rfl⟩

theorem act_leads {action : Action} (h : c.Layered) (hsuits : action.Suits c.stage) :
    action.Leads c.stage (c.act action).stage := by
  have hturns : (c.act action).stage = c.stage ∨ (c.act action).stage ∈ action.targets c.stage :=
    (act_suited hsuits).stage
  cases action with
  | release =>
    have hopen : (c.record .release).stage ≠ .unopened := hsuits
    exact (release_opened hopen).1
  | setPreviewTexture texture => exact hturns.imp_right List.mem_singleton.mp
  | startPreview callback =>
    refine hturns.symm.imp List.mem_singleton.mp ?_
    intro hsame
    exact hsame.trans hsuits
  | stopPreview => exact hturns.symm.imp_left List.mem_singleton.mp
  | applySettings settings =>
    show (c.act _).stage = if c.stage < .previewReady then .configured else c.stage
    by_cases hstage : c.stage < .previewReady
    · have hrecorded : (c.record .applySettings).Layered := h
      obtain ⟨c', happlied, hconfigured⟩ :=
        applySettings_configures settings hrecorded hsuits hstage
      have hact : c.act (.applySettings settings) = c' := by
        rw [act_eq]
        exact congrArg (settle _) happlied
      rw [if_pos hstage, hact, hconfigured]
    · have htargets : (Action.applySettings settings).targets c.stage = [] := if_neg hstage
      rw [htargets] at hturns
      rw [if_neg hstage]
      exact hturns.resolve_right List.not_mem_nil
  | autoFocus callback | cancelAutoFocus =>
    rcases hturns with hsame | htarget
    · exact Stage.previewActive_le.mp (hsame.symm ▸ hsuits)
    · exact (List.mem_cons.mp htarget).symm.imp_left List.mem_singleton.mp
  | _ => exact hturns.resolve_right List.not_mem_nil

theorem notice_leads (c : Controller σ δ τ) (event : Event δ τ) :
    event.Leads c.stage (c.notice event).stage := by
  have hturns := (notice_turns (c := c) event).stage
  cases event with
  | opened device => exact hturns.imp_right List.mem_singleton.mp
  | configured session =>
    show (c.countEvent.onConfigured session).stage =
      if c.stage < .configured then c.stage else .previewReady
    unfold onConfigured
    have hstage : c.countEvent.stage = c.stage := rfl
    rw [hstage]
    split_ifs <;> rfl
  | _ => exact hturns.resolve_right List.not_mem_nil

end Controller

namespace Run

variable {ε σ δ τ : Type} [Subsystem σ δ τ] [Spontaneous ε σ δ τ]

/-- In every run, an action is rejected exactly if the table does not let it in, and then only the history,
the counts and what its opener is told differ. An action that is let in takes the camera where the table
says. Of the events only a device that is delivered and a session that is configured move the camera, and
none is rejected. -/
theorem follows_action_table (world : σ) (roster : Roster) (historySize : Nat)
    (moves : List (Move ε)) :
    let r := (start world roster historySize).run moves
    ∀ h past, (h :: past) <:+ r.past →
      (∀ action, h.message = .action action →
        (h.after.tally.rejected = h.before.tally.rejected +
          if action.Suits h.before.stage then 0 else 1) ∧
        (¬ action.Suits h.before.stage → h.after = { h.before with
          history := h.before.history.record h.before.clock action.kind
          tally := { h.before.tally with
            actions := h.before.tally.actions + 1, rejected := h.before.tally.rejected + 1 }
          reports := h.before.reports ++ h.before.rebuff action }) ∧
        (action.Suits h.before.stage → action.Leads h.before.stage h.after.stage)) ∧
      ∀ event, h.message = .hardware event →
        h.after.tally.rejected = h.before.tally.rejected ∧
        event.Leads h.before.stage h.after.stage := by
  intro r h past hsuffix
  obtain ⟨-, -, hbefore⟩ := invariant_tenured (fun _ => True) (fun _ => True)
    (fun _ _ _ _ => trivial) (fun _ _ _ _ => trivial) world roster historySize
    (fun move (_ : move ∈ moves) => trivial) trivial
  have hlayered : h.before.Layered := (hbefore h past hsuffix).1.layered
  constructor
  · intro action hmessage
    have hafter : h.after = h.before.act action := by
      unfold Handled.after
      rw [hmessage]
      rfl
    rw [hafter]
    refine ⟨Controller.act_rejected action, ?_, Controller.act_leads hlayered⟩
    intro hsuits
    rw [Controller.act_refused hsuits]
    exact Controller.refuse_eq h.before action
  · intro event hmessage
    have hafter : h.after = h.before.notice event := by
      unfold Handled.after
      rw [hmessage]
      rfl
    rw [hafter]
    exact ⟨(Controller.notice_turns event).rejected, Controller.notice_leads h.before event⟩

end Run

namespace Simulator

/-- A preview is started, and asked for a second time. -/
def previewTwice : List Move :=
  [.ask (.openCamera 0 0), .handle, .handle, .addTexture,
    .ask (.applySettings { preview := ⟨640, 480⟩, photo := ⟨640, 480⟩ }), .ask (.setPreviewTexture 1),
    .handle, .handle, .handle, .ask (.startPreview none), .handle, .handle, .ask (.startPreview none),
    .handle]

theorem second_preview_rejected : ∃ h past, (h :: past) <:+ (run previewTwice).past ∧
    h.message = .action (.startPreview none) ∧ h.before.stage = .previewActive ∧
    h.after.tally.rejected = h.before.tally.rejected + 1 ∧ h.after.stage = h.before.stage ∧
    h.after.subsystem = h.before.subsystem ∧ h.after.mailbox = h.before.mailbox := by
  obtain ⟨h, past, hpast, hmessage, hstage⟩ : ∃ h past, (run previewTwice).past = h :: past ∧
      h.message = .action (.startPreview none) ∧ h.before.stage = .previewActive :=
    ⟨_, _, rfl, rfl, rfl⟩
  have hsuffix : (h :: past) <:+ (run previewTwice).past := hpast ▸ List.suffix_refl _
  have hsuits : ¬ (Action.startPreview none).Suits h.before.stage := by
    rw [hstage]
    decide
  obtain ⟨haction, -⟩ := Run.follows_action_table (withDevices ["0", "1"])
    (Roster.empty.update ["0", "1"]) 20 previewTwice h past hsuffix
  obtain ⟨hcount, hrejected, -⟩ := haction (.startPreview none) hmessage
  rw [if_neg hsuits] at hcount
  have hafter := hrejected hsuits
  refine ⟨h, past, hsuffix, hmessage, hstage, hcount, ?_, ?_, ?_⟩
  · rw [hafter]
    rfl
  · rw [hafter]
  · rw [hafter]

end Simulator

end CameraControl
