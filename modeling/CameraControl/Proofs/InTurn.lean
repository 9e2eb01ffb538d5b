import CameraControl.Proofs.Stages
import CameraControl.Proofs.Standstill

/-!
Actions that were posted in time and come too late. The dispatcher looks at the stage when it posts an
action, the controller when its turn has come. In between it handles what was in the mailbox before, so
only that can have taken the camera out of the stages that let the action in.
-/
namespace CameraControl

theorem Stage.mem_all (a : Stage) : a ∈ all := by cases a <;> decide

theorem Stage.mem_atLeast {a b : Stage} : a ∈ Set.atLeast b ↔ b ≤ a := by
  show a ∈ all.filter (b ≤ ·) ↔ b ≤ a
  simp [a.mem_all]

/-- What a call waits for are the stages that let its action in, but for a preview that is shown already,
which is as good as one that is ready to be. -/
theorem Action.suits_of_awaited {action : Action} {wanted : Stage.Set} {stage : Stage}
    (hawaited : action.awaited = some wanted) (hstage : stage ∈ wanted) :
    action.Suits stage ∨ (∃ callback, action = startPreview callback) ∧ .previewActive ≤ stage := by
  cases action with
  | applySettings settings =>
    cases hawaited
    exact Or.inl (Stage.unconfigured_le.mp (Stage.mem_atLeast.mp hstage))
  | startPreview callback =>
    cases hawaited
    have hready : .previewReady ≤ stage := Stage.mem_atLeast.mp hstage
    by_cases hactive : .previewActive ≤ stage
    · exact Or.inr ⟨⟨callback, rfl⟩, hactive⟩
    · left
      show stage = .previewReady
      cases stage <;> first | rfl | exact absurd hready (by decide) | exact absurd (by decide) hactive
  | autoFocus callback =>
    cases hawaited
    left
    show .previewActive ≤ stage
    revert hstage
    cases stage <;> decide
  | _ => cases hawaited

section disturbs

variable {δ τ : Type}

/-- The message can take the camera from a stage that lets the action in to one that does not. -/
def Message.disturbs (message : Message δ τ) (action : Action) : Bool :=
  Stage.all.any fun stage => action.Suits stage &&
    (message.targets stage).any fun target => !decide (action.Suits target)

variable {message : Message δ τ}

theorem disturbs_of_target {action : Action} {stage target : Stage} (hsuits : action.Suits stage)
    (htarget : target ∈ message.targets stage) (hunsuited : ¬ action.Suits target) :
    message.disturbs action := by
  refine List.any_eq_true.mpr ⟨stage, stage.mem_all, ?_⟩
  have htarget : (message.targets stage).any fun target => !decide (action.Suits target) :=
    List.any_eq_true.mpr ⟨target, htarget, by simpa using hunsuited⟩
  rw [htarget, Bool.and_true]
  exact decide_eq_true hsuits

/-- Settings are out of place only once the camera was given up. -/
theorem disturbs_applySettings (settings : Settings) :
    message.disturbs (.applySettings settings) = message.isRelease := by
  cases message with
  | action action => cases action <;> rfl
  | hardware event => cases event <;> rfl
  | barrier ticket => rfl
  | shutdown => rfl

end disturbs

/-- The actions that calls wait to have posted. -/
theorem Action.awaited_cases {action : Action} {wanted : Stage.Set}
    (hawaited : action.awaited = some wanted) : (∃ settings, action = applySettings settings) ∨
      (∃ callback, action = startPreview callback) ∨ ∃ callback, action = autoFocus callback := by
  cases action with
  | applySettings settings => exact Or.inl ⟨settings, rfl⟩
  | startPreview callback => exact Or.inr (Or.inl ⟨callback, rfl⟩)
  | autoFocus callback => exact Or.inr (Or.inr ⟨callback, rfl⟩)
  | _ => cases hawaited

namespace Controller

variable {σ δ τ : Type} [Subsystem σ δ τ] {c : Controller σ δ τ}

/-- Nothing is missing for what calls wait for. -/
theorem awaited_no_failure {action : Action} {wanted : Stage.Set} (h : c.Layered)
    (hawaited : action.awaited = some wanted) : c.failure? (.action action) = none := by
  have hrecorded : (c.record action.kind).Layered := h
  obtain ⟨settings, rfl⟩ | ⟨callback, rfl⟩ | ⟨callback, rfl⟩ := Action.awaited_cases hawaited
  · exact (applySettings_layered hrecorded).2
  · exact (startPreview_layered hrecorded).2
  · exact (autoFocus_layered hrecorded).2

theorem applySettings_settings (settings : Settings) (h : c.Layered) (hopen : c.stage ≠ .unopened) :
    (c.applySettings settings).1.attached.settings = some settings := by
  have hle := Stage.unconfigured_le.mpr hopen
  obtain ⟨array, harray⟩ := Option.isSome_iff_exists.mp (h.activeArray hle)
  obtain ⟨draft, hdraft⟩ := Option.isSome_iff_exists.mp (h.draft hle)
  unfold applySettings
  rw [if_neg hopen, harray, hdraft]
  dsimp only
  split_ifs
  · split <;> rfl
  · rfl
  · rfl

/-- Settings that are let in are the current ones from then on. -/
theorem act_settings {settings : Settings} (h : c.Layered) (hopen : c.stage ≠ .unopened) :
    (c.act (.applySettings settings)).attached.settings = some settings := by
  have hrecorded : (c.record .applySettings).Layered := h
  have hkept := applySettings_settings settings hrecorded hopen
  have hnone : ((c.record .applySettings).applySettings settings).2 = none :=
    (applySettings_layered hrecorded).2
  rw [act_eq]
  show (settle .applySettings ((c.record .applySettings).applySettings settings)).attached.settings = _
  generalize (c.record .applySettings).applySettings settings = result at hkept hnone
  obtain ⟨c', failure⟩ := result
  cases hnone
  exact hkept

end Controller

namespace Agent

open Stage.Cell (check_true)

variable {σ δ τ : Type}

/-- The move writes to the stage cell, which is for the controller alone to do. -/
def Move.forces : Move σ δ τ → Bool
  | force _ => true
  | _ => false

theorem bury_stage (a : Agent σ δ τ) : a.bury.controller.stage = a.controller.stage := by
  unfold bury
  split_ifs <;> rfl

theorem bury_attached (a : Agent σ δ τ) : a.bury.controller.attached = a.controller.attached := by
  unfold bury
  split_ifs <;> rfl

namespace Course

/-- The message that comes to the end of the mailbox is handled after those that are there. -/
theorem Filed.turn {s s' : Course σ δ τ} {message : Message δ τ} (hs : s.Filed)
    (hserved : s.now.isServed) (hs' : s'.Filed)
    (hdelivered : s.delivered ++ [message] <+: s'.delivered) {h : Handled σ δ τ}
    {ahead : List (Handled σ δ τ)} (hpast : (h :: (ahead ++ s.past)) <:+ s'.past)
    (hlength : ahead.length = s.now.controller.mailbox.length) :
    ahead.reverse.map (·.message) = s.now.controller.mailbox ∧ h.message = message := by
  have hfirst : s.handled ++ (ahead.reverse.map (·.message) ++ [h.message]) <+: s'.delivered := by
    have hbefore := hs'.delivered_before hpast
    rwa [List.reverse_append, List.map_append, List.append_assoc] at hbefore
  have hsecond : s.handled ++ (s.now.controller.mailbox ++ [message]) <+: s'.delivered := by
    rw [← List.append_assoc, hs.whole hserved]
    exact hdelivered
  have hlengths : (s.handled ++ (ahead.reverse.map (·.message) ++ [h.message])).length =
      (s.handled ++ (s.now.controller.mailbox ++ [message])).length := by
    simp [hlength]
  have hsame := (List.prefix_of_prefix_length_le hfirst hsecond (Nat.le_of_eq hlengths)).eq_of_length
    hlengths
  obtain ⟨hmailbox, hlast⟩ := List.append_inj' (List.append_cancel_left hsame) rfl
  exact ⟨hmailbox, (List.cons.inj hlast).1⟩

variable [Subsystem σ δ τ] {s s' : Course σ δ τ}

/-- The stage in which the camera was left. -/
def left : List (Handled σ δ τ) → Stage
  | [] => .unopened
  | h :: _ => h.after.stage

/-- Only what is handled takes the camera from one stage to another. -/
structure Steady (s : Course σ δ τ) : Prop where
  stage : s.now.controller.stage = left s.past
  layered : s.now.controller.Layered
  linked : ∀ h past, (h :: past) <:+ s.past → h.before.stage = left past ∧ h.before.Layered

namespace Steady

theorem still (hs : s.Steady) (hstage : s'.now.controller.stage = s.now.controller.stage)
    (hattached : s'.now.controller.attached = s.now.controller.attached) (hpast : s'.past = s.past) :
    s'.Steady := by
  refine ⟨?_, ?_, ?_⟩
  · rw [hstage, hpast, hs.stage]
  · unfold Controller.Layered
    rw [hstage, hattached]
    exact hs.layered
  · rw [hpast]
    exact hs.linked

theorem handled (hs : s.Steady) {h : Handled σ δ τ}
    (hbefore : s.now.controller = (Run.before h s.past).now) (hpast : s'.past = h :: s.past)
    (hnow : s'.now = ({ s.now with controller := h.after } : Agent σ δ τ).bury) : s'.Steady := by
  obtain ⟨hstage, hlayered, hlinked⟩ := hs
  rw [hbefore] at hstage hlayered
  have hlayered : h.before.Layered := hlayered
  refine ⟨?_, ?_, ?_⟩
  · rw [hnow, hpast, bury_stage]
    rfl
  · unfold Controller.Layered
    rw [hnow, bury_stage, bury_attached]
    exact Controller.handle_layered hlayered
  · rw [hpast]
    intro later past hsuffix
    rcases List.suffix_cons_iff.mp hsuffix with heq | holder
    · obtain ⟨rfl, rfl⟩ := List.cons.inj heq
      exact ⟨hstage, hlayered⟩
    · exact hlinked later past holder

theorem step {move : Move σ δ τ} (h : s.Step move s') (hmove : move.forces = false)
    (hs : s.Steady) : s'.Steady := by
  cases h with
  | idle => exact hs
  | aside haside hnew hstage =>
    rcases hstage with hsame | ⟨stage, rfl⟩
    · exact hs.still hsame haside.attached rfl
    · cases hmove
  | submitted hsubmit => exact hs.still rfl rfl rfl
  | handled h hserved hbefore => exact hs.handled hbefore rfl rfl
  | @dispatched now hdispatch =>
    obtain ⟨new, hnew⟩ := hdispatch.gains
    have hstage : now.controller.stage = s.now.controller.stage := by
      rw [hnew]
      rfl
    have hattached : now.controller.attached = s.now.controller.attached := by rw [hnew]
    exact hs.still hstage hattached rfl
  | givenUp hawaiting hfinish => exact hs.still rfl rfl rfl
  | stopping hserved => exact hs.still rfl rfl rfl

end Steady

theorem steady {config : Config} {world : σ} {clock : String} {a : Agent σ δ τ}
    (hstart : Agent.start config world clock = .ok a) {moves : List (Move σ δ τ)}
    (hmoves : ∀ move ∈ moves, move.forces = false) : ((start a).run moves).Steady := by
  refine invariant Steady (·.forces = false)
    (fun s move hmove hs => hs.step (s.step_cases move) hmove) hmoves ?_
  obtain ⟨roster, history, rfl⟩ := start_eq hstart
  refine ⟨rfl, Controller.layered_unopened rfl, ?_⟩
  intro h past hsuffix
  exact absurd (List.suffix_nil.mp hsuffix) (List.cons_ne_nil h past)

/-- A camera that was in stages of a kind and no longer is was taken out of them by some message. -/
theorem Steady.departure (hs : s.Steady) {action : Action} {ahead past : List (Handled σ δ τ)}
    (hahead : (ahead ++ past) <:+ s.past) (hsuited : action.Suits (left past))
    (hunsuited : ¬ action.Suits (left (ahead ++ past))) :
    ∃ e ∈ ahead, action.Suits e.before.stage ∧ ¬ action.Suits e.after.stage := by
  induction ahead with
  | nil => exact absurd hsuited hunsuited
  | cons e ahead ih =>
    by_cases hbefore : action.Suits e.before.stage
    · exact ⟨e, List.mem_cons_self, hbefore, hunsuited⟩
    · rw [(hs.linked e (ahead ++ past) hahead).1] at hbefore
      obtain ⟨e', hmem, he'⟩ := ih ((List.suffix_cons _ _).trans hahead) hbefore
      exact ⟨e', List.mem_cons_of_mem _ hmem, he'⟩

/-- Whatever takes the camera out of the stages that suit an action is of a kind that can. -/
theorem disturbs_of_departure {e : Handled σ δ τ} {action : Action}
    (hsuited : action.Suits e.before.stage) (hunsuited : ¬ action.Suits e.after.stage) :
    e.message.disturbs action := by
  rcases Controller.handle_stage e.before e.message with hsame | htarget
  · have hstage : e.after.stage = e.before.stage := hsame
    rw [hstage] at hunsuited
    exact absurd hsuited hunsuited
  · exact disturbs_of_target hsuited htarget hunsuited

theorem delivered_step {move : Move σ δ τ} (h : s.Step move s') : s.delivered <+: s'.delivered := by
  cases h with
  | idle => exact List.prefix_refl _
  | aside | submitted | handled | dispatched | givenUp | stopping => exact List.prefix_append _ _

theorem delivered_run (s : Course σ δ τ) (moves : List (Move σ δ τ)) :
    s.delivered <+: (s.run moves).delivered := by
  induction moves generalizing s with
  | nil => exact List.prefix_refl _
  | cons move moves ih => exact (delivered_step (s.step_cases move)).trans (ih (s.step move))

section turn

variable {wanted : Stage.Set} {action : Action}

/-- The dispatcher posts the action of a call as soon as it looks at the stage that the call waits for. -/
theorem posts (hs : s.now.Sound) (hserved : s.now.isServed)
    (hjob : s.now.dispatcher.current? = some (.post (some wanted) action))
    (hcheck : s.now.controller.cell.check wanted = some true) :
    (s.step .dispatch).now.controller.mailbox = s.now.controller.mailbox ++ [.action action] ∧
      (s.step .dispatch).delivered = s.delivered ++ [.action action] := by
  have hunstopped := hs.unstopped hserved
  obtain ⟨d, hd⟩ := Option.isSome_iff_exists.mp (hunstopped.finish?_isSome hjob)
  have hdispatch : s.now.dispatch? =
      some { s.now.deliver [.action action] with dispatcher := d, releasing := .unposted } := by
    unfold dispatch?
    rw [hunstopped.place, hjob]
    dsimp only [work?]
    rw [hcheck]
    dsimp only [finish?]
    rw [deliver_eq]
    dsimp only
    rw [hd]
    rfl
  have hmailbox : (s.now.deliver [.action action]).controller.mailbox =
      s.now.controller.mailbox ++ [.action action] := by
    rw [deliver_eq, if_pos hserved]
  have hstep : s.step .dispatch = s.dispatchTo
      { s.now.deliver [.action action] with dispatcher := d, releasing := .unposted } := by
    show s.now.dispatch?.elim s s.dispatchTo = _
    rw [hdispatch]
    rfl
  rw [hstep]
  exact ⟨hmailbox, congrArg (s.delivered ++ ·) (joined_eq hmailbox)⟩

/-- What was let in when it was posted and no longer is has some message in between to blame, unless a
preview was to be started where there was one already. -/
theorem Steady.excuse (hs : s.Steady) (hs' : s'.Steady) (hawaited : action.awaited = some wanted)
    (hreached : s.now.controller.stage ∈ wanted) {h : Handled σ δ τ} {ahead : List (Handled σ δ τ)}
    (hpast : (h :: (ahead ++ s.past)) <:+ s'.past) (hunsuited : ¬ action.Suits h.before.stage) :
    (∃ e ∈ ahead, action.Suits e.before.stage ∧ ¬ action.Suits e.after.stage ∧
      e.message.disturbs action) ∨
    (∃ callback, action = .startPreview callback) ∧ .previewActive ≤ s.now.controller.stage := by
  rcases Action.suits_of_awaited hawaited hreached with hsuited | hactive
  · left
    rw [hs.stage] at hsuited
    rw [(hs'.linked h (ahead ++ s.past) hpast).1] at hunsuited
    obtain ⟨e, hmem, hwas, hno⟩ :=
      hs'.departure ((List.suffix_cons _ _).trans hpast) hsuited hunsuited
    exact ⟨e, hmem, hwas, hno, disturbs_of_departure hwas hno⟩
  · exact Or.inr hactive

/-- Settings are let in as long as nothing in between gives the camera up. -/
theorem Steady.settings_suit {settings : Settings} (hs : s.Steady) (hs' : s'.Steady)
    (hawaited : (Action.applySettings settings).awaited = some wanted)
    (hreached : s.now.controller.stage ∈ wanted) {h : Handled σ δ τ} {ahead : List (Handled σ δ τ)}
    (hpast : (h :: (ahead ++ s.past)) <:+ s'.past)
    (hkept : ∀ e ∈ ahead, e.message.isRelease = false) :
    (Action.applySettings settings).Suits h.before.stage := by
  by_contra hunsuited
  rcases hs.excuse hs' hawaited hreached hpast hunsuited with
    ⟨e, hmem, -, -, hdisturbs⟩ | ⟨⟨callback, heq⟩, -⟩
  · rw [disturbs_applySettings, hkept e hmem] at hdisturbs
    cases hdisturbs
  · cases heq

/-- An action that a call waited to have posted is handled after what was in the mailbox before and nothing
else. It is rejected only if some of that took the camera out of the stages that suit the action, or if a
preview was to be started where there was one already. Settings are taken up unless the camera was given
up. -/
theorem handled_in_turn {config : Config} {world : σ} {clock : String} {a : Agent σ δ τ}
    (hstart : Agent.start config world clock = .ok a) (moves later : List (Move σ δ τ))
    (hawaited : action.awaited = some wanted) :
    let s := (start a).run moves
    s.now.isServed → s.now.dispatcher.current? = some (.post (some wanted) action) →
    s.now.controller.cell.check wanted = some true →
      (s.step .dispatch).now.controller.mailbox = s.now.controller.mailbox ++ [.action action] ∧
      ∀ h ahead, (h :: (ahead ++ s.past)) <:+ ((s.step .dispatch).run later).past →
        ahead.length = s.now.controller.mailbox.length →
        ahead.reverse.map (·.message) = s.now.controller.mailbox ∧ h.message = .action action ∧
        h.after.tally.rejected =
          h.before.tally.rejected + (if action.Suits h.before.stage then 0 else 1) ∧
        ((∀ move ∈ moves ++ later, move.forces = false) →
          h.failure? = none ∧
          (¬ action.Suits h.before.stage →
            (∃ e ∈ ahead, action.Suits e.before.stage ∧ ¬ action.Suits e.after.stage ∧
              e.message.disturbs action) ∨
            (∃ callback, action = .startPreview callback) ∧
              .previewActive ≤ s.now.controller.stage) ∧
          ∀ settings, action = .applySettings settings →
            (∀ message ∈ s.now.controller.mailbox, message.isRelease = false) →
            action.Suits h.before.stage ∧ h.after.attached.settings = some settings) := by
  intro s hserved hjob hcheck
  have hs : s.Ordered := ordered hstart moves
  have hreached : s.now.controller.stage ∈ wanted := (check_true hcheck).2
  obtain ⟨hmailbox, hdelivered⟩ := posts hs.sound hserved hjob hcheck
  refine ⟨hmailbox, ?_⟩
  intro h ahead hpast hlength
  have hwhole : (s.step .dispatch).run later = (start a).run (moves ++ .dispatch :: later) :=
    ((start a).run_append moves (.dispatch :: later)).symm
  have hs' : ((s.step .dispatch).run later).Ordered := hwhole ▸ ordered hstart _
  have hgrown := delivered_run (s.step .dispatch) later
  rw [hdelivered] at hgrown
  obtain ⟨hahead, hmessage⟩ := hs.filed.turn hserved hs'.filed hgrown hpast hlength
  have hafter : h.after = h.before.act action := by
    unfold Handled.after
    rw [hmessage]
    rfl
  refine ⟨hahead, hmessage, ?_, ?_⟩
  · rw [hafter]
    exact Controller.act_rejected action
  intro hforces
  obtain ⟨hmoves, hlater⟩ := List.forall_mem_append.mp hforces
  have hsteady : s.Steady := steady hstart hmoves
  have hsteady' : ((s.step .dispatch).run later).Steady :=
    hwhole ▸ steady hstart
      (List.forall_mem_append.mpr ⟨hmoves, List.forall_mem_cons.mpr ⟨rfl, hlater⟩⟩)
  have hlayered : h.before.Layered := (hsteady'.linked h (ahead ++ s.past) hpast).2
  refine ⟨?_, hsteady.excuse hsteady' hawaited hreached hpast, ?_⟩
  · unfold Handled.failure?
    rw [hmessage]
    exact Controller.awaited_no_failure hlayered hawaited
  · rintro settings rfl hkept
    have hsuits : (Action.applySettings settings).Suits h.before.stage := by
      refine hsteady.settings_suit hsteady' hawaited hreached hpast fun e hmem => hkept e.message ?_
      rw [← hahead]
      exact List.mem_map.mpr ⟨e, List.mem_reverse.mpr hmem, rfl⟩
    rw [hafter]
    exact ⟨hsuits, Controller.act_settings hlayered hsuits⟩

end turn

def portrait : Settings := { preview := ⟨480, 640⟩, photo := ⟨480, 640⟩ }

/-- A camera is given up and opened again, and settings are applied before either has been handled. -/
def reopeningMoves : List (Move Simulator Simulator.Device Simulator.Session) :=
  [.submit (.post none (.openCamera 0 0)), .dispatch, .dispatch, .handle, .handle,
    .submit (.post none .release), .submit (.post none (.openCamera 0 1)),
    .submit (.post (some (.atLeast .unconfigured)) (.applySettings portrait)),
    .dispatch, .dispatch, .dispatch, .dispatch, .dispatch]

theorem late_settings_excused :
    Agent.start {} (Simulator.withDevices ["0"]) "" = .ok simulated ∧
    let s := (start simulated).run reopeningMoves
    s.now.isServed ∧ s.now.controller.cell.check (.atLeast .unconfigured) = some true ∧
    ∃ h ahead, (h :: (ahead ++ s.past)) <:+
        ((s.step .dispatch).run [.handle, .handle, .handle]).past ∧
      ahead.reverse.map (·.message) = [.action .release, .action (.openCamera 0 1)] ∧
      h.message = .action (.applySettings portrait) ∧
      h.after.tally.rejected = h.before.tally.rejected + 1 ∧
      ∃ e ∈ ahead, e.message.disturbs (.applySettings portrait) := by
  have hstart : Agent.start {} (Simulator.withDevices ["0"]) "" = .ok simulated := rfl
  have hawaited : (Action.applySettings portrait).awaited = some (.atLeast .unconfigured) := rfl
  have hturn := handled_in_turn hstart reopeningMoves [.handle, .handle, .handle] hawaited rfl rfl rfl
  refine ⟨hstart, rfl, rfl, ?_⟩
  refine ⟨_, [_, _], ⟨[], rfl⟩, ?_⟩
  obtain ⟨hahead, hmessage, hrejected, hexcuse⟩ := hturn.2 _ [_, _] ⟨[], rfl⟩ rfl
  have hforces : ∀ move ∈ reopeningMoves ++ [.handle, .handle, .handle], move.forces = false := by
    decide
  refine ⟨hahead, hmessage, hrejected, ?_⟩
  rcases (hexcuse hforces).2.1 (by decide) with ⟨e, hmem, -, -, hdisturbs⟩ | ⟨⟨callback, heq⟩, -⟩
  · exact ⟨e, hmem, hdisturbs⟩
  · cases heq

/-- A preview is started twice. -/
def previewMoves : List (Move Simulator Simulator.Device Simulator.Session) :=
  [.submit (.post none (.openCamera 0 0)), .dispatch, .dispatch, .handle, .handle,
    .submit (.post (some (.atLeast .unconfigured)) (.applySettings portrait)), .dispatch, .dispatch,
    .handle, .addTexture, .submit (.post none (.setPreviewTexture 1)), .dispatch, .dispatch, .handle,
    .handle, .submit (.post (some (.atLeast .previewReady)) (.startPreview none)), .dispatch,
    .dispatch, .handle, .handle,
    .submit (.post (some (.atLeast .previewReady)) (.startPreview none)), .dispatch]

/-- A wait that succeeded does not mean that the action is let in: the second preview is refused, and so are
the settings for a camera that is opened again. -/
theorem posted_and_refused :
    (let s := (start simulated).run previewMoves
     s.now.isServed ∧ s.now.dispatcher.current? =
       some (.post (some (.atLeast .previewReady)) (.startPreview none)) ∧
     s.now.controller.cell.check (.atLeast .previewReady) = some true ∧
     s.now.controller.tally.rejected = 0 ∧
     let s' := (s.step .dispatch).run [.handle]
     s'.handled = s.handled ++ [.action (.startPreview none)] ∧
       s'.now.controller.tally.rejected = 1) ∧
    let s := (start simulated).run reopeningMoves
    s.now.isServed ∧ s.now.dispatcher.current? =
      some (.post (some (.atLeast .unconfigured)) (.applySettings portrait)) ∧
    s.now.controller.cell.check (.atLeast .unconfigured) = some true ∧
    s.now.controller.tally.rejected = 0 ∧
    let s' := (s.step .dispatch).run [.handle, .handle, .handle, .handle]
    s'.now.controller.stage = .unconfigured ∧ s'.now.controller.attached.settings = none ∧
      s'.now.controller.mailbox = [] ∧ s'.now.controller.tally.rejected = 1 :=
  ⟨⟨rfl, rfl, rfl, rfl, rfl, rfl⟩, rfl, rfl, rfl, rfl, rfl, rfl, rfl, rfl⟩

end Course

end Agent

end CameraControl
