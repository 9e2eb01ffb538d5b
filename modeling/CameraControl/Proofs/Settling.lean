import Mathlib.Tactic.SplitIfs
import CameraControl.Proofs.FocusCallbacks
import CameraControl.Proofs.Mailbox
import CameraControl.Proofs.Reopening
import CameraControl.Proofs.Strays

/-!
How soon a controller is done with its messages. Handling an action makes at most one call that the subsystem
can answer with an event, whatever is closed or aborted besides, and handling any other message makes none. So
each message that is handled takes at least one off the load, and the mailbox is empty after as many messages as
it held, and one more for each action among them.
-/
namespace CameraControl

/-- The call gives something up, which brings no event about. -/
def Call.concludes {δ τ : Type} : Call δ τ → Bool
  | closeDevice _ | abortCaptures _ => true
  | _ => false

/-- A call is answered with one event at most, and with none when it gives something up. -/
structure Subsystem.Frugal (σ : Type) {δ τ : Type} [Subsystem σ δ τ] : Prop where
  single : ∀ (world : σ) (q : Call δ τ), (answer world q).posted.length ≤ 1
  silent : ∀ (world : σ) (q : Call δ τ), q.concludes → (answer world q).posted = []

namespace Message

variable {δ τ : Type}

/-- Every message weighs one, and an action one more. -/
theorem weight_eq (message : Message δ τ) : message.weight = (if message.action?.isSome then 1 else 0) + 1 := by
  cases message <;> rfl

theorem totalWeight_eq (messages : List (Message δ τ)) :
    totalWeight messages = messages.length + messages.countP (·.action?.isSome) := by
  induction messages with
  | nil => rfl
  | cons message messages ih =>
    show message.weight + totalWeight messages = _
    rw [ih, weight_eq, List.length_cons, List.countP_cons]
    omega

theorem eq_nil_of_weightless {messages : List (Message δ τ)} (h : totalWeight messages = 0) : messages = [] := by
  rw [totalWeight_eq] at h
  exact List.length_eq_zero_iff.mp (Nat.eq_zero_of_add_eq_zero_right h)

end Message

namespace Controller

variable {σ δ τ : Type}

/-- Nothing but events joined the mailbox, and at most so many. -/
def Receives (limit : Nat) (c c' : Controller σ δ τ) : Prop :=
  ∃ events : List (Event δ τ), c'.mailbox = c.mailbox ++ events.map .hardware ∧ events.length ≤ limit

theorem Receives.same {limit : Nat} {c c' : Controller σ δ τ} (hmailbox : c'.mailbox = c.mailbox) :
    Receives limit c c' :=
  ⟨[], hmailbox.trans (List.append_nil _).symm, Nat.zero_le limit⟩

/-- What a handler may do: few events join the mailbox, and a controller that can pass failures on does not end. -/
structure Prompts (limit : Nat) (c c' : Controller σ δ τ) : Prop where
  mailbox : Receives limit c c'
  exceptionCallback : c'.exceptionCallback = c.exceptionCallback
  status : c.exceptionCallback.isSome → c'.status = c.status

variable {m n : Nat} {c c' c'' : Controller σ δ τ}

namespace Prompts

theorem same (hmailbox : c'.mailbox = c.mailbox) (hcallback : c'.exceptionCallback = c.exceptionCallback)
    (hstatus : c'.status = c.status) : Prompts n c c' :=
  ⟨.same hmailbox, hcallback, fun _ => hstatus⟩

theorem refl (c : Controller σ δ τ) : Prompts n c c := .same rfl rfl rfl

theorem trans (h : Prompts m c c') (h' : Prompts n c' c'') : Prompts (m + n) c c'' := by
  obtain ⟨events, hevents, hlimit⟩ := h.mailbox
  obtain ⟨more, hmore, hlimit'⟩ := h'.mailbox
  refine ⟨⟨events ++ more, ?_, ?_⟩, h'.exceptionCallback.trans h.exceptionCallback, fun hcallback => ?_⟩
  · rw [hmore, hevents, List.map_append, List.append_assoc]
  · rw [List.length_append]
    exact Nat.add_le_add hlimit hlimit'
  · rw [h'.status (h.exceptionCallback ▸ hcallback), h.status hcallback]

/-- A step that prompts nothing leaves the limit where it is. -/
theorem after (h : Prompts n c c') (h' : Prompts 0 c' c'') : Prompts n c c'' := h.trans h'

theorem weaken (h : Prompts 0 c c') : Prompts n c c' := (Nat.zero_add n) ▸ h.trans (.refl c')

theorem enter (h : Prompts n c c') (stage : Stage) : Prompts n c (c'.enter stage) :=
  h.after (.same rfl rfl rfl)

theorem attach (h : Prompts n c c') (attached : Attachment δ τ) : Prompts n c (c'.attach attached) :=
  h.after (.same rfl rfl rfl)

theorem report (h : Prompts n c c') (r : Report) : Prompts n c (c'.report r) :=
  h.after (.same rfl rfl rfl)

theorem reportTo (h : Prompts n c c') (callback : Option Tag) (r : Tag → Report) :
    Prompts n c (c'.reportTo callback r) := by
  cases callback with
  | none => exact h
  | some tag => exact h.report (r tag)

theorem reportFocus (h : Prompts n c c') (callback : Option Tag) (sharp : Bool) :
    Prompts n c (c'.reportFocus callback sharp) := by
  unfold Controller.reportFocus
  split
  · exact h.report _
  · exact h

end Prompts

theorem onActive_prompts : Prompts 0 c c.onActive := ((Prompts.refl c).attach _).reportTo _ _

theorem onTriggered_prompts : Prompts 0 c c.onTriggered := by
  unfold onTriggered
  split
  · exact (Prompts.refl c).attach _
  · exact .refl c

theorem onTriggerFailed_prompts : Prompts 0 c c.onTriggerFailed :=
  ((Prompts.refl c).attach _).reportFocus _ _

theorem onLens_prompts (lens : Lens) : Prompts 0 c (c.onLens lens) := by
  have hseen : Prompts 0 c { c with lastLens := some lens } := .same rfl rfl rfl
  unfold onLens
  dsimp only
  split
  · exact hseen
  · split_ifs
    · exact hseen.reportTo _ _
    · exact hseen
    · exact (hseen.attach _).reportTo _ _
    · exact hseen

theorem onCompleted_prompts (listener : Listener) (lens : Option Lens) :
    Prompts 0 c (c.onCompleted listener lens) := by
  unfold onCompleted
  split
  · exact onLens_prompts _
  · exact .refl c
  · exact onTriggered_prompts
  · exact .refl c

theorem onCaptureFailed_prompts (listener : Listener) : Prompts 0 c (c.onCaptureFailed listener) := by
  unfold onCaptureFailed
  split
  · exact onTriggerFailed_prompts
  · exact .refl c
  · exact .refl c

/-- A fatal failure ends the controller only if there is no callback to pass it on to. -/
theorem raise_prompts (failure : Failure) : Prompts 0 c (c.raise failure) := by
  unfold raise
  split
  · exact (Prompts.refl c).report _
  · next hnone =>
    refine ⟨.same rfl, rfl, fun hsome => ?_⟩
    rw [hnone] at hsome
    cases hsome

theorem releaseSurface_prompts : Prompts 0 c c.releaseSurface := by
  unfold releaseSurface
  split <;> exact .same rfl rfl rfl

theorem bindTexture_prompts (texture : TextureId) (size : Size) (draft : Draft) :
    Prompts 0 c (c.bindTexture texture size draft).1 := by
  have hresized : Prompts 0 c { c with canvas := c.canvas.resize texture size } := .same rfl rfl rfl
  have hreleased := hresized.after releaseSurface_prompts
  exact hreleased.after (.same rfl rfl rfl)

variable [Subsystem σ δ τ]

theorem Prompts.call (hfrugal : Subsystem.Frugal σ) (h : Prompts n c c') (q : Call δ τ) :
    Prompts (n + 1) c (c'.call q).1 :=
  h.trans ⟨⟨_, rfl, hfrugal.single _ q⟩, rfl, fun _ => rfl⟩

theorem Prompts.of_call (hfrugal : Subsystem.Frugal σ) {q : Call δ τ} {fault : Option Fault}
    (h : Prompts n c c') (hcall : c'.call q = (c'', fault)) : Prompts (n + 1) c c'' := by
  have hprompts := h.call hfrugal q
  rwa [hcall] at hprompts

theorem Prompts.conclude (hfrugal : Subsystem.Frugal σ) (h : Prompts n c c') {q : Call δ τ}
    (hconcludes : q.concludes) : Prompts n c (c'.call q).1 := by
  refine h.after ⟨⟨_, rfl, ?_⟩, rfl, fun _ => rfl⟩
  rw [hfrugal.silent _ q hconcludes]
  exact Nat.le_refl 0

theorem Prompts.closeDevice (hfrugal : Subsystem.Frugal σ) (h : Prompts n c c') :
    Prompts n c c'.closeDevice := by
  unfold Controller.closeDevice
  split
  · exact (h.attach _).conclude hfrugal rfl
  · exact h

theorem Prompts.closeSession (hfrugal : Subsystem.Frugal σ) (h : Prompts n c c') :
    Prompts n c c'.closeSession := by
  unfold Controller.closeSession
  split
  · exact ((h.attach _).conclude hfrugal rfl).enter _
  · exact h

theorem openCamera_prompts (hfrugal : Subsystem.Frugal σ) (index : Nat) (callback : Tag) :
    Prompts 1 c (c.openCamera index callback).1 := by
  have hawaiting (n : Nat) (id : Option DeviceId) : Prompts n c (c.awaiting index callback id) :=
    .same rfl rfl rfl
  by_cases hstage : c.stage = .unopened
  · rw [openCamera_unopened hstage]
    split
    · exact hawaiting 1 none
    · exact (hawaiting 1 none).report _
    · next id hid => exact (hawaiting 0 (some id)).call hfrugal _
  · unfold openCamera
    rw [if_pos hstage]
    exact .same rfl rfl rfl

theorem populate_prompts (device : δ) : Prompts 0 c (c.populate device).1 := by
  unfold populate
  split
  · exact .refl c
  · split <;> exact .same rfl rfl rfl

/-- A device that is not taken up is closed, and nothing comes of that. -/
theorem onOpened_prompts (hfrugal : Subsystem.Frugal σ) (device : δ) : Prompts 0 c (c.onOpened device) := by
  have hpopulate : Prompts 0 c (c.populate device).1 := populate_prompts device
  unfold onOpened
  split
  · exact (Prompts.refl c).conclude hfrugal rfl
  · split
    · next c' camera hpopulated =>
      rw [hpopulated] at hpopulate
      exact ((hpopulate.attach _).enter _).report _
    · next c' fault hpopulated =>
      rw [hpopulated] at hpopulate
      exact (hpopulate.conclude hfrugal rfl).report _

theorem release_prompts (hfrugal : Subsystem.Frugal σ) : Prompts 0 c c.release := by
  unfold release
  split_ifs
  · exact .same rfl rfl rfl
  · have hclosed : Prompts 0 c c.closeSession.closeDevice :=
      ((Prompts.refl c).closeSession hfrugal).closeDevice hfrugal
    exact (hclosed.after releaseSurface_prompts).after (.same rfl rfl rfl)

theorem setPreviewTexture_prompts (hfrugal : Subsystem.Frugal σ) (texture : TextureId) :
    Prompts 1 c (c.setPreviewTexture texture).1 := by
  unfold setPreviewTexture
  split_ifs
  · exact .same rfl rfl rfl
  · exact .refl c
  · -- The session that makes way posts nothing, so the event of the new one is the only one.
    have hclosed : Prompts 0 c c.closeSession := (Prompts.refl c).closeSession hfrugal
    dsimp only
    split
    · exact hclosed.weaken
    · exact hclosed.weaken
    · next size draft hsize hdraft =>
      have hbound := hclosed.after (bindTexture_prompts texture size draft)
      split
      · exact hbound.weaken
      · exact hbound.call hfrugal _

theorem onConfigured_prompts (hfrugal : Subsystem.Frugal σ) (session : τ) :
    Prompts 0 c (c.onConfigured session) := by
  unfold onConfigured
  split_ifs
  · exact (Prompts.refl c).conclude hfrugal rfl
  · exact ((Prompts.refl c).attach _).enter _

theorem startPreview_prompts (hfrugal : Subsystem.Frugal σ) (callback : Option Tag) :
    Prompts 1 c (c.startPreview callback).1 := by
  unfold startPreview
  split_ifs
  · exact .same rfl rfl rfl
  · split
    · exact .refl c
    · exact .refl c
    · have hentered : Prompts 0 c ((c.attach { c.attached with previewCallback := callback }).enter
        .previewActive) := ((Prompts.refl c).attach _).enter _
      dsimp only
      split
      · next c' hcall => exact hentered.of_call hfrugal hcall
      · next c' fault hcall => exact ((hentered.of_call hfrugal hcall).attach _).enter _

theorem stopPreview_prompts (hfrugal : Subsystem.Frugal σ) : Prompts 1 c c.stopPreview.1 := by
  unfold stopPreview
  split_ifs
  · exact .same rfl rfl rfl
  · split
    · exact .refl c
    · split
      · next c' hcall => exact ((Prompts.refl c).of_call hfrugal hcall).enter _
      · next c' fault hcall => exact (Prompts.refl c).of_call hfrugal hcall

theorem applySettings_prompts (hfrugal : Subsystem.Frugal σ) (settings : Settings) :
    Prompts 1 c (c.applySettings settings).1 := by
  unfold applySettings
  split_ifs
  · exact .same rfl rfl rfl
  · split
    · exact .refl c
    · exact .refl c
    · next array draft harray hdraft =>
      have happlied : Prompts 0 c _ := (Prompts.refl c).attach { c.attached with
        previewSize := some settings.preview
        draft := some (draft.merge settings array)
        settings := some settings }
      dsimp only
      split_ifs
      · split
        · exact happlied.weaken
        · exact happlied.call hfrugal _
      · exact happlied.weaken.enter _
      · exact happlied.weaken

theorem submitTrigger_prompts (hfrugal : Subsystem.Frugal σ) {session : τ} {draft : Draft}
    {trigger : Trigger} {listener : Listener} {fault : Option Fault} (h : Prompts n c c')
    (hsubmit : c'.submitTrigger session draft trigger listener = (c'', fault)) : Prompts (n + 1) c c'' :=
  (h.attach _).of_call hfrugal hsubmit

theorem autoFocus_prompts (hfrugal : Subsystem.Frugal σ) (callback : Option Tag) :
    Prompts 1 c (c.autoFocus callback).1 := by
  unfold autoFocus
  split_ifs
  · exact .same rfl rfl rfl
  · split
    · exact .refl c
    · exact .refl c
    · have hentered : Prompts 0 c _ := (Prompts.refl c).enter .focusLocked
      split
      · next c' hsubmit => exact (submitTrigger_prompts hfrugal hentered hsubmit).attach _
      · next c' fault hsubmit =>
        exact ((submitTrigger_prompts hfrugal hentered hsubmit).enter _).reportFocus _ _

theorem cancelAutoFocus_prompts (hfrugal : Subsystem.Frugal σ) : Prompts 1 c c.cancelAutoFocus.1 := by
  unfold cancelAutoFocus
  split_ifs
  · exact .same rfl rfl rfl
  · split
    · exact .refl c
    · exact .refl c
    · have hentered : Prompts 0 c _ := (Prompts.refl c).enter .previewActive
      split
      · next c' hsubmit => exact submitTrigger_prompts hfrugal hentered hsubmit
      · next c' fault hsubmit => exact (submitTrigger_prompts hfrugal hentered hsubmit).enter _

theorem perform_prompts (hfrugal : Subsystem.Frugal σ) (action : Action) :
    Prompts 1 c (c.perform action).1 := by
  cases action with
  | openCamera index callback => exact openCamera_prompts hfrugal index callback
  | reconnect index callback => exact openCamera_prompts hfrugal index callback
  | release => exact (release_prompts hfrugal).weaken
  | setPreviewTexture texture => exact setPreviewTexture_prompts hfrugal texture
  | startPreview callback => exact startPreview_prompts hfrugal callback
  | stopPreview => exact stopPreview_prompts hfrugal
  | applySettings settings => exact applySettings_prompts hfrugal settings
  | autoFocus callback => exact autoFocus_prompts hfrugal callback
  | cancelAutoFocus => exact cancelAutoFocus_prompts hfrugal
  | _ => exact .same rfl rfl rfl

theorem tidy_prompts (hfrugal : Subsystem.Frugal σ) (kind : Action.Kind) : Prompts 0 c (c.tidy kind) := by
  unfold tidy
  split_ifs
  · exact .refl c
  · exact (Prompts.refl c).closeDevice hfrugal
  · exact (Prompts.refl c).reportTo _ _
  · exact .refl c

theorem recover_prompts (hfrugal : Subsystem.Frugal σ) (kind : Action.Kind) (failure : Failure) :
    Prompts 0 c (c.recover kind failure) := by
  have hcounted : Prompts 0 c c.countFailure := .same rfl rfl rfl
  have htidied : Prompts 0 c (c.countFailure.tidy kind) := hcounted.after (tidy_prompts hfrugal kind)
  rw [recover_eq]
  split_ifs
  · exact htidied.after (raise_prompts failure)
  · exact htidied

/-- The one event of an action comes of what it asks for; recovering from its failure adds none. -/
theorem act_prompts (hfrugal : Subsystem.Frugal σ) (action : Action) : Prompts 1 c (c.act action) := by
  have hrecorded : Prompts 0 c (c.record action.kind) := .same rfl rfl rfl
  have hperformed := hrecorded.trans (perform_prompts hfrugal action)
  rw [act_eq]
  generalize (c.record action.kind).perform action = result at hperformed ⊢
  rcases result with ⟨c', _ | failure⟩
  · exact hperformed
  · exact hperformed.after (recover_prompts hfrugal action.kind failure)

theorem notice_prompts (hfrugal : Subsystem.Frugal σ) (event : Event δ τ) : Prompts 0 c (c.notice event) := by
  have hcounted : Prompts 0 c c.countEvent := .same rfl rfl rfl
  cases event with
  | opened device => exact hcounted.after (onOpened_prompts hfrugal device)
  | deviceError code => exact hcounted.reportTo _ _
  | configured session => exact hcounted.after (onConfigured_prompts hfrugal session)
  | active => exact hcounted.after onActive_prompts
  | completed listener frame lens => exact hcounted.after (onCompleted_prompts listener lens)
  | captureFailed listener frame reason => exact hcounted.after (onCaptureFailed_prompts listener)
  | _ => exact hcounted

theorem shutDown_receives (hfrugal : Subsystem.Frugal σ) (c : Controller σ δ τ) :
    Receives 0 c c.shutDown := by
  unfold shutDown
  dsimp only
  split_ifs
  · exact .same rfl
  · exact (release_prompts hfrugal).mailbox

/-- An action brings about one event at most, and any other message none. -/
theorem handle_receives (hfrugal : Subsystem.Frugal σ) (c : Controller σ δ τ) (message : Message δ τ) :
    Receives (if message.action?.isSome then 1 else 0) c (c.handle message) := by
  cases message with
  | action action => exact (act_prompts hfrugal action).mailbox
  | hardware event => exact (notice_prompts hfrugal event).mailbox
  | barrier ticket => exact .same rfl
  | shutdown => exact shutDown_receives hfrugal c

/-- Only a shutdown ends a controller that can pass failures on. -/
theorem handle_goes_on (hfrugal : Subsystem.Frugal σ) (hcallback : c.exceptionCallback.isSome)
    {message : Message δ τ} (hmessage : message ≠ .shutdown) :
    (c.handle message).status = c.status ∧ (c.handle message).exceptionCallback.isSome := by
  have hkept {n : Nat} {c' : Controller σ δ τ} (h : Prompts n c c') :
      c'.status = c.status ∧ c'.exceptionCallback.isSome :=
    ⟨h.status hcallback, h.exceptionCallback ▸ hcallback⟩
  cases message with
  | action action => exact hkept (act_prompts hfrugal action)
  | hardware event => exact hkept (notice_prompts hfrugal event)
  | barrier ticket => exact ⟨rfl, hcallback⟩
  | shutdown => exact absurd rfl hmessage

/-- Handling a message takes at least one off the load. -/
theorem handle_load (hfrugal : Subsystem.Frugal σ) {message : Message δ τ} {rest : List (Message δ τ)}
    (hmailbox : c.mailbox = message :: rest) :
    ({ c with mailbox := rest }.handle message).load + 1 ≤ c.load := by
  obtain ⟨events, hevents, hlimit⟩ := handle_receives hfrugal { c with mailbox := rest } message
  calc ({ c with mailbox := rest }.handle message).load + 1
      = Message.totalWeight rest + events.length + 1 := by
        unfold load
        rw [hevents, Message.totalWeight_append, Message.totalWeight_hardware]
    _ ≤ message.weight + Message.totalWeight rest := by
        rw [message.weight_eq]
        omega
    _ = c.load := by
        unfold load
        rw [hmailbox]
        rfl

/-- Handles at most `n` messages, also when the controller has ended, and lists those that it handled. -/
def pump (c : Controller σ δ τ) : Nat → Controller σ δ τ × List (Message δ τ)
  | 0 => (c, [])
  | n + 1 =>
    match c.mailbox with
    | [] => (c, [])
    | message :: rest =>
      let (c, handled) := ({ c with mailbox := rest }.handle message).pump n
      (c, message :: handled)

theorem pump_empty (hmailbox : c.mailbox = []) (n : Nat) : c.pump n = (c, []) := by
  cases n with
  | zero => rfl
  | succ n => simp only [pump, hmailbox]

theorem pump_cons {message : Message δ τ} {rest : List (Message δ τ)} (hmailbox : c.mailbox = message :: rest)
    (n : Nat) : c.pump (n + 1) = (({ c with mailbox := rest }.handle message |>.pump n).1,
      message :: ({ c with mailbox := rest }.handle message |>.pump n).2) := by
  simp only [pump, hmailbox]

/-- What was handled and what is left weigh no more than what there was. -/
theorem pump_load (hfrugal : Subsystem.Frugal σ) (c : Controller σ δ τ) (n : Nat) :
    (c.pump n).2.length + (c.pump n).1.load ≤ c.load := by
  induction n generalizing c with
  | zero => exact Nat.le_of_eq (Nat.zero_add _)
  | succ n ih =>
    cases hmailbox : c.mailbox with
    | nil =>
      rw [pump_empty hmailbox]
      exact Nat.le_of_eq (Nat.zero_add _)
    | cons message rest =>
      have hstep := handle_load hfrugal hmailbox
      have hrest := ih ({ c with mailbox := rest }.handle message)
      rw [pump_cons hmailbox]
      dsimp only
      rw [List.length_cons]
      omega

theorem pump_full (c : Controller σ δ τ) (n : Nat) :
    (c.pump n).2.length = n ∨ (c.pump n).1.mailbox = [] := by
  induction n generalizing c with
  | zero => exact Or.inl rfl
  | succ n ih =>
    cases hmailbox : c.mailbox with
    | nil =>
      rw [pump_empty hmailbox]
      exact Or.inr hmailbox
    | cons message rest =>
      rw [pump_cons hmailbox]
      exact (ih _).imp (congrArg Nat.succ) id

/-- A mailbox is empty after as many messages as it weighs. -/
theorem pump_empties (hfrugal : Subsystem.Frugal σ) {n : Nat} (hn : c.load ≤ n) :
    (c.pump n).1.mailbox = [] := by
  have hload := pump_load hfrugal c n
  rcases c.pump_full n with hfull | hempty
  · exact Message.eq_nil_of_weightless (Nat.le_zero.mp (show (c.pump n).1.load ≤ 0 by omega))
  · exact hempty

/-- A run handles the messages one after the other and stops early only when the controller has ended. -/
theorem run_pumped (c : Controller σ δ τ) (n : Nat) :
    ∃ k, c.run n = c.pump k ∧ (k = n ∨ (c.run n).1.status ≠ .running) := by
  induction n generalizing c with
  | zero => exact ⟨0, rfl, Or.inl rfl⟩
  | succ n ih =>
    by_cases hstatus : c.status = .running
    · cases hmailbox : c.mailbox with
      | nil => exact ⟨n + 1, by simp only [run, pump, step?, hstatus, hmailbox], Or.inl rfl⟩
      | cons message rest =>
        obtain ⟨k, hk, hend⟩ := ih ({ c with mailbox := rest }.handle message)
        have hstep : c.step? = some (message, { c with mailbox := rest }.handle message) := by
          simp only [step?, hstatus, hmailbox]
        have hrun : c.run (n + 1) = c.pump (k + 1) := by
          rw [pump_cons hmailbox, ← hk]
          simp only [run, hstep]
        refine ⟨k + 1, hrun, hend.imp (congrArg Nat.succ) ?_⟩
        rw [hrun, hk, pump_cons hmailbox]
        exact id
    · -- The controller has ended, so the run stays here, where `pump` would go on.
      have hrun : c.run (n + 1) = (c, []) := by
        have hstep : c.step? = none := by
          unfold step?
          split
          · next hrunning _ => exact absurd hrunning hstatus
          · rfl
        simp only [run, hstep]
      exact ⟨0, hrun, Or.inr (hrun ▸ hstatus)⟩

/-- A controller that can pass failures on, and is not shut down, goes on. -/
theorem run_goes_on (hfrugal : Subsystem.Frugal σ) (n : Nat) (hstatus : c.status = .running)
    (hcallback : c.exceptionCallback.isSome) (hmailbox : .shutdown ∉ c.mailbox) :
    (c.run n).1.status = .running := by
  induction n generalizing c with
  | zero => exact hstatus
  | succ n ih =>
    cases hmessages : c.mailbox with
    | nil => rwa [run_empty hmessages]
    | cons message rest =>
      rw [hmessages] at hmailbox
      obtain ⟨hmessage, hrest⟩ := List.ne_and_not_mem_of_not_mem_cons hmailbox
      obtain ⟨events, hevents⟩ := handle_mailbox { c with mailbox := rest } message
      obtain ⟨hstatus', hcallback'⟩ :=
        handle_goes_on (c := { c with mailbox := rest }) hfrugal hcallback hmessage.symm
      rw [run_cons hstatus hmessages]
      refine ih (hstatus'.trans hstatus) hcallback' ?_
      rw [hevents, List.mem_append]
      rintro (hold | hnew)
      · exact hrest hold
      · obtain ⟨event, -, hevent⟩ := List.mem_map.mp hnew
        cases hevent

end Controller

namespace Simulator

theorem abortCaptures_posted (s : Simulator) (session : Session) : (s.abortCaptures session).posted = [] := by
  unfold abortCaptures
  dsimp only
  split_ifs <;> rfl

/-- An operation posts an event only if it is not refused, and it posts no other. -/
theorem frugal : Subsystem.Frugal Simulator where
  single s q := by
    cases q with
    | openDevice id =>
      show (s.openFor id).posted.length ≤ 1
      unfold openFor
      dsimp only
      split_ifs <;> simp
    | closeDevice device => simp [Subsystem.answer, answer, closeDevice_posted]
    | createSession device surfaces =>
      show (s.createSession device surfaces).posted.length ≤ 1
      unfold createSession
      dsimp only
      split_ifs <;> simp
    | setRepeating session request listener =>
      show (s.setRepeating session request listener).posted.length ≤ 1
      unfold setRepeating
      dsimp only
      split_ifs <;> simp
    | stopRepeating session =>
      show (s.stopRepeating session).posted.length ≤ 1
      unfold stopRepeating
      split_ifs <;> simp
    | capture session request listener =>
      show (s.capture session request listener).posted.length ≤ 1
      unfold capture
      dsimp only
      split_ifs <;> simp
    | abortCaptures session => simp [Subsystem.answer, answer, abortCaptures_posted]
  silent s q hq := by
    cases q with
    | closeDevice device => exact closeDevice_posted s device
    | abortCaptures session => exact abortCaptures_posted s session
    | _ => cases hq

/-- Handling an action makes one event join the mailbox at most, and handling any other message none. So however
a controller came about, it has handled all there is after as many messages as its mailbox holds and one more for
each action among them. A run stops earlier only because the controller ends, which it does not do if it can pass
failures on and is not shut down. -/
theorem settles_within (c : Controller Simulator Device Session) :
    let bound := c.mailbox.length + c.mailbox.countP (·.action?.isSome)
    (∀ message, ∃ events : List (Event Device Session),
      (c.handle message).mailbox = c.mailbox ++ events.map .hardware ∧
        events.length ≤ if message.action?.isSome then 1 else 0) ∧
      (∀ n, (c.pump n).2.length ≤ bound ∧ (bound ≤ n → (c.pump n).1.mailbox = [])) ∧
      (∀ n, (c.run n).2.length ≤ bound ∧
        (bound ≤ n → (c.run n).1.mailbox = [] ∨ (c.run n).1.status ≠ .running)) ∧
      (c.status = .running → c.exceptionCallback.isSome → .shutdown ∉ c.mailbox →
        ∀ n, (c.run n).1.status = .running) := by
  intro bound
  have hbound : c.load = bound := Message.totalWeight_eq c.mailbox
  have hpumped (n : Nat) : (c.pump n).2.length ≤ bound := by
    have hload := c.pump_load frugal n
    omega
  refine ⟨c.handle_receives frugal, fun n => ⟨hpumped n, fun hn => ?_⟩, fun n => ?_, ?_⟩
  · exact c.pump_empties frugal (hbound ▸ hn)
  · obtain ⟨k, hk, hend⟩ := c.run_pumped n
    refine ⟨hk ▸ hpumped k, fun hn => hend.imp (fun heq => ?_) id⟩
    rw [hk, heq]
    exact c.pump_empties frugal (hbound ▸ hn)
  · intro hstatus hcallback hmailbox n
    exact Controller.run_goes_on frugal n hstatus hcallback hmailbox

/-- A running preview is refocused twice and moved to another texture while a frame is on its way. -/
def retargetingMoves : List Simulator.Move :=
  Run.startedMoves ++ [.install 9, .addTexture, .ask (.autoFocus none), .ask .cancelAutoFocus,
    .ask (.setPreviewTexture 2), .stir .frame]

/-- Each of the three actions brings an event about, so the bound is reached. -/
theorem refocused_settles :
    let c := (Simulator.run retargetingMoves).now
    c.mailbox.length = 4 ∧ c.mailbox.countP (·.action?.isSome) = 3 ∧ (c.run 7).2.length = 7 ∧
      (c.pump 7).1.mailbox = [] ∧ (c.run 7).1.status = .running ∧ (c.run 7).1.mailbox = [] := by
  intro c
  have hlength : c.mailbox.length = 4 := rfl
  have hactions : c.mailbox.countP (·.action?.isSome) = 3 := rfl
  have hbound : c.mailbox.length + c.mailbox.countP (·.action?.isSome) ≤ 7 :=
    Nat.le_of_eq (congrArg₂ (· + ·) hlength hactions)
  have hhandled : (c.run 7).2.length = 7 := by decide +kernel
  have hgoing : .shutdown ∉ c.mailbox := by decide
  obtain ⟨-, hpump, hrun, hgoes⟩ := settles_within c
  have hrunning := hgoes rfl rfl hgoing 7
  have hempty := ((hrun 7).2 hbound).resolve_right (not_not_intro hrunning)
  exact ⟨hlength, hactions, hhandled, (hpump 7).2 hbound, hrunning, hempty⟩

end Simulator

end CameraControl
