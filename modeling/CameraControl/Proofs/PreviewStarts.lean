import CameraControl.Proofs.Generations
import CameraControl.Proofs.Reopening

/-!
Being told that a preview has started. The simulator says that a session is active when it accepts the first
request that is to repeat, and only then, so it matters what was asked of the session before. A preview that
was stopped and starts again on the same session does stream, but nobody is told.
-/
namespace CameraControl

namespace Exchange

variable {δ τ : Type}

/-- The session, if it accepted a request that is to repeat. -/
def played? (x : Exchange δ τ) : Option τ :=
  match x.call, x.fault with
  | .setRepeating session _ _, none => some session
  | _, _ => none

end Exchange

/-- The sessions that accepted a request that is to repeat, when the message was handled. -/
def Handled.played {σ δ τ : Type} [Subsystem σ δ τ] (h : Handled σ δ τ) : List τ :=
  h.recorded.subsystem.record.filterMap (·.played?)

namespace Controller

variable {σ δ τ : Type} [Subsystem σ δ τ] {c : Controller σ δ τ} {session : τ} {draft : Draft}

/-- A preview whose request is accepted. -/
theorem startPreview_accepted (hstage : c.stage = .previewReady) (hsession : c.attached.session = some session)
    (hdraft : c.attached.draft = some draft) (callback : Option Tag)
    (haccepted : (Subsystem.answer c.subsystem (.setRepeating session draft.build .lensState)).fault =
      none) :
    c.startPreview callback =
      (((c.attach { c.attached with previewCallback := callback }).enter .previewActive).tell
        (.setRepeating session draft.build .lensState), none) := by
  unfold startPreview
  rw [if_neg (not_not_intro hstage), hsession, hdraft]
  dsimp only
  split
  · next c' hcall => exact congrArg (·, none) (congrArg Prod.fst hcall).symm
  · next c' fault hcall => cases haccepted.symm.trans (congrArg Prod.snd hcall)

end Controller

namespace Simulator

section
variable (s : Simulator)

/-- A session becomes active with the first request that it accepts to repeat. -/
theorem setRepeating_accepted (session : Session) (request : Request) (listener : Listener)
    (hcurrent : s.Current session) (harmed : .setRepeating ∉ s.armed) :
    (s.setRepeating session request listener).fault = none ∧
      (s.setRepeating session request listener).posted =
        if session.generation ∈ s.started then [] else [.active] := by
  unfold setRepeating
  rw [if_neg (not_not_intro hcurrent), if_neg harmed]
  dsimp only
  by_cases hstarted : session.generation ∈ s.started
  · have hnoted : session.generation ∈ (s.note (.setRepeating request)).started := hstarted
    rw [if_pos hnoted, if_pos hstarted]
    exact ⟨rfl, rfl⟩
  · have hnoted : session.generation ∉ (s.note (.setRepeating request)).started := hstarted
    rw [if_neg hnoted, if_neg hstarted]
    exact ⟨rfl, rfl⟩

theorem setRepeating_started (session : Session) (request : Request) (listener : Listener) :
    (∃ fault, (s.setRepeating session request listener).fault = some fault ∧
        (s.setRepeating session request listener).world.started = s.started) ∨
      (s.setRepeating session request listener).fault = none ∧
        ∀ generation, generation ∈ (s.setRepeating session request listener).world.started ↔
          generation ∈ s.started ∨ generation = session.generation := by
  unfold setRepeating
  dsimp only
  split_ifs with hcurrent harmed hstarted
  · exact Or.inl ⟨_, rfl, rfl⟩
  · refine Or.inr ⟨rfl, fun generation => (or_iff_left_of_imp ?_).symm⟩
    rintro rfl
    exact hstarted
  · exact Or.inr ⟨rfl, fun generation => List.mem_cons.trans or_comm⟩
  · exact Or.inl ⟨_, rfl, rfl⟩

/-- Only a request that is to repeat can make a session active. -/
theorem answer_started (q : Call Device Session) (generation : Nat) :
    generation ∈ (s.answer q).world.started ↔ generation ∈ s.started ∨
      (⟨q, (s.answer q).fault, (s.answer q).posted⟩ : Exchange Device Session).played? =
        some ⟨generation⟩ := by
  have hother {s' : Simulator} {x : Exchange Device Session} (hsame : s'.started = s.started)
      (hsilent : x.played? = none) : generation ∈ s'.started ↔
        generation ∈ s.started ∨ x.played? = some ⟨generation⟩ := by
    rw [hsame, hsilent]
    exact (or_iff_left nofun).symm
  cases q with
  | openDevice id =>
    refine hother ?_ rfl
    show (s.openFor id).world.started = s.started
    unfold openFor
    dsimp only
    split_ifs <;> rfl
  | closeDevice device =>
    refine hother ?_ rfl
    show (s.closeDevice device).world.started = s.started
    unfold closeDevice
    dsimp only
    split_ifs <;> rfl
  | createSession device surfaces =>
    refine hother ?_ rfl
    show (s.createSession device surfaces).world.started = s.started
    unfold createSession
    dsimp only
    split_ifs <;> rfl
  | setRepeating session request listener =>
    rcases s.setRepeating_started session request listener with
      ⟨fault, hfault, hsame⟩ | ⟨hfault, hstarted⟩
    · refine hother hsame ?_
      have hanswer : (s.answer (.setRepeating session request listener)).fault = some fault := hfault
      rw [hanswer]
      rfl
    · have hanswer : (s.answer (.setRepeating session request listener)).fault = none := hfault
      have hplayed : (some session = some ⟨generation⟩) ↔ generation = session.generation := by
        cases session
        simp [eq_comm]
      rw [hanswer]
      exact (hstarted generation).trans (or_congr_right hplayed.symm)
  | stopRepeating session =>
    refine hother ?_ rfl
    show (s.stopRepeating session).world.started = s.started
    unfold stopRepeating
    split_ifs <;> rfl
  | capture session request listener =>
    refine hother ?_ rfl
    show (s.capture session request listener).world.started = s.started
    unfold capture result
    dsimp only
    split_ifs <;> rfl
  | abortCaptures session =>
    refine hother ?_ rfl
    show (s.abortCaptures session).world.started = s.started
    unfold abortCaptures
    dsimp only
    split_ifs <;> rfl

theorem stir_started (stimulus : Stimulus) : (Spontaneous.stir s stimulus).1.started = s.started := by
  cases stimulus with
  | frame =>
    show s.emitFrame.1.started = s.started
    unfold emitFrame result
    dsimp only
    split
    · split_ifs <;> rfl
    · rfl
  | arm op =>
    show (s.arm op).started = s.started
    unfold arm
    split_ifs <;> rfl
  | disconnect =>
    show ((s.openDevice.map s.removeDevice).getD s).started = s.started
    cases s.openDevice <;> rfl
  | _ => rfl

end

theorem talk_started {s s' : Simulator} {xs : List (Exchange Device Session)} (h : Talk s xs s')
    (generation : Nat) :
    generation ∈ s'.started ↔ generation ∈ s.started ∨ ⟨generation⟩ ∈ xs.filterMap (·.played?) := by
  induction h with
  | done => exact (or_iff_left (List.not_mem_nil)).symm
  | @draft s' xs device template h ih =>
    have hsame : (s'.draft device template).1.started = s'.started := by
      unfold draft
      split_ifs <;> rfl
    exact (iff_of_eq (congrArg (generation ∈ ·) hsame)).trans ih
  | @call s' xs q h ih =>
    refine (s'.answer_started q generation).trans ?_
    rw [ih, or_assoc, List.filterMap_append, List.mem_append]
    refine or_congr_right (or_congr_right ?_)
    rw [List.mem_filterMap]
    exact ⟨fun hplayed => ⟨_, List.mem_singleton_self _, hplayed⟩,
      fun ⟨x, hx, hplayed⟩ => List.mem_singleton.mp hx ▸ hplayed⟩

/-- The sessions that are active are those that accepted a request that is to repeat. -/
def Played (r : Run Simulator Device Session) : Prop :=
  ∀ session : Session, session.generation ∈ r.now.subsystem.started ↔
    session ∈ r.past.flatMap (·.played)

theorem played_meanwhile (r : Run Simulator Device Session) (move : Move) (hr : Played r) :
    Played { r with now := r.now.meanwhile move } := by
  have hsame : (r.now.meanwhile move).subsystem.started = r.now.subsystem.started := by
    cases move with
    | stir stimulus => exact stir_started _ stimulus
    | _ => rfl
  intro session
  exact (iff_of_eq (congrArg (session.generation ∈ ·) hsame)).trans (hr session)

theorem played_handle {h : Handled Simulator Device Session}
    {past : List (Handled Simulator Device Session)} (htenured : Run.Tenured ⟨h.before, past⟩)
    (hr : Played (Run.before h past)) : Played ⟨h.after, h :: past⟩ := by
  obtain ⟨-, htalk, -⟩ := h.steps htenured.held
  intro session
  rw [List.flatMap_cons, List.mem_append, or_comm]
  exact (talk_started htalk session.generation).trans (or_congr_left (hr session))

/-- Whatever the preview and the camera went through, a preview that can start does start when it is asked to.
Its callback is told so, once, if this is the first request that the session accepts to repeat. If it is not,
nobody is told. -/
theorem start_told_once_per_session (world : Simulator) (hunstarted : world.started = [])
    (roster : Roster) (historySize : Nat) (moves : List Move) (callback : Tag) :
    let r := (Run.start world roster historySize).run moves
    r.now.status = .running → r.now.mailbox = [] → r.now.stage = .previewReady →
      r.now.subsystem.openDevice ≠ none → .setRepeating ∉ r.now.subsystem.armed →
      let d := (r.now.post (.action (.startPreview (some callback)))).drain.1
      d.status = .running ∧ d.mailbox = [] ∧ d.stage = .previewActive ∧
        ∃ session, r.now.attached.session = some session ∧
          d.reports = r.now.reports ++
            if session ∈ r.past.flatMap (·.played) then []
            else [⟨.previewStarted callback, .previewActive⟩] := by
  intro r hstatus hmailbox hstage hopen harmed d
  obtain ⟨htenured, hplayed, -⟩ := Run.invariant_tenured Played (fun _ => True)
    (fun r move _ hr => played_meanwhile r move hr) (fun h past htenured hr => played_handle htenured hr)
    world roster historySize (fun move (_ : move ∈ moves) => trivial) (fun session => by
      show session.generation ∈ world.started ↔ session ∈ []
      rw [hunstarted]
      exact iff_of_false List.not_mem_nil List.not_mem_nil)
  have hready : .previewReady ≤ r.now.stage := hstage ▸ Nat.le_refl _
  obtain ⟨-, hnewest⟩ :=
    no_session_announced_while_running stimulus_sessionless world roster historySize moves
  have hsession : r.now.attached.session = some ⟨r.now.subsystem.generation⟩ := hnewest hmailbox hready
  obtain ⟨draft, hdraft⟩ :=
    Option.isSome_iff_exists.mp (htenured.layered.draft (Stage.le_trans (by decide) hready))
  obtain ⟨hfault, hposted⟩ := r.now.subsystem.setRepeating_accepted ⟨r.now.subsystem.generation⟩
    draft.build .lensState ⟨hopen, rfl⟩ harmed
  let c := ((r.now.record .startPreview).attach
    { r.now.attached with previewCallback := some callback }).enter .previewActive
  let started := c.tell (.setRepeating ⟨r.now.subsystem.generation⟩ draft.build .lensState)
  have hserved := Controller.startPreview_accepted (c := r.now.record .startPreview) hstage hsession hdraft
    (some callback) hfault
  have hd : d = (started.run 1).1 :=
    Controller.drain_served (.startPreview (some callback)) hstatus hmailbox hserved
  have hqueue : started.mailbox =
      (if r.now.subsystem.generation ∈ r.now.subsystem.started then [] else [.active]).map
        Message.hardware := by
    show r.now.mailbox ++ _ = _
    rw [hmailbox, List.nil_append]
    exact congrArg (List.map Message.hardware) hposted
  rw [hd]
  by_cases hstarted : r.now.subsystem.generation ∈ r.now.subsystem.started
  · rw [if_pos hstarted] at hqueue
    rw [Controller.run_empty hqueue]
    refine ⟨hstatus, hqueue, rfl, _, hsession, ?_⟩
    rw [if_pos ((hplayed _).mp hstarted), List.append_nil]
    rfl
  · rw [if_neg hstarted] at hqueue
    rw [Controller.run_cons (c := started) hstatus hqueue]
    refine ⟨hstatus, rfl, rfl, _, hsession, ?_⟩
    rw [if_neg (mt (hplayed _).mpr hstarted)]
    rfl

/-- A preview is ready that was never started. -/
def readiedMoves : List Move :=
  [.ask (.openCamera 0 0), .handle, .handle, .addTexture,
    .ask (.applySettings { preview := ⟨640, 480⟩, photo := ⟨640, 480⟩ }), .ask (.setPreviewTexture 1),
    .handle, .handle, .handle]

theorem readied_start_told :
    let c := (run readiedMoves).now
    let d := (c.post (.action (.startPreview (some 7)))).drain.1
    c.status = .running ∧ c.mailbox = [] ∧ c.stage = .previewReady ∧ c.subsystem.openDevice ≠ none ∧
      .setRepeating ∉ c.subsystem.armed ∧ d.stage = .previewActive ∧
      d.reports = c.reports ++ [⟨.previewStarted 7, .previewActive⟩] := by
  obtain ⟨-, -, hactive, session, hsession, hreports⟩ := start_told_once_per_session
    (withDevices ["0", "1"]) rfl (Roster.empty.update ["0", "1"]) 20 readiedMoves 7 rfl rfl rfl
    (by decide) (by decide)
  exact ⟨rfl, rfl, rfl, by decide, by decide, hactive, hreports⟩

/-- The preview is started once and stopped again. -/
def restoppedMoves : List Move :=
  readiedMoves ++ [.ask (.startPreview none), .handle, .handle, .ask .stopPreview, .handle]

/-- The second start is not told to its callback, though frames do flow. -/
theorem restarted_not_told :
    let c := (run restoppedMoves).now
    let d := (c.post (.action (.startPreview (some 7)))).drain.1
    c.status = .running ∧ c.mailbox = [] ∧ c.stage = .previewReady ∧ c.subsystem.openDevice ≠ none ∧
      .setRepeating ∉ c.subsystem.armed ∧ d.mailbox = [] ∧ d.stage = .previewActive ∧
      d.subsystem.isRepeating ∧ d.reports = c.reports :=
  ⟨rfl, rfl, rfl, by decide, by decide, rfl, rfl, rfl, rfl⟩

end Simulator

end CameraControl
