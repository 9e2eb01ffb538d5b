import CameraControl.Proofs.Generations
import CameraControl.Proofs.Isolation

/-!
What repeats. As long as aborting captures does not fail and openings do not overlap, a request repeats in
the simulator only while the stage says that a preview is running, and then for the session that is held.
Submissions that are refused do not bring the two out of step, whatever the stage was set to meanwhile.
-/
namespace CameraControl

namespace Simulator

/-- What repeats, and what is open, is as before. -/
structure Unmoved (s s' : Simulator) : Prop where
  repeating : s'.repeating = s.repeating
  openDevice : s'.openDevice = s.openDevice

section
variable (s : Simulator)

theorem result_unmoved (listener : Listener) : Unmoved s (s.result listener).1 := by
  unfold result
  split_ifs <;> exact ⟨rfl, rfl⟩

theorem draft_unmoved (device : Device) (template : Template) :
    Unmoved s (s.draft device template).1 := by
  unfold draft
  split_ifs <;> exact ⟨rfl, rfl⟩

theorem createSession_unmoved (device : Device) (surfaces : List SurfaceId) :
    Unmoved s (s.createSession device surfaces).world := by
  unfold createSession
  dsimp only
  split_ifs <;> exact ⟨rfl, rfl⟩

theorem capture_unmoved (session : Session) (request : Request) (listener : Listener) :
    Unmoved s (s.capture session request listener).world := by
  obtain ⟨hrepeating, hopen⟩ := (s.note (.capture request listener)).result_unmoved listener
  unfold capture
  split_ifs
  · exact ⟨rfl, rfl⟩
  · exact ⟨hrepeating, hopen⟩
  · exact ⟨rfl, rfl⟩

/-- An accepted request repeats, and a refused one changes nothing. -/
theorem setRepeating_repeats (session : Session) (request : Request) (listener : Listener) :
    (s.setRepeating session request listener).fault = none ∧
        (s.setRepeating session request listener).world.repeating =
          some (session.generation, listener) ∨
      ∃ fault, (s.setRepeating session request listener).fault = some fault ∧
        Unmoved s (s.setRepeating session request listener).world := by
  unfold setRepeating
  dsimp only
  split_ifs
  · exact Or.inr ⟨_, rfl, rfl, rfl⟩
  · exact Or.inl ⟨rfl, rfl⟩
  · exact Or.inl ⟨rfl, rfl⟩
  · exact Or.inr ⟨_, rfl, rfl, rfl⟩

theorem stopRepeating_stops (session : Session) :
    (s.stopRepeating session).fault = none ∧ (s.stopRepeating session).world.repeating = none ∨
      ∃ fault, (s.stopRepeating session).fault = some fault ∧
        Unmoved s (s.stopRepeating session).world := by
  unfold stopRepeating
  split_ifs
  · exact Or.inr ⟨_, rfl, rfl, rfl⟩
  · exact Or.inl ⟨rfl, rfl⟩
  · exact Or.inr ⟨_, rfl, rfl, rfl⟩

theorem closeDevice_stops (device : Device) :
    (s.closeDevice device).world.repeating = none ∧ (s.closeDevice device).world.openDevice = none ∨
      Unmoved s (s.closeDevice device).world := by
  unfold closeDevice
  dsimp only
  split_ifs
  · exact Or.inl ⟨rfl, rfl⟩
  · exact Or.inr ⟨rfl, rfl⟩

theorem closeDevice_repeating (device : Device) (hnone : s.repeating = none) :
    (s.closeDevice device).world.repeating = none := by
  rcases s.closeDevice_stops device with ⟨hstopped, -⟩ | hworld
  · exact hstopped
  · exact hworld.repeating.trans hnone

theorem openFor_repeating (id : DeviceId) : (s.openFor id).world.repeating = s.repeating := by
  unfold openFor
  dsimp only
  split_ifs <;> rfl

/-- If it is this session's, what repeats is aborted. -/
theorem abortCaptures_stops (session : Session) (harmed : .abortCaptures ∉ s.armed)
    (hsession : ∀ generation listener, s.repeating = some (generation, listener) →
      session = ⟨generation⟩) : (s.abortCaptures session).world.repeating = none := by
  have hfree : .abortCaptures ∉ (s.note .abortCaptures).armed := harmed
  unfold abortCaptures
  dsimp only
  rw [if_neg hfree]
  split_ifs with hany
  · rfl
  · cases hrepeating : s.repeating with
    | none => exact hrepeating
    | some repeated =>
      obtain ⟨generation, listener⟩ := repeated
      cases hsession generation listener hrepeating
      have hsome : (s.note .abortCaptures).repeating = some (generation, listener) := hrepeating
      rw [hsome] at hany
      exact absurd (decide_eq_true rfl) hany

end

/-- A request repeats for the session of a running preview only, and does so as long as a device is open. -/
structure Streams (k : Rig Simulator Device Session) : Prop where
  running : ∀ generation listener, k.world.repeating = some (generation, listener) →
    .previewActive ≤ k.stage ∧ k.session = some ⟨generation⟩
  repeats : .previewActive ≤ k.stage → k.world.openDevice ≠ none → k.world.repeating ≠ none

namespace Streams

variable {k k' : Rig Simulator Device Session}

/-- Nothing repeats, and no preview is running. -/
theorem silent (hnone : k.world.repeating = none) (hstage : k.stage < .previewActive) : Streams k := by
  refine ⟨?_, fun hactive => absurd hactive (Nat.not_le_of_lt hstage)⟩
  intro generation listener hsome
  cases hnone.symm.trans hsome

/-- A request repeats for the session that is held, and a preview is running. -/
theorem accepted {session : Session} {listener : Listener} (hstage : .previewActive ≤ k.stage)
    (hsession : k.session = some session)
    (hrepeating : k.world.repeating = some (session.generation, listener)) : Streams k := by
  refine ⟨?_, fun _ _ hnone => nomatch hrepeating.symm.trans hnone⟩
  intro generation listener' hsome
  cases hrepeating.symm.trans hsome
  exact ⟨hstage, hsession⟩

theorem keep (hk : Streams k) (hworld : Unmoved k.world k'.world) (hsession : k'.session = k.session)
    (hstage : .previewActive ≤ k.stage ↔ .previewActive ≤ k'.stage) : Streams k' := by
  constructor
  · rw [hworld.repeating, ← hstage, hsession]
    exact hk.running
  · rw [hworld.repeating, hworld.openDevice, ← hstage]
    exact hk.repeats

theorem idle (hk : Streams k) (hstage : k.stage < .previewActive) : k.world.repeating = none := by
  refine Option.eq_none_iff_forall_ne_some.mpr ?_
  rintro ⟨generation, listener⟩ hsome
  exact Nat.not_le_of_lt hstage (hk.running generation listener hsome).1

theorem submit (hk : Streams k) {q : Call Device Session} {accepted refused : Stage}
    (hworld : Unmoved k.world (k.world.answer q).world) (hstage : .previewActive ≤ k.stage)
    (haccepted : .previewActive ≤ accepted) (hrefused : .previewActive ≤ refused) :
    Streams (k.submit q accepted refused) := by
  unfold Rig.submit
  refine hk.keep hworld rfl (iff_of_true hstage ?_)
  dsimp only
  split_ifs
  · exact haccepted
  · exact hrefused

theorem closeDevice (hk : Streams k) : Streams k.closeDevice := by
  unfold Rig.closeDevice
  split
  · next device hdevice =>
    rcases closeDevice_stops k.world device with ⟨hnone, hclosed⟩ | hworld
    · refine ⟨?_, fun _ hopen => absurd hclosed hopen⟩
      intro generation listener hsome
      cases hnone.symm.trans hsome
    · exact hk.keep hworld rfl Iff.rfl
  · exact hk

theorem closeDevice_silent (hnone : k.world.repeating = none) :
    k.closeDevice.world.repeating = none := by
  unfold Rig.closeDevice
  split
  · exact closeDevice_repeating k.world _ hnone
  · exact hnone

/-- A session that is given up is aborted. -/
theorem closeSession (hk : Streams k) (hunarmed : .abortCaptures ∉ k.world.armed) :
    k.closeSession.world.repeating = none := by
  unfold Rig.closeSession
  split
  · next session hsession =>
    refine abortCaptures_stops k.world session hunarmed ?_
    intro generation listener hsome
    exact Option.some.inj (hsession.symm.trans (hk.running generation listener hsome).2)
  · next hsession =>
    refine Option.eq_none_iff_forall_ne_some.mpr ?_
    rintro ⟨generation, listener⟩ hsome
    cases hsession.symm.trans (hk.running generation listener hsome).2

theorem createSession_silent (hnone : k.world.repeating = none) :
    k.createSession.world.repeating = none := by
  unfold Rig.createSession
  split
  · exact (createSession_unmoved k.world _ _).repeating.trans hnone
  · exact hnone

/-- Every message keeps what repeats in step with the stage. -/
theorem step {message : Message Device Session} (hk : Streams k)
    (hunarmed : .abortCaptures ∉ k.world.armed)
    (hsession : .previewReady ≤ k.stage → k.session.isSome)
    (hdelivered : message.delivered?.isSome → k.stage = .unopened)
    (hannounced : message.configured?.isSome → k.stage < .previewActive) (h : k.Step message k') :
    Streams k' := by
  have hunopened (hstage : k.stage = .unopened) : k.stage < .previewActive := by
    rw [hstage]
    decide
  cases h with
  | still | kept => exact hk
  | asked hopening hstage =>
    have hidle := hunopened hstage
    exact silent ((openFor_repeating _ _).trans (hk.idle hidle)) hidle
  | failed => exact hk.closeDevice
  | released =>
    have hclosed := closeDevice_silent (hk.closeSession hunarmed)
    have hreleased := (congrArg repeating (Rig.releaseSurface_world _)).trans hclosed
    exact silent hreleased (by decide : Stage.unopened < .previewActive)
  | @bound texture size draft hstage htexture hdraft =>
    have hbound := (congrArg repeating (Rig.bind_world _ texture size draft)).trans
      (hk.closeSession hunarmed)
    refine silent (createSession_silent hbound) ?_
    rw [Rig.createSession_stage, Rig.bind_stage]
    exact Nat.lt_trans (k.closeSession_stage hsession) (by decide : Stage.previewReady < .previewActive)
  | @started callback session draft hstage hsome hdraft =>
    have hidle : k.stage < .previewActive := by
      rw [hstage]
      decide
    rcases setRepeating_repeats k.world session draft.build .lensState with
      ⟨hfault, hrepeating⟩ | ⟨fault, hfault, hworld⟩
    · have hstarted : k.fault (.setRepeating session draft.build .lensState) = none := hfault
      rw [k.submit_accepted _ _ _ hstarted]
      exact accepted (by decide : Stage.previewActive ≤ .previewActive) hsome hrepeating
    · have hrefused : k.fault (.setRepeating session draft.build .lensState) = some fault := hfault
      rw [k.submit_refused _ _ _ hrefused]
      exact silent (hworld.repeating.trans (hk.idle hidle))
        (by decide : Stage.previewReady < .previewActive)
  | @stopped session hstage hsome =>
    rcases stopRepeating_stops k.world session with ⟨hfault, hnone⟩ | ⟨fault, hfault, hworld⟩
    · have hstopped : k.fault (.stopRepeating session) = none := hfault
      rw [k.submit_accepted _ _ _ hstopped]
      exact silent hnone (by decide : Stage.previewReady < .previewActive)
    · have hrefused : k.fault (.stopRepeating session) = some fault := hfault
      rw [k.submit_refused _ _ _ hrefused]
      exact hk.keep hworld rfl Iff.rfl
  | applied array hstage hidle hdraft =>
    refine silent (hk.idle hidle) ?_
    dsimp only
    split_ifs
    · decide
    · exact hidle
  | @resubmitted settings array session draft hstage hsome hdraft =>
    rcases setRepeating_repeats k.world session (draft.merge settings array).build .lensState with
      ⟨-, hrepeating⟩ | ⟨-, -, hworld⟩
    · exact accepted hstage hsome hrepeating
    · exact hk.keep hworld rfl Iff.rfl
  | focusing hstage hsome hdraft | unlocking hstage hsome hdraft =>
    have hedited (draft : Option Draft) : Streams { k with draft } := { hk with }
    exact (hedited _).submit (capture_unmoved _ _ _ _) hstage (by decide) (by decide)
  | @adopted device draft hdraft =>
    have hnone := hk.idle (hunopened (hdelivered rfl))
    exact silent ((draft_unmoved k.world device .preview).repeating.trans hnone)
      (by decide : Stage.unconfigured < .previewActive)
  | @stray device =>
    have hidle := hunopened (hdelivered rfl)
    exact silent (closeDevice_repeating _ device (hk.idle hidle)) hidle
  | @broken device =>
    have hidle := hunopened (hdelivered rfl)
    have hdrafted := (draft_unmoved k.world device .preview).repeating.trans (hk.idle hidle)
    exact silent (closeDevice_repeating _ device hdrafted) hidle
  | discarded =>
    have hidle := hannounced rfl
    have hnone := hk.idle hidle
    exact silent (abortCaptures_stops _ _ hunarmed fun _ _ hsome => nomatch hnone.symm.trans hsome) hidle
  | configured =>
    exact silent (hk.idle (hannounced rfl)) (by decide : Stage.previewReady < .previewActive)

theorem stir (hk : Streams k) (stimulus : Stimulus) :
    Streams { k with world := (Spontaneous.stir k.world stimulus).1 } := by
  cases stimulus with
  | frame =>
    show Streams { k with world := k.world.emitFrame.1 }
    unfold emitFrame
    split
    · split_ifs
      · exact hk.keep (result_unmoved k.world _) rfl Iff.rfl
      · exact hk
    · exact hk
  | arm op =>
    show Streams { k with world := k.world.arm op }
    unfold arm
    split_ifs
    · exact hk
    · exact { hk with }
  | disconnect => exact ⟨fun _ _ hsome => (nomatch hsome), fun _ hopen => absurd rfl hopen⟩
  | _ => exact { hk with }

end Streams

/-- What has to do with previews is in step, as long as openings do not overlap. -/
structure InStep (r : Run Simulator Device Session) : Prop where
  unarmed : .abortCaptures ∉ r.now.subsystem.armed
  waiting : Waiting r
  inFlight : ∃ latest, InFlight r.now.rig latest
  streams : Orderly r.past → Streams r.now.rig

theorem inStep_meanwhile (r : Run Simulator Device Session) (move : Move)
    (hmove : move ≠ .stir (.arm .abortCaptures)) (hr : InStep r) :
    InStep { r with now := r.now.meanwhile move } := by
  obtain ⟨latest, hflight⟩ := hr.inFlight
  refine ⟨?_, waiting_meanwhile r move hr.waiting,
    ⟨latest, inFlight_meanwhile stimulus_sessionless r move hflight⟩, ?_⟩
  · cases move with
    | stir stimulus => exact stir_unarmed (fun harm => hmove (harm ▸ rfl)) hr.unarmed
    | _ => exact hr.unarmed
  · intro horderly
    have hstreams := hr.streams horderly
    cases move with
    | stir stimulus => exact { hstreams.stir stimulus with }
    | _ => exact { hstreams with }

variable {h : Handled Simulator Device Session} {past : List (Handled Simulator Device Session)}

/-- A device is delivered only while nothing is open. -/
theorem InStep.delivered (hr : InStep (Run.before h past)) (horderly : Orderly past)
    (hdelivered : h.message.delivered?.isSome) : h.before.stage = .unopened := by
  obtain ⟨device, hdevice⟩ := Option.isSome_iff_exists.mp hdelivered
  exact (hr.waiting.delivered horderly hdevice).1.unopened

theorem inStep_handle (htenured : Run.Tenured ⟨h.before, past⟩) (hr : InStep (Run.before h past)) :
    InStep ⟨h.after, h :: past⟩ := by
  obtain ⟨-, htalk, -⟩ := h.steps htenured.held
  obtain ⟨hannounced, hflight⟩ := inFlight_handle htenured hr.inFlight
  refine ⟨?_, waiting_handle htenured hr.waiting, hflight, ?_⟩
  · exact fun harmed => hr.unarmed ((talk_aftermath htalk).armed harmed)
  · intro horderly
    obtain ⟨-, hpast⟩ := List.forall_mem_cons.mp horderly
    have hstreams : Streams h.before.rig := { hr.streams hpast with }
    exact hstreams.step hr.unarmed htenured.layered.session (hr.delivered hpast) hannounced
      (Handled.rigged htenured)

theorem inStep (world : Simulator) (hrest : world.AtRest) (hunarmed : .abortCaptures ∉ world.armed)
    (roster : Roster) (historySize : Nat) (moves : List Move)
    (hmoves : .stir (.arm .abortCaptures) ∉ moves) :
    InStep ((Run.start world roster historySize).run moves) := by
  have hstart : InStep (Run.start world roster historySize) := by
    refine ⟨hunarmed, fun _ => Or.inl rfl, ⟨_, inFlight_start world roster historySize⟩, fun _ => ?_⟩
    exact .silent hrest.repeating (by decide : Stage.unopened < .previewActive)
  refine (Run.invariant_tenured InStep (· ≠ .stir (.arm .abortCaptures)) inStep_meanwhile
    (fun h past htenured hr => inStep_handle htenured hr) world roster historySize ?_ hstart).2.1
  rintro move hmem rfl
  exact hmoves hmem

end Simulator

end CameraControl
