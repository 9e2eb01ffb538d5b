import CameraControl.Proofs.StaleSessions
import CameraControl.Proofs.Triggers

/-!
The frames of a simulator that is used directly, in any order and through handles of any age. What is open,
who is told about it and what repeats are kept apart but never at odds, so a frame is to be had exactly while
something repeats. Captures and repeated requests share one count: the results of a whole history are numbered
without a gap in the order in which they were posted.
-/
namespace CameraControl.Simulator

/-- Devices are listed once each, events have a receiver exactly while a device is open, and nothing repeats
without one. -/
structure Wired (s : Simulator) : Prop where
  distinct : s.list.Nodup
  linked : s.linked = s.openDevice.isSome
  still : s.Still

/-- What `emitFrame` says to its caller: that something repeats, and there is someone to tell. -/
def emits (s : Simulator) : Bool := s.isRepeating && s.linked

section
variable (s : Simulator)

theorem removeDevice_list (id : DeviceId) : (s.removeDevice id).list = s.list.filter (· ≠ id) := by
  unfold list
  rw [List.filter_map]
  rfl

theorem addDeviceWith_list (id : DeviceId) (characteristics : Characteristics) :
    (s.addDeviceWith id characteristics).list = s.list.filter (· ≠ id) ++ [id] := by
  rw [← removeDevice_list]
  exact List.map_append

theorem disconnect_list : s.disconnect.1.list =
    (s.openDevice.elim s.list fun id => (s.removeDevice id).list) := by
  unfold disconnect
  cases s.openDevice <;> rfl

theorem result_linked (listener : Listener) : (s.result listener).1.linked = s.linked := by
  unfold result
  split_ifs <;> rfl

theorem draft_linked (device : Device) (template : Template) :
    (s.draft device template).1.linked = s.linked := by
  unfold draft
  split_ifs <;> rfl

/-- Only opening and closing a device has to do with the receiver of its events. -/
theorem answer_linked {q : Call Device Session} (hopen : ∀ id, q ≠ .openDevice id)
    (hclose : ∀ device, q ≠ .closeDevice device) : (s.answer q).world.linked = s.linked := by
  cases q with
  | openDevice id => exact absurd rfl (hopen id)
  | closeDevice device => exact absurd rfl (hclose device)
  | createSession device surfaces =>
    show (s.createSession device surfaces).world.linked = _
    unfold createSession
    dsimp only
    split_ifs <;> rfl
  | setRepeating session request listener =>
    show (s.setRepeating session request listener).world.linked = _
    unfold setRepeating
    dsimp only
    split_ifs <;> rfl
  | stopRepeating session =>
    show (s.stopRepeating session).world.linked = _
    unfold stopRepeating
    split_ifs <;> rfl
  | capture session request listener =>
    show (s.capture session request listener).world.linked = _
    unfold capture
    split_ifs
    · rfl
    · exact result_linked _ listener
    · rfl
  | abortCaptures session =>
    show (s.abortCaptures session).world.linked = _
    unfold abortCaptures
    dsimp only
    split_ifs <;> rfl

end

namespace Wired

variable {s s' : Simulator}

theorem same (hs : s.Wired) (hdevices : s'.devices = s.devices) (hlinked : s'.linked = s.linked)
    (hunmoved : Unmoved s s') : s'.Wired where
  distinct := by
    show (s'.devices.map (·.1)).Nodup
    rw [hdevices]
    exact hs.distinct
  linked := by rw [hlinked, hunmoved.openDevice, hs.linked]
  still := by
    unfold Still
    rw [hunmoved.openDevice, hunmoved.repeating]
    exact hs.still

theorem mild {a : Outcome} (hs : s.Wired) (ha : Mild s a) (hlinked : a.world.linked = s.linked) :
    a.world.Wired where
  distinct := by
    show (a.world.devices.map (·.1)).Nodup
    rw [ha.devices]
    exact hs.distinct
  linked := by rw [hlinked, ha.openDevice, hs.linked]
  still := ha.still hs.still

/-- Nothing is open. -/
theorem idle (hs : s.list.Nodup) (hopen : s.openDevice = none) (hlinked : s.linked = false)
    (hrepeating : s.repeating = none) : s.Wired where
  distinct := hs
  linked := by rw [hlinked, hopen]; rfl
  still _ := hrepeating

theorem addDeviceWith (hs : s.Wired) (id : DeviceId) (characteristics : Characteristics) :
    (s.addDeviceWith id characteristics).Wired where
  distinct := by
    rw [addDeviceWith_list]
    refine List.nodup_append.mpr ⟨hs.distinct.filter _, List.nodup_singleton id, ?_⟩
    rintro other hother _ hid rfl
    rw [List.mem_singleton.mp hid] at hother
    simp at hother
  linked := hs.linked
  still := hs.still

theorem removeDevice (hs : s.Wired) (id : DeviceId) : (s.removeDevice id).Wired where
  distinct := by
    rw [removeDevice_list]
    exact hs.distinct.filter _
  linked := hs.linked
  still := hs.still

theorem openFor (hs : s.Wired) (id : DeviceId) : (s.openFor id).world.Wired := by
  unfold Simulator.openFor
  dsimp only
  split_ifs
  · exact hs.same rfl rfl ⟨rfl, rfl⟩
  · exact ⟨hs.distinct, rfl, nofun⟩
  · exact hs.same rfl rfl ⟨rfl, rfl⟩

theorem closeDevice (hs : s.Wired) (device : Device) : (s.closeDevice device).world.Wired := by
  unfold Simulator.closeDevice
  dsimp only
  split_ifs
  · exact idle hs.distinct rfl rfl rfl
  · exact hs.same rfl rfl ⟨rfl, rfl⟩

theorem stir (hs : s.Wired) (stimulus : Stimulus) : (Spontaneous.stir s stimulus).1.Wired := by
  cases stimulus with
  | frame =>
    show s.emitFrame.1.Wired
    unfold emitFrame
    split
    · split_ifs
      · exact hs.mild (result_mild s _) (result_linked s _)
      · exact hs
    · exact hs
  | setLens lens => exact hs.same rfl rfl ⟨rfl, rfl⟩
  | arm op =>
    show (s.arm op).Wired
    unfold Simulator.arm
    split_ifs
    · exact hs
    · exact hs.same rfl rfl ⟨rfl, rfl⟩
  | addDevice id characteristics => exact hs.addDeviceWith id characteristics
  | removeDevice id => exact hs.removeDevice id
  | deviceError code => exact hs
  | disconnect =>
    refine idle ?_ rfl rfl rfl
    show s.disconnect.1.list.Nodup
    rw [disconnect_list]
    cases s.openDevice with
    | none => exact hs.distinct
    | some id => exact (hs.removeDevice id).distinct

/-- No use puts them at odds, whatever handle it is made through. -/
theorem use (hs : s.Wired) (use : Use) : (s.use use).world.Wired := by
  cases use with
  | call q =>
    cases q with
    | openDevice id => exact hs.openFor id
    | closeDevice device => exact hs.closeDevice device
    | createSession device surfaces =>
      exact hs.mild (createSession_mild s device surfaces) (s.answer_linked nofun nofun)
    | setRepeating session request listener =>
      exact hs.mild (setRepeating_mild s session request listener) (s.answer_linked nofun nofun)
    | stopRepeating session => exact hs.mild (stopRepeating_mild s session) (s.answer_linked nofun nofun)
    | capture session request listener =>
      exact hs.mild (capture_mild s session request listener) (s.answer_linked nofun nofun)
    | abortCaptures session => exact hs.mild (abortCaptures_mild s session) (s.answer_linked nofun nofun)
  | draft device template =>
    have hdevices : (s.draft device template).1.devices = s.devices := by
      unfold Simulator.draft
      split_ifs <;> rfl
    exact hs.same hdevices (draft_linked s device template) (draft_unmoved s device template)
  | stir stimulus => exact hs.stir stimulus
  | clearJournal => exact hs.same rfl rfl ⟨rfl, rfl⟩

end Wired

theorem withDevices_wired (ids : List DeviceId) : (withDevices ids).Wired :=
  withDevices_induct (.idle List.nodup_nil rfl rfl rfl) (fun _ id _ hs => hs.addDeviceWith id _) ids

namespace Used

/-- The numbers of the frames whose results the use posted. -/
def frames (u : Used) : List Nat := u.outcome.posted.filterMap (·.frame?)

/-- The use is one that takes a frame: a capture that succeeds, or a frame that is emitted. -/
def exposes (u : Used) : Bool :=
  match u.use with
  | .call (.capture ..) => u.outcome.fault.isNone
  | .stir .frame => u.before.emits
  | _ => false

end Used

theorem emitFrame_of_emits {s : Simulator} (hemits : s.emits) :
    ∃ listener, s.emitFrame = ((s.result listener).1, [(s.result listener).2]) := by
  obtain ⟨hrepeating, hlinked⟩ := Bool.and_eq_true_iff.mp hemits
  obtain ⟨⟨generation, listener⟩, hsome⟩ := Option.isSome_iff_exists.mp hrepeating
  refine ⟨listener, ?_⟩
  unfold emitFrame
  rw [hsome]
  exact if_pos hlinked

theorem emitFrame_of_not_emits {s : Simulator} (hidle : ¬ s.emits) : s.emitFrame = (s, []) := by
  unfold emitFrame
  split
  · next generation listener hsome =>
    refine if_neg fun hlinked => hidle ?_
    unfold emits isRepeating
    rw [hsome, hlinked]
    rfl
  · rfl

/-- A use takes the next frame, or none. -/
theorem use_frames (s : Simulator) (use : Use) :
    (⟨s, use⟩ : Used).exposes = true ∧ (⟨s, use⟩ : Used).frames = [s.frame + 1] ∧
        (s.use use).world.frame = s.frame + 1 ∨
      (⟨s, use⟩ : Used).exposes = false ∧ (⟨s, use⟩ : Used).frames = [] ∧
        (s.use use).world.frame = s.frame := by
  have hframeless {posted : List (Event Device Session)} (hposted : (s.use use).posted = posted) :
      (⟨s, use⟩ : Used).frames = posted.filterMap (·.frame?) := congrArg _ hposted
  cases use with
  | call q =>
    by_cases hq : ∃ session request listener, q = .capture session request listener
    · obtain ⟨session, request, listener, rfl⟩ := hq
      rcases s.capture_result session request listener with
        ⟨hfault, hframe, hposted⟩ | ⟨hfault, hframe, event, hposted, -, hnumber⟩
      · right
        refine ⟨?_, hframeless hposted, hframe⟩
        show (s.capture session request listener).fault.isNone = false
        rw [Option.isNone_eq_false_iff]
        exact hfault
      · left
        refine ⟨?_, ?_, hframe⟩
        · show (s.capture session request listener).fault.isNone = true
          rw [hfault]
          rfl
        · rw [hframeless hposted, List.filterMap_cons_some hnumber]
          rfl
    · right
      obtain ⟨hframe, hposted⟩ := s.answer_frameless fun session request listener heq =>
        hq ⟨session, request, listener, heq⟩
      refine ⟨?_, hposted, hframe⟩
      unfold Used.exposes
      split
      · next session request listener heq =>
        cases heq
        exact absurd ⟨_, _, _, rfl⟩ hq
      · next heq => cases heq
      · rfl
  | draft device template => exact Or.inr ⟨rfl, rfl, draft_frame s device template⟩
  | stir stimulus =>
    by_cases hstimulus : stimulus = .frame
    · subst hstimulus
      cases hemits : s.emits with
      | true =>
        left
        obtain ⟨listener, hemitted⟩ := emitFrame_of_emits hemits
        refine ⟨hemits, ?_, ?_⟩
        · show s.emitFrame.2.filterMap _ = _
          rw [hemitted, List.filterMap_cons_some (result_frame? s listener)]
          rfl
        · show s.emitFrame.1.frame = _
          rw [hemitted]
          exact result_frame s listener
      | false =>
        right
        have hidle := emitFrame_of_not_emits (Bool.eq_false_iff.mp hemits)
        refine ⟨hemits, ?_, ?_⟩
        · show s.emitFrame.2.filterMap _ = _
          rw [hidle]
          rfl
        · show s.emitFrame.1.frame = _
          rw [hidle]
    · right
      obtain ⟨hframe, hposted⟩ := s.stir_frameless hstimulus
      refine ⟨?_, hposted, hframe⟩
      unfold Used.exposes
      split
      · next heq => cases heq
      · next heq =>
        cases heq
        exact absurd rfl hstimulus
      · rfl
  | clearJournal => exact Or.inr ⟨rfl, rfl, rfl⟩

/-- The results in the history are numbered from one on, and the last number was the latest frame. -/
structure Gapless (h : Usage) : Prop where
  frame : h.now.frame = h.past.countP (·.exposes)
  frames : h.past.reverse.flatMap (·.frames) = List.range' 1 (h.past.countP (·.exposes))

theorem Gapless.step {h : Usage} (hh : Gapless h) (use : Use) : Gapless (h.step use) := by
  have hflatten : (h.step use).past.reverse.flatMap (·.frames) =
      h.past.reverse.flatMap (·.frames) ++ (⟨h.now, use⟩ : Used).frames := by
    show (⟨h.now, use⟩ :: h.past).reverse.flatMap _ = _
    rw [List.reverse_cons, List.flatMap_append, List.flatMap_singleton]
  have hcount : (h.step use).past.countP (·.exposes) =
      h.past.countP (·.exposes) + if (⟨h.now, use⟩ : Used).exposes = true then 1 else 0 :=
    List.countP_cons
  rcases use_frames h.now use with ⟨hexposes, hframes, hframe⟩ | ⟨hexposes, hframes, hframe⟩
  · rw [if_pos hexposes] at hcount
    constructor
    · rw [hcount, ← hh.frame]
      exact hframe
    · rw [hflatten, hh.frames, hframes, hcount, List.range'_1_concat, hh.frame, Nat.add_comm 1]
  · rw [if_neg (by rw [hexposes]; decide), Nat.add_zero] at hcount
    constructor
    · rw [hcount, ← hh.frame]
      exact hframe
    · rw [hflatten, hh.frames, hframes, hcount, List.append_nil]

/-- However a simulator is used, and through whatever handles, no device is listed twice, a device is open
exactly while events have a receiver, and something repeats only while one is open. So a frame can be emitted
exactly while something repeats, and comes to the one next result. The results that were posted are numbered
from one on in that order, one for each capture that succeeded and each frame that was emitted. -/
theorem frames_consecutive (ids : List DeviceId) (uses : List Use) :
    let h := (Usage.mk (withDevices ids) []).run uses
    h.now.list.Nodup ∧ h.now.linked = h.now.openDevice.isSome ∧
    (h.now.isRepeating → h.now.openDevice.isSome) ∧
    h.now.emits = h.now.isRepeating ∧
    h.now.emitFrame.2.map (·.frame?) = (if h.now.isRepeating then [some (h.now.frame + 1)] else []) ∧
    (∀ u ∈ h.past, u.frames.length = if u.exposes then 1 else 0) ∧
    h.past.reverse.flatMap (·.frames) = List.range' 1 (h.past.countP (·.exposes)) := by
  intro h
  have hwired : h.now.Wired :=
    Usage.run_keeps (P := fun h => h.now.Wired) (withDevices_wired ids) (fun _ use hs => hs.use use) uses
  have hframe : (withDevices ids).frame = 0 :=
    withDevices_induct (P := fun s => s.frame = 0) rfl (fun _ _ _ hs => hs) ids
  have hgapless : Gapless h :=
    Usage.run_keeps (P := Gapless) ⟨hframe, rfl⟩ (fun _ use hh => hh.step use) uses
  have hopen : h.now.isRepeating → h.now.openDevice.isSome := by
    intro hrepeating
    by_contra hnone
    have hidle := hwired.still (Option.not_isSome_iff_eq_none.mp hnone)
    unfold isRepeating at hrepeating
    rw [hidle] at hrepeating
    cases hrepeating
  have hemits : h.now.emits = h.now.isRepeating := by
    unfold emits
    rw [hwired.linked, Bool.and_eq_left_iff_imp]
    exact hopen
  refine ⟨hwired.distinct, hwired.linked, hopen, hemits, ?_, ?_, hgapless.frames⟩
  · rw [← hemits]
    split
    · next hsome =>
      obtain ⟨listener, hemitted⟩ := emitFrame_of_emits hsome
      rw [hemitted, List.map_singleton, result_frame?]
    · next hnone => rw [emitFrame_of_not_emits hnone, List.map_nil]
  · rintro ⟨s, use⟩ -
    rcases use_frames s use with ⟨hexposes, hframes, -⟩ | ⟨hexposes, hframes, -⟩
    · rw [hexposes, hframes]
      rfl
    · rw [hexposes, hframes]
      rfl

/-- A session outlives its device and is used again after another was opened, and then the first device is
closed once more. -/
def staleUses : List Use :=
  let request := (Draft.blank .preview).build
  [.call (.openDevice "0"), .call (.createSession ⟨"0", 0⟩ []), .call (.setRepeating ⟨1⟩ request .lensState),
    .stir .frame, .call (.closeDevice ⟨"0", 0⟩), .stir .frame, .call (.openDevice "1"),
    .call (.capture ⟨1⟩ request .focusTrigger), .call (.setRepeating ⟨1⟩ request .lensState),
    .call (.closeDevice ⟨"0", 0⟩), .stir (.arm .captureResult), .stir .frame]

theorem stale_frames_consecutive :
    let h := (Usage.mk (withDevices ["0", "1"]) []).run staleUses
    h.now.isRepeating ∧ h.now.openDevice.isSome ∧ h.now.emits ∧
      h.past.reverse.flatMap (·.frames) = [1, 2, 3] := by
  obtain ⟨-, -, hopen, hemits, -, -, hframes⟩ := frames_consecutive ["0", "1"] staleUses
  have hrepeating : ((Usage.mk (withDevices ["0", "1"]) []).run staleUses).now.isRepeating := rfl
  exact ⟨hrepeating, hopen hrepeating, hemits.trans hrepeating, hframes⟩

end CameraControl.Simulator
