import CameraControl.Proofs.Streaming

/-!
Sessions that have had their time. A simulator is used directly here, with any number of devices and sessions
at hand and nobody to keep order among the calls. A session is refused once a newer one was created, whatever
is opened or closed. That its device was closed only counts until the next opening, of whatever device.
-/
namespace CameraControl

/-- The session that is to be used, other than to abort what it still does. -/
def Call.used? {δ τ : Type} : Call δ τ → Option τ
  | setRepeating session _ _ => some session
  | stopRepeating session => some session
  | capture session _ _ => some session
  | _ => none

namespace Simulator

/-- What a simulator is used for: by its callers, or to have something happen. -/
inductive Use
  | call (q : Call Device Session)
  | draft (device : Device) (template : Template)
  | stir (stimulus : Stimulus)
  | clearJournal

def use (s : Simulator) : Use → Outcome
  | .call q => s.answer q
  | .draft device template => { world := (s.draft device template).1 }
  | .stir stimulus =>
    { world := (Spontaneous.stir s stimulus).1, posted := (Spontaneous.stir s stimulus).2 }
  | .clearJournal => { world := { s with journal := [] } }

/-- A use that was made of a simulator. -/
structure Used where
  before : Simulator
  use : Use

namespace Used

def outcome (u : Used) : Outcome := u.before.use u.use

/-- The session that was created, and the device that it is for. -/
def created? (u : Used) : Option (Device × Session) :=
  match u.use with
  | .call (.createSession device _) =>
    (u.outcome.posted.filterMap (·.configured?)).head?.map (device, ·)
  | _ => none

end Used

/-- A simulator and the uses that were made of it, the latest first. -/
structure Usage where
  now : Simulator
  past : List Used := []

/-- The device that is open after these uses: the one that was opened last, unless a device of that name was
closed since, or the open one vanished. -/
def holder : List Used → Option DeviceId
  | [] => none
  | u :: past =>
    match u.use with
    | .call (.openDevice id) => if u.outcome.fault.isNone then some id else holder past
    | .call (.closeDevice device) => if holder past = some device.id then none else holder past
    | .stir .disconnect => none
    | _ => holder past

namespace Usage

def step (h : Usage) (use : Use) : Usage := ⟨(h.now.use use).world, ⟨h.now, use⟩ :: h.past⟩

def run (h : Usage) (uses : List Use) : Usage := uses.foldl step h

theorem run_keeps {P : Usage → Prop} {h : Usage} (hP : P h)
    (hstep : ∀ h use, P h → P (h.step use)) (uses : List Use) : P (h.run uses) := by
  induction uses generalizing h with
  | nil => exact hP
  | cons use uses ih => exact ih (hstep h use hP)

end Usage

section
variable (s : Simulator)

/-- A device that is opened is open in place of any other. -/
theorem openFor_opens (id : DeviceId) :
    (s.openFor id).fault = none ∧ (s.openFor id).world.openDevice = some id ∨
      (∃ fault, (s.openFor id).fault = some fault) ∧
        (s.openFor id).world.openDevice = s.openDevice := by
  unfold openFor
  dsimp only
  split_ifs
  · exact Or.inr ⟨⟨_, rfl⟩, rfl⟩
  · exact Or.inl ⟨rfl, rfl⟩
  · exact Or.inr ⟨⟨_, rfl⟩, rfl⟩

/-- Devices are told apart by their names alone when one is closed. -/
theorem closeDevice_closes (device : Device) : (s.closeDevice device).world.openDevice =
    if s.openDevice = some device.id then none else s.openDevice := by
  unfold closeDevice
  dsimp only
  split_ifs with hopen hdevice hdevice
  · rfl
  · exact absurd hopen hdevice
  · exact absurd hdevice hopen
  · rfl

theorem emitFrame_openDevice : s.emitFrame.1.openDevice = s.openDevice := by
  unfold emitFrame
  split
  · split_ifs
    · exact (result_unmoved s _).openDevice
    · rfl
  · rfl

theorem arm_openDevice (op : Operation) : (s.arm op).openDevice = s.openDevice := by
  unfold arm
  split_ifs <;> rfl

end

/-- What is open is what was opened last and not closed. -/
theorem openDevice_eq_holder {h : Usage} (hopen : h.now.openDevice = holder h.past) (use : Use) :
    (h.step use).now.openDevice = holder (h.step use).past := by
  cases use with
  | call q =>
    cases q with
    | openDevice id =>
      show (h.now.openFor id).world.openDevice =
        if (h.now.openFor id).fault.isNone then some id else holder h.past
      rcases h.now.openFor_opens id with ⟨hfault, hopened⟩ | ⟨⟨fault, hfault⟩, hkept⟩
      · rw [hfault]
        exact hopened
      · rw [hfault]
        exact hkept.trans hopen
    | closeDevice device =>
      show (h.now.closeDevice device).world.openDevice =
        if holder h.past = some device.id then none else holder h.past
      rw [closeDevice_closes, hopen]
    | createSession device surfaces => exact (createSession_mild h.now device surfaces).openDevice.trans hopen
    | setRepeating session request listener =>
      exact (setRepeating_mild h.now session request listener).openDevice.trans hopen
    | stopRepeating session => exact (stopRepeating_mild h.now session).openDevice.trans hopen
    | capture session request listener =>
      exact (capture_mild h.now session request listener).openDevice.trans hopen
    | abortCaptures session => exact (abortCaptures_mild h.now session).openDevice.trans hopen
  | draft device template => exact (draft_unmoved h.now device template).openDevice.trans hopen
  | stir stimulus =>
    cases stimulus with
    | frame => exact (emitFrame_openDevice h.now).trans hopen
    | arm op => exact (arm_openDevice h.now op).trans hopen
    | disconnect => rfl
    | _ => exact hopen
  | clearJournal => exact hopen

/-- A session was created since. -/
def Superseded (since : List Used) : Prop := ∃ u ∈ since, u.created?.isSome

/-- Each session in the past was the newest when it was created, and others have been created since as the
numbers have it. -/
def Counted (h : Usage) : Prop :=
  ∀ since u older device session, h.past = since ++ u :: older → u.created? = some (device, session) →
    h.now.generation = session.generation + (since.filterMap (·.created?)).length

/-- A use creates the next session, or none. -/
theorem use_created (s : Simulator) (use : Use) :
    (s.use use).world.generation = s.generation ∧ (⟨s, use⟩ : Used).created? = none ∨
      ∃ device, (s.use use).world.generation = s.generation + 1 ∧
        (⟨s, use⟩ : Used).created? = some (device, ⟨s.generation + 1⟩) := by
  cases use with
  | call q =>
    by_cases hq : ∃ device surfaces, q = .createSession device surfaces
    · obtain ⟨device, surfaces, rfl⟩ := hq
      have hcreated : (⟨s, .call (.createSession device surfaces)⟩ : Used).created? =
          ((s.createSession device surfaces).posted.filterMap (·.configured?)).head?.map (device, ·) := rfl
      rcases s.createSession_barren device surfaces with hbarren | ⟨hgeneration, hposted⟩
      · exact Or.inl ⟨hbarren.generation, by rw [hcreated, hbarren.configured]; rfl⟩
      · exact Or.inr ⟨device, hgeneration, by rw [hcreated, hposted]; rfl⟩
    · have hother : q.createsSession = false := by
        cases q <;> first | rfl | exact absurd ⟨_, _, rfl⟩ hq
      refine Or.inl ⟨(s.answer_barren hother).generation, ?_⟩
      cases q <;> first | rfl | exact absurd ⟨_, _, rfl⟩ hq
  | draft device template => exact Or.inl ⟨draft_generation s device template, rfl⟩
  | stir stimulus => exact Or.inl ⟨(stimulus_sessionless s stimulus).1, rfl⟩
  | clearJournal => exact Or.inl ⟨rfl, rfl⟩

theorem Counted.step {h : Usage} (hh : Counted h) (use : Use) : Counted (h.step use) := by
  intro since u older device session hpast hcreated
  cases since with
  | nil =>
    obtain ⟨rfl, rfl⟩ := List.cons.inj hpast
    rcases use_created h.now use with ⟨-, hnone⟩ | ⟨device', hgeneration, hsome⟩
    · rw [hnone] at hcreated
      cases hcreated
    · rw [hsome] at hcreated
      cases hcreated
      exact hgeneration
  | cons newest since =>
    obtain ⟨rfl, hrest⟩ := List.cons.inj hpast
    have hcount := hh since u older device session hrest hcreated
    show (h.now.use use).world.generation = _
    rcases use_created h.now use with ⟨hgeneration, hnone⟩ | ⟨device', hgeneration, hsome⟩
    · rw [hgeneration, List.filterMap_cons_none hnone, hcount]
    · rw [hgeneration, List.filterMap_cons_some hsome, hcount, List.length_cons, Nat.add_assoc]

/-- A session that is not current is refused, and no other is refused for that. -/
theorem answer_closed_iff (s : Simulator) {q : Call Device Session} {session : Session}
    (hq : q.used? = some session) :
    s.answer q = { world := s, fault := some .sessionClosed } ↔ ¬ s.Current session := by
  have hserved {a : Outcome} (hfault : a.fault ≠ some .sessionClosed) :
      a ≠ { world := s, fault := some .sessionClosed } := fun heq => hfault (congrArg Answer.fault heq)
  cases q with
  | setRepeating other request listener =>
    cases hq
    refine ⟨fun heq hcurrent => ?_, fun hstale => if_pos hstale⟩
    refine absurd heq (hserved (a := s.setRepeating session request listener) ?_)
    unfold setRepeating
    rw [if_neg (not_not_intro hcurrent)]
    dsimp only
    split_ifs <;> exact nofun
  | stopRepeating other =>
    cases hq
    refine ⟨fun heq hcurrent => ?_, fun hstale => if_pos hstale⟩
    refine absurd heq (hserved (a := s.stopRepeating session) ?_)
    unfold stopRepeating
    rw [if_neg (not_not_intro hcurrent)]
    split_ifs <;> exact nofun
  | capture other request listener =>
    cases hq
    refine ⟨fun heq hcurrent => ?_, fun hstale => if_pos hstale⟩
    refine absurd heq (hserved (a := s.capture session request listener) ?_)
    unfold capture
    rw [if_neg (not_not_intro hcurrent)]
    split_ifs <;> exact nofun
  | _ => cases hq

/-- A session is refused, and nothing else comes of a call to it, exactly once a newer one was created, and
while no device is open. So it is of use again when any device is opened after its own was closed, unless a
session was created since. -/
theorem refused_iff_superseded_or_unheld (world : Simulator) (hclosed : world.openDevice = none)
    (uses : List Use) :
    let h := (Usage.mk world []).run uses
    ∀ since u older device session, h.past = since ++ u :: older →
      u.created? = some (device, session) → ∀ q, q.used? = some session →
        (h.now.answer q = { world := h.now, fault := some .sessionClosed } ↔
          Superseded since ∨ holder h.past = none) := by
  intro h since u older device session hpast hcreated q hq
  have hopen : h.now.openDevice = holder h.past :=
    Usage.run_keeps (P := fun h => h.now.openDevice = holder h.past) hclosed
      (fun _ use hP => openDevice_eq_holder hP use) uses
  have hcounted : Counted h :=
    Usage.run_keeps (fun since u older device session hpast => by simp at hpast)
      (fun _ use hP => hP.step use) uses
  have hgeneration := hcounted since u older device session hpast hcreated
  have hnewest : h.now.generation = session.generation ↔ ¬ Superseded since := by
    unfold Superseded
    rw [hgeneration, Nat.add_eq_left, List.length_eq_zero_iff, List.filterMap_eq_nil_iff]
    simp only [not_exists, not_and, Option.not_isSome_iff_eq_none]
  rw [answer_closed_iff h.now hq, ← hopen]
  unfold Current
  rw [hnewest, not_and_or, not_not, not_not, or_comm]

/-- A device is opened, a session is created on it, and the device is closed. -/
def closedUses : List Use :=
  [.call (.openDevice "0"), .call (.createSession ⟨"0", 0⟩ []), .call (.closeDevice ⟨"0", 0⟩)]

theorem closed_session_refused :
    let h := (Usage.mk (withDevices ["0"]) []).run closedUses
    h.now.answer (.stopRepeating ⟨1⟩) = { world := h.now, fault := some .sessionClosed } := by
  have hrefused := refused_iff_superseded_or_unheld (withDevices ["0"]) rfl closedUses [⟨_, _⟩]
    ⟨_, _⟩ [⟨_, _⟩] ⟨"0", 0⟩ ⟨1⟩ rfl rfl (.stopRepeating ⟨1⟩) rfl
  exact hrefused.mpr (Or.inr rfl)

/-- The device is opened again. -/
def reopenedUses : List Use := closedUses ++ [.call (.openDevice "0")]

/-- The device that the session is for was closed, and the session stops what repeats now. -/
theorem reopened_session_not_refused :
    let h := (Usage.mk (withDevices ["0"]) []).run reopenedUses
    (∃ since u older, h.past = since ++ u :: older ∧ u.created? = some (⟨"0", 0⟩, ⟨1⟩) ∧
      ∃ e ∈ since, e.use = .call (.closeDevice ⟨"0", 0⟩)) ∧
    h.now.answer (.stopRepeating ⟨1⟩) = { world := h.now.note .stopRepeating } ∧
    ¬ h.now.answer (.stopRepeating ⟨1⟩) = { world := h.now, fault := some .sessionClosed } := by
  refine ⟨⟨[⟨_, _⟩, ⟨_, _⟩], ⟨_, _⟩, [⟨_, _⟩], rfl, rfl, _, List.mem_cons_of_mem _ List.mem_cons_self, rfl⟩,
    rfl, fun heq => ?_⟩
  exact nomatch congrArg Answer.fault heq

end Simulator

end CameraControl
