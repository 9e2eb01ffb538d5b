import CameraControl.Proofs.Openings

/-!
Devices that no opening is waiting for. Whom to tell about a device is remembered in one place, from an
opening that is let in until an open camera is released; that the opener has been told in the meantime does
not matter. So a stray device is closed as it should be only if no one has asked for a camera since the last
release. Otherwise it is taken for a device that was asked for, even in place of one that is held.
-/
namespace CameraControl

section

variable {ε σ δ τ : Type}

/-- Whom a message leaves to be told of a device. -/
theorem Custody.Step.opener {κ κ' : Custody δ} {message : Message δ τ} {failure : Option Failure}
    {accepted : List DeviceId} {closed : List δ} (h : κ.Step message failure accepted closed κ') :
    κ'.opener = match message.opening? with
      | some (_, callback) => if κ.isOpen then κ.opener else some callback
      | none => if message.isRelease && κ.isOpen then none else κ.opener := by
  cases h with
  | quiet hopening hrelease | forfeited hopening hrelease => rw [hopening, hrelease]; rfl
  | alreadyOpen _ hopening hopen => simp [hopening, hopen]
  | disabled hopening hopen | refused _ hopening hopen | accepted hopening hopen =>
    simp [hopening, hopen]
  | released hrelease hopen | idle hrelease hopen =>
    simp [Message.release_no_opening hrelease, hrelease, hopen]
  | stray hdelivered | adopted hdelivered | broken _ hdelivered =>
    rw [Message.delivery_no_opening hdelivered, Message.delivery_no_release hdelivered]
    rfl
  | complained => rfl

/-- Who is remembered is told of a device that comes, whether it is then taken up or closed. -/
theorem Custody.Step.delivery {κ κ' : Custody δ} {message : Message δ τ} {failure : Option Failure}
    {accepted : List DeviceId} {closed : List δ} (h : κ.Step message failure accepted closed κ')
    {device : δ} (hdelivered : message.delivered? = some device) {callback : Tag}
    (hopener : κ.opener = some callback) :
    (∃ camera, κ'.outcomes = κ.outcomes ++ [.opened callback camera] ∧ κ'.device = some device) ∨
      ∃ info, κ'.outcomes = κ.outcomes ++ [.openFailed callback κ.index info] := by
  cases h with
  | adopted harrived hasked =>
    obtain rfl := Option.some.inj (hasked.symm.trans hopener)
    exact Or.inl ⟨_, rfl, harrived.symm.trans hdelivered⟩
  | broken info harrived hasked =>
    obtain rfl := Option.some.inj (hasked.symm.trans hopener)
    exact Or.inr ⟨info, rfl⟩
  | stray _ hnone => cases hnone.symm.trans hopener
  | quiet _ _ hnone | forfeited _ _ hnone => cases hnone.symm.trans hdelivered
  | alreadyOpen _ hopening | disabled hopening | refused _ hopening | accepted hopening =>
    cases (Message.opening_no_delivery hopening).symm.trans hdelivered
  | released hrelease | idle hrelease =>
    cases (Message.release_no_delivery hrelease).symm.trans hdelivered
  | complained => cases hdelivered

/-- The opener of the last opening that was let in, if no open camera was released since then. -/
def opener? : List (Handled σ δ τ) → Option Tag
  | [] => none
  | h :: past =>
    match h.message.opening? with
    | some (_, callback) => if h.before.stage ≠ .unopened then opener? past else some callback
    | none =>
      if h.message.isRelease && decide (h.before.stage ≠ .unopened) then none else opener? past

variable [Subsystem σ δ τ]

theorem Controller.notice_stray {c : Controller σ δ τ} {device : δ}
    (hopener : c.attached.openCallback = none) :
    c.notice (.opened device) = c.countEvent.tell (.closeDevice device) := by
  show c.countEvent.onOpened device = _
  unfold onOpened
  have hnone : c.countEvent.attached.openCallback = none := hopener
  rw [hnone]

namespace Run

/-- The controller remembers the opener. -/
def Remembers (r : Run σ δ τ) : Prop := r.now.attached.openCallback = opener? r.past

theorem remembers_handle {h : Handled σ δ τ} {past : List (Handled σ δ τ)}
    (htenured : Tenured ⟨h.before, past⟩) (hr : Remembers (before h past)) :
    Remembers ⟨h.after, h :: past⟩ := by
  obtain ⟨hstep, -, -⟩ := h.steps htenured.held
  have hbefore : h.before.attached.openCallback = opener? past := hr
  have hafter : h.after.attached.openCallback = _ := hstep.opener
  show h.after.attached.openCallback = opener? (h :: past)
  unfold opener?
  rw [hafter, ← hbefore]
  cases h.message.opening? with
  | none => rfl
  | some asked => simp only [Controller.custody, decide_eq_true_eq]

variable [Spontaneous ε σ δ τ]

theorem remembers (world : σ) (roster : Roster) (historySize : Nat) (moves : List (Move ε)) :
    ((start world roster historySize).run moves).Throughout fun r => r.Tenured ∧ r.Remembers := by
  refine (invariant_tenured Remembers (fun _ => True) ?_ ?_ world roster historySize
    (fun move (_ : move ∈ moves) => trivial) rfl).2.2
  · intro r move _ hr
    cases move <;> exact hr
  · intro h past htenured hr
    exact remembers_handle htenured hr

end Run

end

namespace Simulator

open Run

/-- What may happen to a simulator of which others, too, open devices for the controller. -/
inductive Disturbance
  | stimulus (stimulus : Stimulus)
  | openDevice (id : DeviceId)
deriving DecidableEq, Repr

instance : Spontaneous Disturbance Simulator Device Session where
  stir s
    | .stimulus stimulus => Spontaneous.stir s stimulus
    | .openDevice id => ((s.openFor id).world, (s.openFor id).posted)

/-- What repeats goes on unless the device that is open is closed. -/
theorem closeDevice_elsewhere {s : Simulator} {device : Device} (hother : s.openDevice ≠ some device.id) :
    (s.closeDevice device).world.repeating = s.repeating := by
  unfold closeDevice
  have hnoted : (s.note (.closeDevice device.id)).openDevice ≠ some device.id := hother
  dsimp only
  rw [if_neg hnoted]
  rfl

theorem closeDevice_posted (s : Simulator) (device : Device) : (s.closeDevice device).posted = [] := by
  unfold closeDevice
  dsimp only
  split_ifs <;> rfl

/-- Closing a device has no effect on the controller. -/
theorem tell_closeDevice (c : Controller Simulator Device Session) (device : Device) :
    c.tell (.closeDevice device) =
      { c with subsystem := (c.subsystem.closeDevice device).world } := by
  show ({ c with subsystem := (c.subsystem.closeDevice device).world } :
    Controller Simulator Device Session).postAll (c.subsystem.closeDevice device).posted = _
  rw [closeDevice_posted]
  unfold Controller.postAll
  rw [List.map_nil, List.append_nil]

/-- A device that is delivered when there is no opener is closed, and nothing else changes, other than that
nothing repeats any more on the device that was open. If there is an opener, it is told of the device, even
if it was told the outcome of its opening before. -/
theorem stray_closed_iff_no_opener (world : Simulator) (roster : Roster) (historySize : Nat)
    (moves : List (Run.Move Disturbance)) :
    let r := (Run.start world roster historySize).run moves
    ∀ h past device, (h :: past) <:+ r.past → h.message = .hardware (.opened device) →
      (opener? past = none →
        h.after = { h.before with
          subsystem := (h.before.subsystem.closeDevice device).world
          tally := { h.before.tally with events := h.before.tally.events + 1 } } ∧
        (h.before.subsystem.openDevice ≠ some device.id →
          h.after.subsystem.repeating = h.before.subsystem.repeating)) ∧
      ∀ callback, opener? past = some callback →
        (∃ camera, h.after.outcomes = h.before.outcomes ++ [.opened callback camera] ∧
          h.after.attached.device = some device) ∨
        ∃ info, h.after.outcomes = h.before.outcomes ++
          [.openFailed callback h.before.attached.index info] := by
  intro r h past device hsuffix hmessage
  obtain ⟨htenured, hremembers⟩ := remembers world roster historySize moves h past hsuffix
  have hbefore : h.before.attached.openCallback = opener? past := hremembers
  rw [← hbefore]
  constructor
  · intro hopener
    have hafter : h.after = { h.before with
        subsystem := (h.before.subsystem.closeDevice device).world
        tally := { h.before.tally with events := h.before.tally.events + 1 } } := by
      unfold Handled.after
      rw [hmessage]
      exact (Controller.notice_stray hopener).trans (tell_closeDevice h.before.countEvent device)
    refine ⟨hafter, ?_⟩
    intro hother
    rw [hafter]
    exact closeDevice_elsewhere hother
  · intro callback hopener
    have hheld : h.before.attached.device.isSome → h.before.stage ≠ .unopened := htenured.held
    obtain ⟨hstep, -, -⟩ := h.steps hheld
    have hdelivered : h.message.delivered? = some device := by
      rw [hmessage]
      rfl
    exact hstep.delivery hdelivered hopener

/-- A camera is opened and released, then someone else opens the other device. -/
def visitedMoves : List (Run.Move Disturbance) :=
  [.ask (.openCamera 0 0), .handle, .handle, .ask .release, .handle, .stir (.openDevice "1"), .handle]

/-- A run of a simulator with two devices, of which others, too, may open one. -/
def disturbedRun (moves : List (Run.Move Disturbance)) : Run Simulator Device Session :=
  (Run.start (withDevices ["0", "1"]) (Roster.empty.update ["0", "1"]) 20).run moves

theorem visited_stray_closed : ∃ h past, (h :: past) <:+ (disturbedRun visitedMoves).past ∧
    h.message = .hardware (.opened ⟨"1", 1⟩) ∧ opener? past = none ∧
    h.after.attached = h.before.attached ∧ h.after.reports = h.before.reports ∧
    h.after.subsystem.openDevice = none := by
  obtain ⟨hclosed, -⟩ := stray_closed_iff_no_opener (withDevices ["0", "1"])
    (Roster.empty.update ["0", "1"]) 20 visitedMoves _ _ ⟨"1", 1⟩ (List.suffix_refl _) rfl
  obtain ⟨hafter, -⟩ := hclosed rfl
  refine ⟨_, _, List.suffix_refl _, rfl, rfl, ?_, ?_, rfl⟩
  · rw [hafter]
  · rw [hafter]

/-- The opener has been told that its camera is open, and nothing else is awaited, when someone else opens
the other device. That device is not closed, but takes the place of the one that is held. -/
theorem stray_not_closed : ∃ h past, (disturbedRun [.ask (.openCamera 0 0), .handle, .handle,
      .stir (.openDevice "1"), .handle]).past = h :: past ∧
    h.message = .hardware (.opened ⟨"1", 1⟩) ∧ Answered ⟨h.before, past⟩ ∧ h.closed = [] ∧
    h.before.attached.device = some ⟨"0", 0⟩ ∧ h.after.attached.device = some ⟨"1", 1⟩ ∧
    h.outcomes = [.opened 0 ⟨0, standard .front⟩] := by
  refine ⟨_, _, rfl, rfl, ?_, rfl, rfl, rfl, rfl⟩
  intro callback
  cases callback <;> rfl

end Simulator

end CameraControl
