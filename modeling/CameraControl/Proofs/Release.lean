import CameraControl.Proofs.Tenure

/-!
What a release settles. Where a camera is open, it leaves nothing attached and nothing remembered of the
lens, and no event can make a camera open again before one is asked for: with no opener to tell, a device
that still comes is closed. Where none is open it is rejected, and an opening under way goes on.
-/
namespace CameraControl

/-- Without an opener nothing that happens opens a camera, until one is asked for. -/
theorem Custody.Step.vacant {δ τ : Type} {κ κ' : Custody δ} {message : Message δ τ}
    {failure : Option Failure} {accepted : List DeviceId} {closed : List δ}
    (h : κ.Step message failure accepted closed κ') (hopening : message.opening? = none)
    (hopen : κ.isOpen = false) (hopener : κ.opener = none) :
    κ'.isOpen = false ∧ κ'.opener = none := by
  cases h with
  | quiet | forfeited | idle | stray => exact ⟨hopen, hopener⟩
  | released => exact ⟨rfl, rfl⟩
  | alreadyOpen _ hasked | disabled hasked | refused _ hasked | accepted hasked =>
    rw [hopening] at hasked
    cases hasked
  | adopted _ hsome | broken _ _ hsome | complained _ hsome =>
    rw [hopener] at hsome
    cases hsome

variable {ε σ δ τ : Type}

/-- No camera is open, and no one is to be told of one. -/
def Controller.Vacant (c : Controller σ δ τ) : Prop :=
  c.stage = .unopened ∧ c.attached.openCallback = none

variable [Subsystem σ δ τ]

theorem Controller.release_opened {c : Controller σ δ τ} (hopen : c.stage ≠ .unopened) :
    c.release.stage = .unopened ∧ c.release.attached = ({} : Attachment δ τ) ∧ c.release.lastLens = none := by
  unfold release
  rw [if_neg hopen]
  exact ⟨rfl, rfl, rfl⟩

theorem Controller.release_unopened {c : Controller σ δ τ} (hunopened : c.stage = .unopened) :
    c.release = c.reject := if_pos hunopened

namespace Handled

variable {h : Handled σ δ τ} {past : List (Handled σ δ τ)}

theorem after_release (hmessage : h.message = .action .release) :
    h.after = (h.before.record .release).release := by
  unfold after
  rw [hmessage]
  rfl

theorem vacant (htenured : Run.Tenured ⟨h.before, past⟩) (hopening : h.message.opening? = none)
    (hvacant : h.before.Vacant) : h.after.Vacant := by
  obtain ⟨hunopened, hopener⟩ := hvacant
  obtain ⟨hstep, -, -⟩ := h.steps htenured.held
  obtain ⟨hopen, hopener⟩ :=
    hstep.vacant hopening (decide_eq_false (not_not_intro hunopened)) hopener
  exact ⟨not_not.mp (of_decide_eq_false hopen), hopener⟩

end Handled

namespace Run

/-- Since an open camera was released, no one is to be told of a device, if no one has asked. -/
def Relinquished (r : Run σ δ τ) : Prop :=
  ∀ h later past, r.past = later ++ h :: past → h.message = .action .release →
    h.before.stage ≠ .unopened → (∀ e ∈ later, e.message.opening? = none) → r.now.Vacant

theorem relinquished_handle {h : Handled σ δ τ} {past : List (Handled σ δ τ)}
    (htenured : Tenured ⟨h.before, past⟩) (hr : (before h past).Relinquished) :
    Relinquished ⟨h.after, h :: past⟩ := by
  intro released later older hpast hmessage hopen hunasked
  cases later with
  | nil =>
    obtain ⟨rfl, -⟩ := List.cons.inj hpast
    obtain ⟨hunopened, hattached, -⟩ :=
      Controller.release_opened (c := h.before.record .release) hopen
    show h.after.Vacant
    rw [Handled.after_release hmessage]
    refine ⟨hunopened, ?_⟩
    rw [hattached]
  | cons newest later =>
    obtain ⟨rfl, holder⟩ := List.cons.inj hpast
    obtain ⟨hopening, hunasked⟩ := List.forall_mem_cons.mp hunasked
    exact Handled.vacant htenured hopening (hr released later older holder hmessage hopen hunasked)

variable [Spontaneous ε σ δ τ]

omit [Subsystem σ δ τ] in
theorem relinquished_meanwhile (r : Run σ δ τ) (move : Move ε) (hr : r.Relinquished) :
    Relinquished { r with now := r.now.meanwhile move } := by
  intro h later past hpast hmessage hopen hunasked
  have hvacant : r.now.Vacant := hr h later past hpast hmessage hopen hunasked
  cases move <;> exact hvacant

theorem relinquished (world : σ) (roster : Roster) (historySize : Nat) (moves : List (Move ε)) :
    ((start world roster historySize).run moves).Relinquished ∧
      ((start world roster historySize).run moves).Throughout fun r => r.Tenured ∧ r.Relinquished :=
  (invariant_tenured Relinquished (fun _ => True)
    (fun r move _ hr => relinquished_meanwhile r move hr)
    (fun h past htenured hr => relinquished_handle htenured hr) world roster historySize
    (fun move (_ : move ∈ moves) => trivial) (fun h later past hpast => by simp [start] at hpast)).2

/-- A release leaves no camera open. If one was, nothing is attached any more, as in a new controller, and
the stage stays as it is until a camera is asked for again. If none was, the release is rejected and changes
nothing. -/
theorem unopened_since_release (world : σ) (roster : Roster) (historySize : Nat)
    (moves : List (Move ε)) :
    let r := (start world roster historySize).run moves
    ∀ h later past, r.past = later ++ h :: past → h.message = .action .release →
      h.after.stage = .unopened ∧
      (h.before.stage = .unopened → h.after = (h.before.record .release).reject) ∧
      (h.before.stage ≠ .unopened →
        h.after.attached = (start world roster historySize).now.attached ∧
        h.after.lastLens = none ∧ ((∀ e ∈ later, e.message.opening? = none) → r.now.stage = .unopened)) := by
  intro r h later past hpast hmessage
  have hr : r.Relinquished := (relinquished world roster historySize moves).1
  have hafter : h.after = (h.before.record .release).release := Handled.after_release hmessage
  by_cases hopen : h.before.stage = .unopened
  · have hrejected : h.after = (h.before.record .release).reject :=
      hafter.trans (Controller.release_unopened hopen)
    refine ⟨?_, fun _ => hrejected, absurd hopen⟩
    rw [hrejected]
    exact hopen
  · obtain ⟨hunopened, hattached, hlens⟩ :=
      Controller.release_opened (c := h.before.record .release) hopen
    rw [← hafter] at hunopened hattached hlens
    refine ⟨hunopened, fun hsame => absurd hsame hopen, fun _ => ⟨hattached, hlens, ?_⟩⟩
    intro hunasked
    exact (hr h later past hpast hmessage hopen hunasked).1

end Run

namespace Simulator

open Run

/-- Two cameras are asked for at once, and the first one is released before the second comes. -/
def hurriedMoves : List Move :=
  [.ask (.openCamera 0 0), .ask (.openCamera 1 1), .handle, .ask .release, .handle, .handle, .handle,
    .handle]

/-- The camera that comes after the release is turned away. -/
theorem hurried_unopened_since_release :
    let r := run hurriedMoves
    ∃ h later past, r.past = later ++ h :: past ∧ h.message = .action .release ∧
      h.before.stage ≠ .unopened ∧ delivered later ≠ [] ∧ r.now.stage = .unopened := by
  obtain ⟨-, -, hfinal⟩ := unopened_since_release (withDevices ["0", "1"])
    (Roster.empty.update ["0", "1"]) 20 hurriedMoves _ [_] _ rfl rfl
  exact ⟨_, [_], _, rfl, rfl, by decide, by decide, (hfinal (by decide)).2.2 (by decide)⟩

/-- The release comes before the device, which then opens the camera nevertheless. -/
theorem pending_not_released :
    let r := run [.ask (.openCamera 0 0), .ask .release, .handle, .handle, .handle]
    ∃ h later past, r.past = later ++ h :: past ∧ h.message = .action .release ∧
      h.after.attached.openCallback = some 0 ∧ (∀ e ∈ later, e.message.opening? = none) ∧
      r.now.stage = .unconfigured := by
  refine ⟨_, [_], _, rfl, rfl, rfl, ?_, rfl⟩
  decide

end Simulator

end CameraControl
