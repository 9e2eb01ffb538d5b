import CameraControl.Proofs.Custody

/-!
The tenure of a camera, from the message that took it up to the one that gives it up. A camera is open
exactly during a tenure, and its device stays with the controller until an action fails: as long as a
device is held that can only be an action of a kind that is not supported.
-/
namespace CameraControl

variable {σ δ τ : Type}

/-- The three ways in which a step bears on the tenure of a camera. -/
inductive Custody.Turn (κ : Custody δ) (message : Message δ τ) (failure : Option Failure)
    (κ' : Custody δ) : Prop
  | adopts (callback : Tag) (camera : Camera)
      (houtcomes : κ'.outcomes = κ.outcomes ++ [.opened callback camera])
      (hopen : κ'.isOpen) (hdevice : κ'.device.isSome)
  | releases (hrelease : message.isRelease) (houtcomes : κ'.outcomes = κ.outcomes)
      (hopen : κ'.isOpen = false) (hdevice : κ'.device = none)
  | continues (hrelease : message.isRelease = false) (new : List Report)
      (houtcomes : κ'.outcomes = κ.outcomes ++ new) (hnew : new.any (·.isOpened) = false)
      (hopen : κ'.isOpen = κ.isOpen)
      (hdevice : κ'.device = if failure.isSome then none else κ.device)

theorem Custody.Step.turn {κ κ' : Custody δ} {message : Message δ τ} {failure : Option Failure}
    {accepted : List DeviceId} {closed : List δ} (hheld : κ.device.isSome → κ.isOpen)
    (h : κ.Step message failure accepted closed κ') : κ.Turn message failure κ' := by
  have hnone (hopen : κ.isOpen = false) : κ.device = none :=
    Option.not_isSome_iff_eq_none.mp fun hsome => by simp [hheld hsome] at hopen
  cases h with
  | quiet hopening hrelease hdelivered =>
    exact .continues hrelease [] (List.append_nil _).symm rfl rfl rfl
  | forfeited hopening hrelease hdelivered =>
    exact .continues hrelease [] (List.append_nil _).symm rfl rfl rfl
  | alreadyOpen info hopening hopen =>
    exact .continues (Message.opening_no_release hopening) _ rfl rfl rfl rfl
  | disabled hopening hopen =>
    exact .continues (Message.opening_no_release hopening) _ rfl rfl rfl rfl
  | refused info hopening hopen =>
    exact .continues (Message.opening_no_release hopening) _ rfl rfl rfl (hnone hopen)
  | accepted hopening hopen hid =>
    exact .continues (Message.opening_no_release hopening) [] (List.append_nil _).symm rfl rfl rfl
  | released hrelease hopen => exact .releases hrelease rfl rfl rfl
  | idle hrelease hopen => exact .releases hrelease rfl hopen (hnone hopen)
  | stray hdelivered hopener =>
    exact .continues (Message.delivery_no_release hdelivered) [] (List.append_nil _).symm rfl rfl rfl
  | adopted hdelivered hopener hindex => exact .adopts _ _ rfl rfl rfl
  | broken info hdelivered hopener =>
    exact .continues (Message.delivery_no_release hdelivered) _ rfl rfl rfl rfl
  | complained info hopener => exact .continues rfl _ rfl rfl rfl rfl

variable [Subsystem σ δ τ] {h : Handled σ δ τ} {past : List (Handled σ δ τ)}

theorem tenure_adopts (hadopts : h.adopts) : tenure (h :: past) = some [] := if_pos hadopts

theorem tenure_releases (hadopts : h.adopts = false) (hrelease : h.message.isRelease) :
    tenure (h :: past) = none := by
  unfold tenure
  rw [hadopts, hrelease]
  rfl

theorem tenure_continues (hadopts : h.adopts = false) (hrelease : h.message.isRelease = false) :
    tenure (h :: past) = (tenure past).map (h :: ·) := by
  conv => lhs; unfold tenure
  rw [hadopts, hrelease]
  rfl

/-- The state that a tenure makes one expect of the controller, or the lack of one. -/
def Controller.Fits (c : Controller σ δ τ) : Option (List (Handled σ δ τ)) → Prop
  | none => c.stage = .unopened ∧ c.attached.device = none
  | some held => c.stage ≠ .unopened ∧
    (c.attached.device = none ↔ ∃ h ∈ held, h.message.isSupported = false)

theorem Controller.Fits.continues {held? : Option (List (Handled σ δ τ))}
    (hfits : h.before.Fits held?)
    (hopen : h.after.stage ≠ .unopened ↔ h.before.stage ≠ .unopened)
    (hdevice : h.after.attached.device =
      if h.failure?.isSome then none else h.before.attached.device)
    (hfailure : h.failure?.isSome → h.before.attached.device.isSome →
      h.message.isSupported = false) :
    h.after.Fits (held?.map (h :: ·)) := by
  cases held? with
  | none =>
    obtain ⟨hunopened, hnone⟩ := hfits
    refine ⟨not_not.mp fun hopened => hopen.mp hopened hunopened, hdevice.trans ?_⟩
    rw [hnone, ite_self]
  | some held =>
    obtain ⟨hopened, hlost⟩ := hfits
    refine ⟨hopen.mpr hopened, ?_⟩
    rw [hdevice]
    simp only [List.mem_cons, exists_eq_or_imp]
    by_cases hnone : h.before.attached.device = none
    · -- It was lost before, and is not found again.
      rw [hnone, ite_self]
      exact iff_of_true rfl (Or.inr (hlost.mp hnone))
    · rw [or_iff_left (mt hlost.mpr hnone)]
      constructor
      · intro hafter
        by_cases hfailed : h.failure?.isSome
        · exact hfailure hfailed (Option.isSome_iff_ne_none.mpr hnone)
        · rw [if_neg hfailed] at hafter
          exact absurd hafter hnone
      · intro hunsupported
        exact if_pos (Controller.failure_unsupported hunsupported)

namespace Run

/-- A run whose controller has what its stage relies on, and fits its past. -/
structure Tenured (r : Run σ δ τ) : Prop where
  layered : r.now.Layered
  fits : r.now.Fits (tenure r.past)

namespace Tenured

variable {r : Run σ δ τ}

theorem held (hr : r.Tenured) (hdevice : r.now.attached.device.isSome) :
    r.now.stage ≠ .unopened := by
  have hfits := hr.fits
  cases htenure : tenure r.past with
  | none =>
    rw [htenure] at hfits
    rw [hfits.2] at hdevice
    cases hdevice
  | some held =>
    rw [htenure] at hfits
    exact hfits.1

/-- Only an action that is not supported fails while a device is held. -/
theorem unsupported_of_failure {message : Message δ τ} (hr : r.Tenured)
    (hfailure : (r.now.failure? message).isSome) (hdevice : r.now.attached.device.isSome) :
    message.isSupported = false := by
  obtain ⟨failure, hfailure⟩ := Option.isSome_iff_exists.mp hfailure
  cases message with
  | action action =>
    cases Controller.failure_mishap hr.layered hfailure with
    | opening hopening hstage hfatal => exact absurd hstage (hr.held hdevice)
    | unsupported hkind => exact hkind
    | deviceless texture hstage hnone =>
      rw [hnone] at hdevice
      cases hdevice
  | _ => cases hfailure

theorem handle (hr : Tenured ⟨h.before, past⟩) : Tenured ⟨h.after, h :: past⟩ := by
  have hheld : h.before.attached.device.isSome → h.before.stage ≠ .unopened := hr.held
  obtain ⟨hstep, -, -⟩ := h.steps hheld
  refine ⟨Controller.handle_layered hr.layered, ?_⟩
  show h.after.Fits (tenure (h :: past))
  cases hstep.turn fun hsome => decide_eq_true (hheld hsome) with
  | adopts callback camera houtcomes hopen hdevice =>
    have hadopts : h.adopts := by
      unfold Handled.adopts
      rw [Handled.outcomes_eq houtcomes]
      rfl
    have hsome : h.after.attached.device.isSome := hdevice
    rw [tenure_adopts hadopts]
    refine ⟨of_decide_eq_true hopen, ?_⟩
    simp [Option.isSome_iff_ne_none.mp hsome]
  | releases hrelease houtcomes hopen hdevice =>
    have hadopts : h.adopts = false := by
      unfold Handled.adopts
      rw [Handled.outcomes_eq (houtcomes.trans (List.append_nil _).symm)]
      rfl
    rw [tenure_releases hadopts hrelease]
    exact ⟨not_not.mp (of_decide_eq_false hopen), hdevice⟩
  | continues hrelease new houtcomes hnew hopen hdevice =>
    have hadopts : h.adopts = false := by
      unfold Handled.adopts
      rw [Handled.outcomes_eq houtcomes, hnew]
    rw [tenure_continues hadopts hrelease]
    exact hr.fits.continues (decide_eq_decide.mp hopen) hdevice hr.unsupported_of_failure

end Tenured

variable {ε : Type} [Spontaneous ε σ δ τ]

/-- An invariant of runs whose step may rely on the tenure of the camera. -/
theorem invariant_tenured (P : Run σ δ τ → Prop) (Allowed : Move ε → Prop)
    (hmeanwhile : ∀ r move, Allowed move → P r → P { r with now := r.now.meanwhile move })
    (hhandle : ∀ h past, Tenured ⟨h.before, past⟩ → P (before h past) → P ⟨h.after, h :: past⟩)
    (world : σ) (roster : Roster) (historySize : Nat) {moves : List (Move ε)}
    (hmoves : ∀ move ∈ moves, Allowed move) (hstart : P (start world roster historySize)) :
    ((start world roster historySize).run moves).Tenured ∧
      P ((start world roster historySize).run moves) ∧
      ((start world roster historySize).run moves).Throughout fun r => r.Tenured ∧ P r := by
  have hvacant : (start world roster historySize).Tenured :=
    ⟨Controller.layered_unopened rfl, ⟨rfl, rfl⟩⟩
  have hinvariant := invariant (fun r => r.Tenured ∧ P r) Allowed ?_ ?_ hmoves ⟨hvacant, hstart⟩ rfl
  · exact ⟨hinvariant.1.1, hinvariant.1.2, hinvariant.2⟩
  · intro r move hmove ⟨hr, hP⟩
    refine ⟨?_, hmeanwhile r move hmove hP⟩
    cases move <;> exact { hr with }
  · intro h past ⟨hr, hP⟩
    have hbefore : Tenured ⟨h.before, past⟩ := { hr with }
    exact ⟨hbefore.handle, hhandle h past hbefore hP⟩

/-- In every run the controller has what its stage relies on. An action that finds something missing can
only be one that sets the preview texture, and miss the device, after another action has failed since the
current camera was taken up. -/
theorem layered_and_only_device_missing (world : σ) (roster : Roster) (historySize : Nat)
    (moves : List (Move ε)) :
    let r := (start world roster historySize).run moves
    r.now.Layered ∧ ∀ h past, (h :: past) <:+ r.past →
      ∀ part kind, h.failure? = some (.missing part kind) →
        (∃ texture, h.message = .action (.setPreviewTexture texture)) ∧
          part = Part.device.name ∧ kind = .setPreviewTexture ∧
          ∃ held, tenure past = some held ∧ ∃ e ∈ held, e.failure?.isSome := by
  intro r
  obtain ⟨hnow, -, hbefore⟩ := invariant_tenured (fun _ => True) (fun _ => True)
    (fun _ _ _ _ => trivial) (fun _ _ _ _ => trivial) world roster historySize
    (fun move (_ : move ∈ moves) => trivial) trivial
  refine ⟨hnow.layered, ?_⟩
  intro h past hsuffix part kind hfailure
  have hr : Tenured ⟨h.before, past⟩ := { (hbefore h past hsuffix).1 with }
  cases hmessage : h.message with
  | action action =>
    have hmissing : h.before.failure? (.action action) = some (.missing part kind) :=
      hmessage ▸ hfailure
    cases Controller.failure_mishap hr.layered hmissing with
    | opening hopening hstage hfatal => cases hfatal
    | deviceless texture hstage hdevice =>
      have hopen : h.before.stage ≠ .unopened :=
        Stage.unconfigured_le.mp (Stage.le_trans (by decide) hstage)
      have hfits : h.before.Fits (tenure past) := hr.fits
      refine ⟨⟨texture, rfl⟩, rfl, rfl, ?_⟩
      cases htenure : tenure past with
      | none =>
        rw [htenure] at hfits
        exact absurd hfits.1 hopen
      | some held =>
        rw [htenure] at hfits
        obtain ⟨e, he, hunsupported⟩ := hfits.2.mp hdevice
        exact ⟨held, rfl, e, he, Controller.failure_unsupported hunsupported⟩
  | _ =>
    unfold Handled.failure? Controller.failure? at hfailure
    rw [hmessage] at hfailure
    cases hfailure

/-- A camera is opened and configured, then locked, which closes its device, then given a texture. -/
def lockedMoves : List Simulator.Move :=
  [.ask (.openCamera 0 0), .handle, .handle, .install 1, .addTexture,
    .ask (.applySettings { preview := ⟨640, 480⟩, photo := ⟨640, 480⟩ }), .handle,
    .ask .lock, .handle, .ask (.setPreviewTexture 1), .handle]

theorem device_missing_once_locked : ∃ h past, (h :: past) <:+ (Simulator.run lockedMoves).past ∧
    h.failure? = some (.missing Part.device.name .setPreviewTexture) ∧
    ∃ held, tenure past = some held ∧ ∃ e ∈ held, e.failure?.isSome := by
  have hpast := (layered_and_only_device_missing (Simulator.withDevices ["0", "1"])
    (Roster.empty.update ["0", "1"]) 20 lockedMoves).2
  exact ⟨_, _, List.suffix_refl _, rfl, (hpast _ _ (List.suffix_refl _) _ _ rfl).2.2.2⟩

end Run

end CameraControl
