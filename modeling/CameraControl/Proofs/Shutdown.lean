import CameraControl.Proofs.OpenDevice
import CameraControl.Proofs.Ownership
import CameraControl.Proofs.Release

/-!
What a controller leaves behind when it is shut down. It gives up the camera that it holds, but what is
queued behind the shutdown is never handled: a device that was still to be delivered stays open for good.
Where none was, every device that was opened has been closed, and nothing is open or repeats any more.
-/
namespace CameraControl

theorem Controller.shutDown_unopened {σ δ τ : Type} [Subsystem σ δ τ] (c : Controller σ δ τ) :
    c.shutDown.stage = .unopened ∧ c.shutDown.status = .stopped := by
  refine ⟨?_, rfl⟩
  show (if c.stage = .unopened then c else c.release).stage = .unopened
  split_ifs with hstage
  · exact hstage
  · exact (Controller.release_opened hstage).1

namespace Simulator

/-- Every device that was opened, from number `first` on, has been closed. -/
def AllClosed (first : Nat) (r : Run Simulator Device Session) : Prop :=
  ∀ serial, first ≤ serial → serial < r.now.subsystem.openings →
    ∃ device ∈ closings r.past, device.serial = serial

variable {first : Nat} {r : Run Simulator Device Session} {device : Device}

theorem Kept.closed_delivered (hr : Kept first r) (hclosed : device ∈ closings r.past) :
    device ∈ delivered r.past := by
  have hpositive := List.count_pos_iff.mpr hclosed
  have hcount := hr.conserved device
  exact List.count_pos_iff.mp (by omega)

/-- A device that is awaited has not been closed, and no other has its number. -/
theorem Kept.awaited_open (hr : Kept first r) (hall : AllClosed first r)
    (hawaited : device ∈ r.now.awaited) : False := by
  obtain ⟨n, hopenings, hserials⟩ := hr.numbered
  have hmem : device.serial ∈ List.range' first n := by
    rw [← hserials]
    exact List.mem_map_of_mem (List.mem_append_right _ hawaited)
  obtain ⟨hfirst, hlast⟩ := List.mem_range'_1.mp hmem
  obtain ⟨closed, hclosed, hsame⟩ := hall device.serial hfirst (hopenings ▸ hlast)
  have hdelivered : closed ∈ (delivered r.past).reverse :=
    List.mem_reverse.mpr (hr.closed_delivered hclosed)
  have hdistinct : (((delivered r.past).reverse ++ r.now.awaited).map (·.serial)).Nodup := by
    rw [hserials]
    exact List.nodup_range'
  rw [List.map_append] at hdistinct
  exact (List.nodup_append.mp hdistinct).2.2 _ (List.mem_map_of_mem hdelivered) _
    (List.mem_map_of_mem hawaited) hsame

/-- With no device held or awaited, and none displaced, every device that was opened has been closed. -/
theorem Kept.allClosed (hr : Kept first r) (hheld : r.now.attached.device = none)
    (hdisplaced : displaced r.past = []) (hawaited : r.now.awaited = []) : AllClosed first r := by
  obtain ⟨n, hopenings, hserials⟩ := hr.numbered
  intro serial hfirst hlast
  have hmem : serial ∈ List.range' first n := List.mem_range'_1.mpr ⟨hfirst, hopenings ▸ hlast⟩
  rw [← hserials, hawaited, List.append_nil] at hmem
  obtain ⟨device, hdevice, hserial⟩ := List.mem_map.mp hmem
  have hpositive := List.count_pos_iff.mpr (List.mem_reverse.mp hdevice)
  have hcount := hr.conserved device
  rw [hheld, hdisplaced] at hcount
  refine ⟨device, List.count_pos_iff.mp ?_, hserial⟩
  simp only [Option.toList_none, List.count_nil] at hcount
  omega

/-- A camera is only displaced after one was asked for too early. -/
theorem none_displaced {past : List (Handled Simulator Device Session)}
    (hbefore : r.Throughout fun r => r.Tenured ∧ Kept first r) (hsuffix : past <:+ r.past)
    (horderly : Orderly past) : displaced past = [] := by
  induction past with
  | nil => rfl
  | cons h past ih =>
    obtain ⟨-, hpast⟩ := List.forall_mem_cons.mp horderly
    obtain ⟨htenured, hkept⟩ := hbefore h past hsuffix
    rw [displaced_cons, hkept.not_displacing htenured hpast,
      ih ((List.suffix_cons h past).trans hsuffix) hpast]
    rfl

/-- At a shutdown every device that was opened has been closed exactly if none is still to be delivered, as
long as no camera was asked for while one was. Then no device is open and nothing repeats. -/
theorem shutdown_closes_iff_none_awaited (world : Simulator) (hrest : world.AtRest) (roster : Roster)
    (historySize : Nat) (moves : List Move) :
    let r := (Run.start world roster historySize).run moves
    ∀ h past, (h :: past) <:+ r.past → h.message = .shutdown → Orderly past →
      h.after.status = .stopped ∧
      (AllClosed world.openings ⟨h.after, h :: past⟩ ↔ h.after.awaited = []) ∧
      (h.after.awaited = [] →
        h.after.subsystem.openDevice = none ∧ h.after.subsystem.repeating = none) := by
  intro r h past hsuffix hmessage hpast
  obtain ⟨-, -, hkept⟩ := kept world roster historySize moves
  obtain ⟨-, -, hknown⟩ := known world hrest roster historySize moves
  obtain ⟨hbefore, hr⟩ := hkept h past hsuffix
  have htenured : Run.Tenured ⟨h.before, past⟩ := { hbefore with }
  have hended : h.after.stage = .unopened ∧ h.after.status = .stopped := by
    unfold Handled.after
    rw [hmessage]
    exact h.before.shutDown_unopened
  have hafter : Kept world.openings ⟨h.after, h :: past⟩ :=
    ⟨Run.conserved_handle htenured hr.conserved, numbered_handle htenured.held hr.numbered,
      waiting_handle htenured hr.waiting⟩
  have hheld : h.after.attached.device = none := by
    by_contra hdevice
    exact htenured.handle.held (Option.isSome_iff_ne_none.mpr hdevice) hended.1
  have horderly : Orderly (h :: past) := by
    refine List.forall_mem_cons.mpr ⟨?_, hpast⟩
    rintro ⟨hopening, -⟩
    rw [hmessage] at hopening
    cases hopening
  refine ⟨hended.2, ⟨?_, ?_⟩, ?_⟩
  · intro hall
    exact List.eq_nil_iff_forall_not_mem.mpr fun device => hafter.awaited_open hall
  · exact hafter.allClosed hheld (none_displaced hkept hsuffix horderly)
  · intro hawaited
    have hrest := (known_handle htenured (hknown h past hsuffix).2).atRest hawaited hheld
    exact ⟨hrest.openDevice, hrest.repeating⟩

/-- A preview is shut down while a frame of it is still queued. -/
def previewMoves : List Move :=
  [.ask (.openCamera 0 0), .handle, .handle, .addTexture,
    .ask (.applySettings { preview := ⟨640, 480⟩, photo := ⟨640, 480⟩ }), .ask (.setPreviewTexture 1),
    .handle, .handle, .handle, .ask (.startPreview none), .handle, .handle, .shutdown,
    .stir .frame, .handle]

theorem preview_closed_at_shutdown :
    let r := run previewMoves
    r.now.mailbox.length = 1 ∧ AllClosed 0 r ∧ r.now.subsystem.repeating = none := by
  obtain ⟨-, hclosed, hnothing⟩ := shutdown_closes_iff_none_awaited (withDevices ["0", "1"])
    (withDevices_atRest _) (Roster.empty.update ["0", "1"]) 20 previewMoves _ _ (List.suffix_refl _)
    rfl (by decide)
  exact ⟨rfl, hclosed.mpr rfl, (hnothing rfl).2⟩

/-- The device comes after the shutdown, and stays open. -/
theorem awaited_not_closed :
    let r := run [.ask (.openCamera 0 0), .shutdown, .handle, .handle]
    r.now.status = .stopped ∧ Orderly r.past ∧ ¬ AllClosed 0 r ∧
      r.now.subsystem.openDevice = some "0" := by
  refine ⟨rfl, by decide, ?_, rfl⟩
  intro hall
  obtain ⟨device, hclosed, -⟩ := hall 0 (Nat.le_refl 0) (by decide)
  cases hclosed

end Simulator

end CameraControl
