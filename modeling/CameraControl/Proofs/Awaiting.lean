import CameraControl.Proofs.Serials

/-!
The device that is awaited. As long as no camera is asked for while a device is still to be delivered, at
most one device is awaited at a time: the one that the latest opening was accepted for, while nothing is
open. The controller remembers whom to tell in a single place, so what it is then told belongs together.
-/
namespace CameraControl

variable {δ τ : Type} {κ κ' : Custody δ} {message : Message δ τ} {failure : Option Failure}
  {accepted : List DeviceId} {closed : List δ}

namespace Custody.Step

/-- A device is opened for an opening only, while nothing is open, and its opener is remembered. -/
theorem accepting (h : κ.Step message failure accepted closed κ') :
    accepted = [] ∨ ∃ index callback id, message.opening? = some (index, callback) ∧
      accepted = [id] ∧ κ.roster.deviceId index = .ok (some id) ∧
      κ'.isOpen = false ∧ κ'.opener = some callback ∧ κ'.index = index := by
  cases h with
  | accepted hopening hopen hid => exact Or.inr ⟨_, _, _, hopening, rfl, hid, hopen, rfl, rfl⟩
  | _ => exact Or.inl rfl

/-- Whoever waits for a device is not forgotten before it is delivered or another one is asked for. -/
theorem waiting (h : κ.Step message failure accepted closed κ') (hopening : message.opening? = none)
    (hdelivered : message.delivered? = none) (hopen : κ.isOpen = false) :
    accepted = [] ∧ κ'.isOpen = false ∧ κ'.opener = κ.opener ∧ κ'.index = κ.index := by
  cases h with
  | quiet | forfeited | idle | complained => exact ⟨rfl, hopen, rfl, rfl⟩
  | alreadyOpen _ hasked | disabled hasked | refused _ hasked | accepted hasked =>
    rw [hopening] at hasked
    cases hasked
  | released _ hopened =>
    rw [hopen] at hopened
    cases hopened
  | stray harrived | adopted harrived | broken _ harrived =>
    rw [hdelivered] at harrived
    cases harrived

/-- A camera is reported as opened once its device was delivered, to the opener that is remembered. -/
theorem adopting {callback : Tag} {camera : Camera} (h : κ.Step message failure accepted closed κ')
    (hopened : .opened callback camera ∈ κ'.outcomes.drop κ.outcomes.length) :
    ∃ device, message.delivered? = some device ∧ κ.opener = some callback ∧
      camera.index = κ.index ∧ κ'.device = some device := by
  cases h with
  | adopted hdelivered hopener hindex =>
    simp only [List.drop_left, List.mem_singleton, Report.opened.injEq] at hopened
    obtain ⟨rfl, rfl⟩ := hopened
    exact ⟨_, hdelivered, hopener, hindex, rfl⟩
  | _ => simp at hopened

end Custody.Step

/-- A camera is asked for while a device is still to be delivered. -/
def Handled.Overlaps {σ : Type} (h : Handled σ δ τ) : Prop :=
  h.message.opening?.isSome ∧ h.before.awaited ≠ []

instance {σ : Type} [DecidableEq δ] (h : Handled σ δ τ) : Decidable h.Overlaps :=
  inferInstanceAs (Decidable (_ ∧ _))

def Orderly {σ : Type} (past : List (Handled σ δ τ)) : Prop := ∀ h ∈ past, ¬ h.Overlaps

instance {σ : Type} [DecidableEq δ] (past : List (Handled σ δ τ)) : Decidable (Orderly past) :=
  inferInstanceAs (Decidable (∀ h ∈ past, _))

/-- The latest message that asked for a camera. -/
def latest? {σ : Type} (past : List (Handled σ δ τ)) : Option (Handled σ δ τ) :=
  past.find? (·.message.opening?.isSome)

/-- The callback was given to the latest opening, for a camera that was this device on the roster. -/
def AskedFor {σ : Type} (past : List (Handled σ δ τ)) (index : Nat) (callback : Tag)
    (id : DeviceId) : Prop :=
  ∃ q, latest? past = some q ∧ q.message.opening? = some (index, callback) ∧
    q.before.roster.deviceId index = .ok (some id)

namespace Simulator

/-- One device is awaited. -/
structure Awaits (r : Run Simulator Device Session) (device : Device) : Prop where
  awaited : r.now.awaited = [device]
  unopened : r.now.stage = .unopened
  asked : ∃ callback, r.now.attached.openCallback = some callback ∧
    AskedFor r.past r.now.attached.index callback device.id

def Waiting (r : Run Simulator Device Session) : Prop :=
  Orderly r.past → r.now.awaited = [] ∨ ∃ device, Awaits r device

variable {h : Handled Simulator Device Session} {past : List (Handled Simulator Device Session)}

theorem waiting_meanwhile (r : Run Simulator Device Session) (move : Move) (hr : Waiting r) :
    Waiting { r with now := r.now.meanwhile move } := by
  intro horderly
  obtain ⟨hawaited, -⟩ := meanwhile_opened r.now move
  rcases hr horderly with hnone | ⟨device, hawaits⟩
  · exact Or.inl (hawaited.trans hnone)
  · refine Or.inr ⟨device, hawaited.trans hawaits.awaited, ?_, ?_⟩
    · cases move <;> exact hawaits.unopened
    · cases move <;> exact hawaits.asked

theorem after_awaited_none (htenured : Run.Tenured ⟨h.before, past⟩) (haccepted : h.accepted = []) :
    h.after.awaited = h.before.awaited := by
  obtain ⟨-, htalk, -⟩ := h.steps htenured.held
  have hids : (openedBy h.recorded.subsystem.record).map (·.id) = [] :=
    (talk_mints htalk).ids.trans haccepted
  rw [Handled.after_awaited htenured.held, List.map_eq_nil_iff.mp hids, List.append_nil]

theorem after_awaited_one {id : DeviceId} (htenured : Run.Tenured ⟨h.before, past⟩)
    (haccepted : h.accepted = [id]) :
    ∃ device : Device, device.id = id ∧ h.after.awaited = h.before.awaited ++ [device] := by
  obtain ⟨-, htalk, -⟩ := h.steps htenured.held
  have hids : (openedBy h.recorded.subsystem.record).map (·.id) = [id] :=
    (talk_mints htalk).ids.trans haccepted
  obtain ⟨device, hopened, hid⟩ := List.map_eq_singleton_iff.mp hids
  exact ⟨device, hid, by rw [Handled.after_awaited htenured.held, hopened]⟩

theorem not_awaited (past : List (Handled Simulator Device Session)) {asked : Nat × Tag}
    (hfree : ¬ h.Overlaps) (hopening : h.message.opening? = some asked) :
    h.before.awaited = [] ∧ (Run.before h past).now.awaited = [] := by
  have hnone : h.before.awaited = [] := by
    by_contra hsome
    exact hfree ⟨by rw [hopening]; rfl, hsome⟩
  rw [Run.before_awaited, Message.opening_no_delivery hopening, hnone]
  exact ⟨rfl, rfl⟩

/-- A device that is delivered is the one that was awaited, and no other is. -/
theorem Waiting.delivered {device : Device} (hr : Waiting (Run.before h past))
    (hpast : Orderly past) (hdelivered : h.message.delivered? = some device) :
    Awaits (Run.before h past) device ∧ h.before.awaited = [] := by
  rcases hr hpast with hnone | ⟨awaited, hawaits⟩
  · rw [Run.before_awaited, hdelivered] at hnone
    cases hnone
  · have hone := hawaits.awaited
    rw [Run.before_awaited, hdelivered] at hone
    obtain ⟨rfl, hlast⟩ := List.cons.inj hone
    exact ⟨hawaits, hlast⟩

/-- Until it is delivered, a device goes on being awaited. -/
theorem Awaits.kept {device : Device} (htenured : Run.Tenured ⟨h.before, past⟩)
    (hfree : ¬ h.Overlaps) (hr : Awaits (Run.before h past) device)
    (hsilent : h.message.delivered? = none) : Awaits ⟨h.after, h :: past⟩ device := by
  have hone : h.before.awaited = [device] := by
    have hone := hr.awaited
    rwa [Run.before_awaited, hsilent] at hone
  have hopening : h.message.opening? = none := by
    apply Option.not_isSome_iff_eq_none.mp
    intro hopening
    apply hfree
    refine ⟨hopening, ?_⟩
    rw [hone]
    exact List.cons_ne_nil device []
  have hlatest : latest? (h :: past) = latest? past :=
    List.find?_cons_of_neg (by rw [hopening]; simp)
  obtain ⟨hstep, -, -⟩ := h.steps htenured.held
  obtain ⟨haccepted, hopen, hopener, hindex⟩ := hstep.waiting hopening hsilent
    (decide_eq_false (not_not_intro hr.unopened))
  have hindex : h.after.attached.index = h.before.attached.index := hindex
  obtain ⟨callback, hcallback, q, hq, hasked⟩ := hr.asked
  refine ⟨(after_awaited_none htenured haccepted).trans hone,
    not_not.mp (of_decide_eq_false hopen), callback, hopener.trans hcallback, q,
    hlatest.trans hq, ?_⟩
  show q.message.opening? = some (h.after.attached.index, callback) ∧
    q.before.roster.deviceId h.after.attached.index = _
  rw [hindex]
  exact hasked

theorem waiting_handle (htenured : Run.Tenured ⟨h.before, past⟩) (hr : Waiting (Run.before h past)) :
    Waiting ⟨h.after, h :: past⟩ := by
  intro horderly
  obtain ⟨hfree, hpast⟩ := List.forall_mem_cons.mp horderly
  obtain ⟨hstep, -, -⟩ := h.steps htenured.held
  rcases hstep.accepting with
    haccepted | ⟨index, callback, id, hopening, haccepted, hid, hopen, hopener, hindex⟩
  · have hafter := after_awaited_none htenured haccepted
    cases hdelivered : h.message.delivered? with
    | some device => exact Or.inl (hafter.trans (hr.delivered hpast hdelivered).2)
    | none =>
      rcases hr hpast with hnone | ⟨device, hawaits⟩
      · rw [Run.before_awaited] at hnone
        exact Or.inl (hafter.trans (List.append_eq_nil_iff.mp hnone).2)
      · exact Or.inr ⟨device, hawaits.kept htenured hfree hdelivered⟩
  · obtain ⟨hnone, -⟩ := not_awaited past hfree hopening
    obtain ⟨device, hdevice, hafter⟩ := after_awaited_one htenured haccepted
    rw [hnone, List.nil_append] at hafter
    have hindex : h.after.attached.index = index := hindex
    refine Or.inr ⟨device, hafter, not_not.mp (of_decide_eq_false hopen), callback, hopener, h, ?_⟩
    show _ ∧ h.message.opening? = some (h.after.attached.index, callback) ∧
      h.before.roster.deviceId h.after.attached.index = _
    rw [hindex, hdevice]
    exact ⟨List.find?_cons_of_pos (by rw [hopening]; rfl), hopening, hid⟩

end Simulator

end CameraControl
