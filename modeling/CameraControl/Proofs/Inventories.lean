import Mathlib.Data.Finset.Card
import Mathlib.Data.List.ReduceOption
import CameraControl.Agent.Calls
import CameraControl.Proofs.Enrollment
import CameraControl.Simulator

/-!
What an inventory tells about the roster and the devices behind it. Slots and characteristics have the same
indices, tombstones and devices that the subsystem does not know included, and the first cameras are found by
these indices. Right after a listing was enrolled the number of cameras is that of the devices listed.
-/
namespace CameraControl

namespace Roster

variable {r : Roster} {id : DeviceId} {listing : List DeviceId}

theorem Sound.index_unique (h : r.Sound) {index index' : Nat} (hindex : r.slots[index]? = some (some id))
    (hindex' : r.slots[index']? = some (some id)) : index = index' :=
  Nat.le_antisymm (h.index_le hindex hindex') (h.index_le hindex' hindex)

/-- The devices that have a live slot. -/
def devices (r : Roster) : List DeviceId := r.slots.reduceOption

theorem mem_devices : id ∈ r.devices ↔ some id ∈ r.slots := List.reduceOption_mem_iff

theorem Sound.devices_nodup (h : r.Sound) : r.devices.Nodup := by
  rw [List.nodup_iff_count_le_one]
  intro id
  unfold devices List.reduceOption
  rw [List.count_filterMap]
  exact h.distinct id

theorem Sound.live_eq (h : r.Sound) : r.live = r.devices.length := by
  unfold devices
  rw [h.counted, List.countP_eq_length_filter, List.reduceOption_length_eq]

/-- There are as many live slots as there are devices in a listing that was just enrolled. -/
theorem Sound.live_listed (h : r.Sound) (hlisted : ∀ id, some id ∈ r.slots ↔ id ∈ listing) :
    r.live = listing.toFinset.card := by
  have hsame : r.devices.toFinset = listing.toFinset := by
    ext id
    rw [List.mem_toFinset, List.mem_toFinset, mem_devices, hlisted]
  rw [h.live_eq, ← hsame, List.toFinset_card_of_nodup h.devices_nodup]

end Roster

namespace Inventory

/-- The inventory has a device at the index that faces this way. -/
def Faces (i : Inventory) (facing : Facing) (index : Nat) : Prop :=
  ∃ c, i.characteristics[index]? = some (some c) ∧ c.facing = facing

/-- The least index of a device that faces this way, or none if no device does. -/
def IsFirst (i : Inventory) (facing : Facing) : Option Nat → Prop
  | some index => i.Faces facing index ∧ ∀ earlier < index, ¬ i.Faces facing earlier
  | none => ∀ index, ¬ i.Faces facing index

variable {σ δ τ : Type} [Subsystem σ δ τ]

/-- The inventory tells of each slot of the roster what the subsystem knows about its device. -/
structure Describes (i : Inventory) (r : Roster) (world : σ) : Prop where
  slots : i.slots = r.slots
  length : i.characteristics.length = r.slots.length
  known : ∀ index c, i.characteristics[index]? = some (some c) ↔
    ∃ id, r.deviceId index = .ok (some id) ∧ Subsystem.characteristics world id = .ok c
  firstBack : i.IsFirst .back i.firstBack
  firstFront : i.IsFirst .front i.firstFront

theorem known_eq_some {world : σ} {slot : Option DeviceId} {c : Characteristics} :
    known world slot = some c ↔ ∃ id, slot = some id ∧ Subsystem.characteristics world id = .ok c := by
  unfold known
  rw [Option.bind_eq_some_iff]
  refine exists_congr fun id => and_congr_right fun _ => ?_
  cases Subsystem.characteristics world id with
  | error fault => simp [Except.toOption]
  | ok other => simp [Except.toOption]

omit [Subsystem σ δ τ] in
theorem faces_iff {i : Inventory} {facing : Facing} {index : Nat} : i.Faces facing index ↔
    ∃ hlt : index < i.characteristics.length, i.characteristics[index].any (·.facing = facing) := by
  unfold Faces
  constructor
  · rintro ⟨c, hc, hfacing⟩
    obtain ⟨hlt, heq⟩ := List.getElem?_eq_some_iff.mp hc
    exact ⟨hlt, by simp [heq, hfacing]⟩
  · rintro ⟨hlt, hany⟩
    obtain ⟨c, hc, hfacing⟩ := (Option.any_eq_true _ _).mp hany
    exact ⟨c, by rw [List.getElem?_eq_getElem hlt, hc], of_decide_eq_true hfacing⟩

omit [Subsystem σ δ τ] in
theorem firstFacing_isFirst (i : Inventory) (facing : Facing) :
    i.IsFirst facing (firstFacing i.characteristics facing) := by
  cases hfound : firstFacing i.characteristics facing with
  | none =>
    intro index hfaces
    obtain ⟨hlt, hany⟩ := faces_iff.mp hfaces
    rw [List.findIdx?_eq_none_iff.mp hfound _ (List.getElem_mem hlt)] at hany
    cases hany
  | some index =>
    obtain ⟨hlt, hany, hbefore⟩ := List.findIdx?_eq_some_iff_getElem.mp hfound
    refine ⟨faces_iff.mpr ⟨hlt, hany⟩, fun earlier hearlier hfaces => ?_⟩
    obtain ⟨_, hearly⟩ := faces_iff.mp hfaces
    exact hbefore earlier hearlier hearly

theorem take_describes (r : Roster) (world : σ) : (take r world).Describes r world where
  slots := rfl
  length := List.length_map _
  known index c := by
    simp only [Roster.deviceId_ok]
    show (r.slots.map (known world))[index]? = _ ↔ _
    rw [List.getElem?_map, Option.map_eq_some_iff]
    simp only [known_eq_some]
    constructor
    · rintro ⟨slot, hslot, id, rfl, hknown⟩
      exact ⟨id, hslot, hknown⟩
    · rintro ⟨id, hslot, hknown⟩
      exact ⟨some id, hslot, id, rfl, hknown⟩
  firstBack := firstFacing_isFirst _ _
  firstFront := firstFacing_isFirst _ _

end Inventory

namespace Agent

variable {σ δ τ : Type} [Subsystem σ δ τ]

/-- Whatever the roster, an inventory of it has an entry for each slot, which is there exactly if the slot is
live and the subsystem knows its device, and the first cameras are the least indices of devices that face
back and front. When an agent, after any history of its roster, has listed the devices and enrolled them, the
number of cameras is that of the distinct devices listed. Each has exactly one slot, and its characteristics
there if the subsystem knows it. -/
theorem inventory_tells :
    (∀ (r : Roster) (world : σ), (Inventory.take r world).Describes r world) ∧
    ∀ (a : Agent σ δ τ) (past : List (List DeviceId)) (listing : List DeviceId),
      a.controller.roster = .after past → Subsystem.ids a.controller.subsystem = .ok listing →
      ∃ i, a.inventory = .ok (a.enroll listing, i) ∧
        i.Describes ((Roster.after past).update listing) a.controller.subsystem ∧
        i.count = listing.toFinset.card ∧
        (∀ id ∈ listing, ∃! index : Nat, i.slots[index]? = some (some id)) ∧
        ((∀ id ∈ listing, ∃ c, Subsystem.characteristics a.controller.subsystem id = .ok c) →
          ∀ id ∈ listing, ∃ (index : Nat) (c : Characteristics), i.slots[index]? = some (some id) ∧
            i.characteristics[index]? = some (some c) ∧
            Subsystem.characteristics a.controller.subsystem id = .ok c) := by
  refine ⟨Inventory.take_describes, ?_⟩
  intro a past listing hroster hlisting
  have hr : ((Roster.after past).update listing).Sound := (Roster.after_sound past).update listing
  have hdescribes := Inventory.take_describes ((Roster.after past).update listing) a.controller.subsystem
  have hseat {id : DeviceId} (hlisted : id ∈ listing) :
      ∃ index : Nat, ((Roster.after past).update listing).slots[index]? = some (some id) :=
    List.mem_iff_getElem?.mp (Roster.update_mem.mpr hlisted)
  refine ⟨_, ?_, hdescribes, hr.live_listed fun id => Roster.update_mem, ?_, ?_⟩
  · unfold inventory
    rw [hlisting, ← hroster]
    rfl
  · intro id hlisted
    obtain ⟨index, hindex⟩ := hseat hlisted
    exact ⟨index, hindex, fun other hother => hr.index_unique hother hindex⟩
  · intro hknows id hlisted
    obtain ⟨index, hindex⟩ := hseat hlisted
    obtain ⟨c, hc⟩ := hknows id hlisted
    exact ⟨index, c, hindex, (hdescribes.known index c).mpr ⟨id, Roster.deviceId_ok.mpr hindex, hc⟩, hc⟩

/-- Of two devices the first has gone since, and a third one came. -/
theorem inventory_tells_of_newcomer :
    let world := Simulator.withDevices ["b", "c"]
    let a : Agent Simulator Simulator.Device Simulator.Session := {
      jobTimeout := 0
      controller := { subsystem := world, roster := .after [["a", "b"]], history := .ofSize 1 }
      dispatcher := { capacity := 1 } }
    a.controller.roster = .after [["a", "b"]] ∧ Subsystem.ids a.controller.subsystem = .ok ["b", "c"] ∧
      (∀ id ∈ ["b", "c"], ∃ c, Subsystem.characteristics a.controller.subsystem id = .ok c) ∧
      ∃ i, a.inventory = .ok (a.enroll ["b", "c"], i) ∧ i.slots = [none, some "b", some "c"] ∧
        i.firstBack = some 1 ∧ i.firstFront = some 2 ∧ i.count = ["b", "c"].toFinset.card ∧
        ∃ (index : Nat) (c : Characteristics), i.slots[index]? = some (some "c") ∧
          i.characteristics[index]? = some (some c) := by
  intro world a
  have hknows : ∀ id ∈ ["b", "c"], ∃ c, Subsystem.characteristics a.controller.subsystem id = .ok c := by
    intro id hid
    rcases List.mem_pair.mp hid with rfl | rfl
    · exact ⟨_, rfl⟩
    · exact ⟨_, rfl⟩
  obtain ⟨i, hi, hdescribes, hcount, -, hthere⟩ := inventory_tells.2 a [["a", "b"]] ["b", "c"] rfl rfl
  obtain ⟨index, c, hslot, hc, -⟩ := hthere hknows "c" (by simp)
  cases hi
  exact ⟨rfl, rfl, hknows, _, rfl, rfl, rfl, rfl, hcount, index, c, hslot, hc⟩

end Agent

end CameraControl
