import Mathlib.Data.List.Infix
import CameraControl.Roster

/-!
What an index stands for, over the whole history of a roster. An update leaves each slot alone or makes a
tombstone of it, and adds others behind. So what a slot holds at some time it held ever since it was made,
and a device that comes back after its slot was buried has an index that no earlier roster had.
-/
namespace CameraControl

/-- A list that grows until something holds of it has an item with which it comes to hold. -/
theorem exists_turn {α : Type} (P : List α → Prop) {past more : List α} (hpast : ¬ P past)
    (hmore : P (past ++ more)) : ∃ before item rest, more = before ++ item :: rest ∧
      ¬ P (past ++ before) ∧ P (past ++ before ++ [item]) := by
  induction more generalizing past with
  | nil =>
    rw [List.append_nil] at hmore
    exact absurd hmore hpast
  | cons item rest ih =>
    by_cases hitem : P (past ++ [item])
    · refine ⟨[], item, rest, rfl, ?_, ?_⟩ <;> rwa [List.append_nil]
    · rw [List.append_cons] at hmore
      obtain ⟨before, turn, rest, rfl, hbefore, hturn⟩ := ih hitem hmore
      refine ⟨item :: before, turn, rest, rfl, ?_, ?_⟩ <;> rwa [List.append_cons past item before]

namespace Roster

/-- The roster that a history of listings leads to, the oldest listing first. -/
def after (listings : List (List DeviceId)) : Roster := listings.foldl update empty

/-- Each slot of a roster is in the other one as it was, or as a tombstone. -/
def Becomes (r r' : Roster) : Prop := ∀ (index : Nat) (slot : Option DeviceId),
  r.slots[index]? = some slot → r'.slots[index]? = some slot ∨ r'.slots[index]? = some none

variable {r r' r'' : Roster} {index : Nat} {id : DeviceId} {listing : List DeviceId}

theorem deviceId_ok {slot : Option DeviceId} :
    r.deviceId index = .ok slot ↔ r.slots[index]? = some slot := by
  unfold deviceId
  cases r.slots[index]? with
  | none => simp
  | some other => simp

theorem deviceId_unknown :
    r.deviceId index = .error (.unknownIndex index) ↔ r.slots.length ≤ index := by
  rw [← List.getElem?_eq_none_iff]
  unfold deviceId
  cases r.slots[index]? with
  | none => simp
  | some other => simp

namespace Becomes

theorem refl (r : Roster) : r.Becomes r := fun _ _ hslot => Or.inl hslot

theorem trans (h : r.Becomes r') (h' : r'.Becomes r'') : r.Becomes r'' := by
  intro index slot hslot
  rcases h index slot hslot with hsame | hnone
  · exact h' index slot hsame
  · exact Or.inr ((h' index none hnone).elim id id)

theorem length_le (h : r.Becomes r') : r.slots.length ≤ r'.slots.length := by
  by_contra hshorter
  have hlt : r'.slots.length < r.slots.length := Nat.lt_of_not_le hshorter
  have hbeyond : r'.slots[r'.slots.length]? = none := List.getElem?_eq_none (Nat.le_refl _)
  have hslot := h _ _ (List.getElem?_eq_getElem hlt)
  rw [hbeyond] at hslot
  rcases hslot with hsome | hsome <;> cases hsome

/-- A device that has an index had it as soon as there was such an index. -/
theorem held (h : r.Becomes r') (hlt : index < r.slots.length)
    (hid : r'.slots[index]? = some (some id)) : r.slots[index]? = some (some id) := by
  have hslot : r.slots[index]? = some r.slots[index] := List.getElem?_eq_getElem hlt
  rcases h index _ hslot with hsame | hnone
  · rw [hslot, ← hsame, hid]
  · rw [hid] at hnone
    cases hnone

theorem buried (h : r.Becomes r') (hnone : r.slots[index]? = some none) :
    r'.slots[index]? = some none := (h index none hnone).elim id id

end Becomes

theorem bury_getElem? (r : Roster) (listing : List DeviceId) (index : Nat) :
    (r.bury listing).slots[index]? =
      r.slots[index]?.map fun slot => slot.filter (· ∈ listing) := List.getElem?_map

theorem bury_becomes (r : Roster) (listing : List DeviceId) : r.Becomes (r.bury listing) := by
  intro index slot hslot
  rw [bury_getElem?, hslot]
  cases slot with
  | none => exact Or.inl rfl
  | some id =>
    by_cases hlisted : id ∈ listing
    · left
      simp [hlisted]
    · right
      simp [hlisted]

/-- Enrolling devices leaves every slot as it is. -/
theorem enrolled_getElem? {slot : Option DeviceId} (listing : List DeviceId)
    (hslot : r.slots[index]? = some slot) :
    (listing.foldl enroll r).slots[index]? = some slot := by
  induction listing generalizing r with
  | nil => exact hslot
  | cons id listing ih =>
    apply ih
    unfold enroll
    split
    · exact hslot
    · have hlt : index < r.slots.length := (List.getElem?_eq_some_iff.mp hslot).1
      rw [List.getElem?_append_left hlt]
      exact hslot

theorem update_becomes (r : Roster) (listing : List DeviceId) : r.Becomes (r.update listing) := by
  have henrolled : (r.bury listing).Becomes (r.update listing) :=
    fun _ _ hslot => Or.inl (enrolled_getElem? listing hslot)
  exact (bury_becomes r listing).trans henrolled

theorem listed_of_enrolled (listing : List DeviceId)
    (hmem : some id ∈ (listing.foldl enroll r).slots) : some id ∈ r.slots ∨ id ∈ listing := by
  induction listing generalizing r with
  | nil => exact Or.inl hmem
  | cons other listing ih =>
    rcases ih hmem with hslot | hlisted
    · unfold enroll at hslot
      split at hslot
      · exact Or.inl hslot
      · rcases List.mem_append.mp hslot with hslot | hnew
        · exact Or.inl hslot
        · cases List.mem_singleton.mp hnew
          exact Or.inr List.mem_cons_self
    · exact Or.inr (List.mem_cons_of_mem other hlisted)

/-- After an update only listed devices have an index. -/
theorem listed_of_update (hmem : some id ∈ (r.update listing).slots) : id ∈ listing := by
  rcases listed_of_enrolled listing hmem with hkept | hlisted
  · obtain ⟨slot, -, hslot⟩ := List.mem_map.mp hkept
    obtain ⟨-, hlisted⟩ := Option.filter_eq_some_iff.mp hslot
    exact of_decide_eq_true hlisted
  · exact hlisted

/-- The update that buries a device leaves it without an index. -/
theorem gone_of_buried (hid : r.slots[index]? = some (some id))
    (hburied : (r.update listing).slots[index]? = some none) :
    some id ∉ (r.update listing).slots := by
  intro hmem
  have hlisted : id ∈ listing := listed_of_update hmem
  have hkept : (r.bury listing).slots[index]? = some (some id) := by
    rw [bury_getElem?, hid]
    simp [hlisted]
  have hslot := enrolled_getElem? listing hkept
  cases hslot.symm.trans hburied

theorem after_concat (past : List (List DeviceId)) (listing : List DeviceId) :
    after (past ++ [listing]) = (after past).update listing := List.foldl_concat ..

theorem after_becomes (past more : List (List DeviceId)) :
    (after past).Becomes (after (past ++ more)) := by
  induction more generalizing past with
  | nil =>
    rw [List.append_nil]
    exact .refl _
  | cons listing more ih =>
    have hfirst : (after past).Becomes (after (past ++ [listing])) := by
      rw [after_concat]
      exact update_becomes _ _
    rw [List.append_cons]
    exact hfirst.trans (ih _)

/-- An index that a device has got since it was without one was in no roster until then. -/
theorem appointed {past more : List (List DeviceId)} {new : Nat}
    (hgone : some id ∉ (after past).slots)
    (hback : (after (past ++ more)).slots[new]? = some (some id)) :
    ∃ before listing rest, more = before ++ listing :: rest ∧
      (∀ earlier, earlier <+: past ++ before → (after earlier).slots.length ≤ new) ∧
      (after (past ++ before ++ [listing])).slots[new]? = some (some id) := by
  have hbeyond : ¬ new < (after past).slots.length := by
    intro hlt
    exact hgone (List.mem_of_getElem? ((after_becomes past more).held hlt hback))
  have hwithin : new < (after (past ++ more)).slots.length :=
    (List.getElem?_eq_some_iff.mp hback).1
  obtain ⟨before, listing, rest, rfl, hnot, hlt⟩ :=
    exists_turn (fun listings => new < (after listings).slots.length) hbeyond hwithin
  refine ⟨before, listing, rest, rfl, ?_, ?_⟩
  · rintro earlier ⟨between, heq⟩
    have hle : (after earlier).slots.length ≤ (after (past ++ before)).slots.length := by
      rw [← heq]
      exact (after_becomes earlier between).length_le
    exact Nat.le_trans hle (Nat.le_of_not_lt hnot)
  · have hsplit : past ++ (before ++ listing :: rest) = past ++ before ++ [listing] ++ rest := by simp
    rw [hsplit] at hback
    exact (after_becomes _ rest).held hlt hback

/-- Over a history of updates no index stands for two devices, no slot goes away, and a tombstone stays one.
A device whose slot became a tombstone, and that has an index again, got it by an update before which no
roster of the history had such an index. -/
theorem index_for_good (past more : List (List DeviceId)) :
    (after past).slots.length ≤ (after (past ++ more)).slots.length ∧
    (∀ index id id', (after past).deviceId index = .ok (some id) →
      (after (past ++ more)).deviceId index = .ok (some id') → id = id') ∧
    (∀ index, (after past).deviceId index = .ok none →
      (after (past ++ more)).deviceId index = .ok none) ∧
    ∀ old id, (after past).deviceId old = .ok (some id) →
      (after (past ++ more)).deviceId old = .ok none →
      ∀ later new, (after (past ++ more ++ later)).deviceId new = .ok (some id) →
        ∃ before listing rest, more ++ later = before ++ listing :: rest ∧
          (∀ earlier, earlier <+: past ++ before →
            (after earlier).deviceId new = .error (.unknownIndex new)) ∧
          (after (past ++ before ++ [listing])).deviceId new = .ok (some id) := by
  have hbecomes := after_becomes past more
  simp only [deviceId_ok, deviceId_unknown]
  refine ⟨hbecomes.length_le, ?_, fun index => hbecomes.buried, ?_⟩
  · intro index id id' hid hid'
    rcases hbecomes index _ hid with hsame | hnone
    · cases hsame.symm.trans hid'
      rfl
    · cases hnone.symm.trans hid'
  · intro old id hid hnone later new hback
    -- First the update that buries the device, then the one that enrolls it again.
    have hlive : ¬ (after past).slots[old]? = some none := by
      rw [hid]
      exact fun hsome => nomatch hsome
    obtain ⟨before, listing, rest, rfl, hnot, hburied⟩ :=
      exists_turn (fun listings => (after listings).slots[old]? = some none) hlive hnone
    have hstill : (after (past ++ before)).slots[old]? = some (some id) :=
      (after_becomes past before old _ hid).resolve_right hnot
    rw [after_concat] at hburied
    have hgone : some id ∉ (after (past ++ before ++ [listing])).slots := by
      rw [after_concat]
      exact gone_of_buried hstill hburied
    have hsplit : past ++ (before ++ listing :: rest) ++ later =
        past ++ before ++ [listing] ++ (rest ++ later) := by simp
    rw [hsplit] at hback
    obtain ⟨between, appointing, rest', heq, hunused, hgiven⟩ := appointed hgone hback
    refine ⟨before ++ listing :: between, appointing, rest', ?_, ?_, ?_⟩
    · simp [heq]
    · simpa using hunused
    · simpa using hgiven

/-- The first of two devices goes and comes back. -/
theorem returned_anew :
    let past := [["a", "b"]]
    (after past).deviceId 0 = .ok (some "a") ∧ (after (past ++ [["b"]])).deviceId 0 = .ok none ∧
      ∃ before listing rest, [["b"]] ++ [["a", "b"]] = before ++ listing :: rest ∧
        (∀ earlier, earlier <+: past ++ before →
          (after earlier).deviceId 2 = .error (.unknownIndex 2)) ∧
        (after (past ++ before ++ [listing])).deviceId 2 = .ok (some "a") := by
  obtain ⟨-, -, -, hreturned⟩ := index_for_good [["a", "b"]] [["b"]]
  exact ⟨by decide, by decide, hreturned 0 "a" (by decide) (by decide) [["a", "b"]] 2 (by decide)⟩

end Roster

end CameraControl
