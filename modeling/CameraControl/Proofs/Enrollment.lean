import CameraControl.Proofs.Indices

/-!
What a single update makes of a roster. The number of live slots is kept beside the slots, and devices are
enrolled one by one into the slots that are searched for the next one. Both go well because no device ever
has two live slots: burying takes from the number what it takes from the slots, and a device that a listing
names twice is found the second time.
-/
namespace CameraControl.Roster

/-- No device has two live slots, and the live slots are as many as the roster says. -/
structure Sound (r : Roster) : Prop where
  distinct : ∀ id, r.slots.count (some id) ≤ 1
  counted : r.live = r.slots.countP Option.isSome

variable {r : Roster} {id : DeviceId} {listing : List DeviceId}

theorem empty_sound : empty.Sound where
  distinct _ := Nat.zero_le 1
  counted := rfl

theorem bury_mem : some id ∈ (r.bury listing).slots ↔ some id ∈ r.slots ∧ id ∈ listing := by
  unfold bury
  simp [List.mem_map, Option.filter_eq_some_iff]

theorem bury_count (r : Roster) (listing : List DeviceId) (id : DeviceId) :
    (r.bury listing).slots.count (some id) = if id ∈ listing then r.slots.count (some id) else 0 := by
  split
  · next hlisted =>
    unfold bury
    rw [List.count_eq_countP, List.count_eq_countP, List.countP_map]
    apply List.countP_congr
    intro slot _
    cases slot with
    | none => simp
    | some other =>
      by_cases heq : other = id
      · simp [heq, hlisted]
      · simp [Option.filter_eq_some_iff, heq]
  · next hunlisted =>
    rw [List.count_eq_zero, bury_mem]
    exact fun h => hunlisted h.2

/-- Every live slot is either buried or kept. -/
theorem live_split (slots : List (Option DeviceId)) (listing : List DeviceId) :
    slots.countP Option.isSome = (slots.countP fun slot => slot.any (· ∉ listing)) +
      (slots.map fun slot => slot.filter (· ∈ listing)).countP Option.isSome := by
  induction slots with
  | nil => rfl
  | cons slot slots ih =>
    cases slot with
    | none => simpa using ih
    | some id =>
      by_cases hlisted : id ∈ listing
      · simp [hlisted, ih]
        omega
      · simp [hlisted, ih]
        omega

namespace Sound

theorem buried_le (h : r.Sound) (listing : List DeviceId) :
    (r.slots.countP fun slot => slot.any (· ∉ listing)) ≤ r.live := by
  have hsplit := live_split r.slots listing
  rw [h.counted]
  omega

theorem bury (h : r.Sound) (listing : List DeviceId) : (r.bury listing).Sound where
  distinct id := by
    rw [bury_count]
    split
    · exact h.distinct id
    · exact Nat.zero_le 1
  counted := by
    have hsplit := live_split r.slots listing
    rw [← h.counted] at hsplit
    show r.live - _ = _
    rw [hsplit]
    exact Nat.add_sub_cancel_left ..

theorem enroll (h : r.Sound) (id : DeviceId) : (r.enroll id).Sound := by
  unfold Roster.enroll
  split
  · exact h
  · next hnew =>
    refine ⟨fun other => ?_, ?_⟩
    · by_cases heq : id = other
      · subst heq
        have hnone : r.slots.count (some id) = 0 := List.count_eq_zero.mpr hnew
        simp [hnone]
      · have hother := h.distinct other
        simpa [heq] using hother
    · simp [h.counted]

theorem enrolled (h : r.Sound) (listing : List DeviceId) : (listing.foldl Roster.enroll r).Sound := by
  induction listing generalizing r with
  | nil => exact h
  | cons id listing ih => exact ih (h.enroll id)

theorem update (h : r.Sound) (listing : List DeviceId) : (r.update listing).Sound :=
  (h.bury listing).enrolled listing

/-- Of two indices of a device neither is the later one. -/
theorem index_le (h : r.Sound) {index index' : Nat} (hindex : r.slots[index]? = some (some id))
    (hindex' : r.slots[index']? = some (some id)) : index ≤ index' := by
  by_contra hlater
  have hfirst : some id ∈ r.slots.take index := by
    apply List.mem_of_getElem?
    rw [List.getElem?_take_of_lt (Nat.lt_of_not_le hlater), hindex']
  have hsecond : some id ∈ r.slots.drop index := by
    apply List.mem_of_getElem?
    rw [List.getElem?_drop, Nat.add_zero, hindex]
  have hcount : r.slots.count (some id) =
      (r.slots.take index).count (some id) + (r.slots.drop index).count (some id) := by
    rw [← List.count_append, List.take_append_drop]
  have hone := h.distinct id
  have hbefore := List.count_pos_iff.mpr hfirst
  have hbehind := List.count_pos_iff.mpr hsecond
  omega

/-- Looking up an index and looking up a device are inverse to each other. -/
theorem indexOf_iff (h : r.Sound) {index : Nat} :
    r.indexOf id = some index ↔ r.deviceId index = .ok (some id) := by
  rw [deviceId_ok]
  unfold indexOf
  rw [List.findIdx?_eq_some_iff_getElem]
  constructor
  · rintro ⟨hlt, hslot, -⟩
    rw [List.getElem?_eq_getElem hlt, of_decide_eq_true hslot]
  · intro hindex
    obtain ⟨hlt, hslot⟩ := List.getElem?_eq_some_iff.mp hindex
    refine ⟨hlt, by simp [hslot], fun earlier hearlier hfound => ?_⟩
    have hle : index ≤ earlier := by
      apply h.index_le hindex
      rw [List.getElem?_eq_getElem (Nat.lt_trans hearlier hlt), of_decide_eq_true hfound]
    omega

end Sound

theorem after_sound (past : List (List DeviceId)) : (after past).Sound := by
  induction past using List.reverseRecOn with
  | nil => exact empty_sound
  | append_singleton past listing ih =>
    rw [after_concat]
    exact ih.update listing

theorem enroll_known (hknown : some id ∈ r.slots) : r.enroll id = r := if_pos hknown

theorem enroll_new (hnew : some id ∉ r.slots) :
    r.enroll id = { slots := r.slots ++ [some id], live := r.live + 1 } := if_neg hnew

/-- Devices are enrolled in the order in which the listing first names them. -/
theorem enrolled_slots (r : Roster) (listing : List DeviceId) :
    (listing.foldl enroll r).slots =
      r.slots ++ ((listing.filter (some · ∉ r.slots)).eraseDups).map some := by
  induction listing generalizing r with
  | nil => simp
  | cons id listing ih =>
    rw [List.foldl_cons]
    by_cases hknown : some id ∈ r.slots
    · rw [enroll_known hknown, ih]
      simp [hknown]
    · rw [enroll_new hknown, ih]
      -- Once it is enrolled, further mentions of the device count as known.
      have hrest : listing.filter (some · ∉ r.slots ++ [some id]) =
          (listing.filter (some · ∉ r.slots)).filter fun other => !other == id := by
        rw [List.filter_filter]
        apply List.filter_congr
        intro other _
        by_cases heq : other = id
        · simp [heq]
        · simp [heq]
      simp only [hrest]
      rw [List.filter_cons_of_pos (by simpa using hknown), List.eraseDups_cons]
      simp

/-- Updating keeps the slots of the devices that stay and adds those that are new. -/
theorem update_slots (r : Roster) (listing : List DeviceId) :
    (r.update listing).slots = (r.slots.map fun slot => slot.filter (· ∈ listing)) ++
      ((listing.filter (some · ∉ r.slots)).eraseDups).map some := by
  have hnew : listing.filter (some · ∉ (r.bury listing).slots) =
      listing.filter (some · ∉ r.slots) := by
    apply List.filter_congr
    intro id hlisted
    simp [bury_mem, hlisted]
  unfold update
  rw [enrolled_slots, hnew]
  rfl

/-- After an update the live devices are those of the listing. -/
theorem update_mem : some id ∈ (r.update listing).slots ↔ id ∈ listing := by
  refine ⟨listed_of_update, fun hlisted => ?_⟩
  rw [update_slots, List.mem_append]
  by_cases hknown : some id ∈ r.slots
  · exact Or.inl (bury_mem.mpr ⟨hknown, hlisted⟩)
  · right
    simp [hlisted, hknown]

theorem bury_eq_self (hlisted : ∀ id, some id ∈ r.slots → id ∈ listing) : r.bury listing = r := by
  have hnone : (r.slots.countP fun slot => slot.any (· ∉ listing)) = 0 := by
    rw [List.countP_eq_zero]
    rintro (_ | id) hslot
    · simp
    · simp [hlisted id hslot]
  have hkept : (r.slots.map fun slot => slot.filter (· ∈ listing)) = r.slots.map id := by
    apply List.map_congr_left
    rintro (_ | id) hslot
    · rfl
    · simp [hlisted id hslot]
  unfold bury
  rw [hnone, hkept, List.map_id]
  rfl

theorem enrolled_eq_self (hknown : ∀ id ∈ listing, some id ∈ r.slots) :
    listing.foldl enroll r = r := by
  induction listing with
  | nil => rfl
  | cons id listing ih =>
    rw [List.foldl_cons, enroll_known (hknown id List.mem_cons_self)]
    exact ih fun other hother => hknown other (List.mem_cons_of_mem id hother)

/-- A listing of the devices that are live changes nothing. -/
theorem update_eq_self (hsame : ∀ id, some id ∈ r.slots ↔ id ∈ listing) : r.update listing = r := by
  unfold update
  rw [bury_eq_self fun id => (hsame id).mp]
  exact enrolled_eq_self fun id => (hsame id).mpr

/-- After any history an update leaves each listed device with exactly one live slot and no other with one:
the slots there were, with tombstones for the devices that are gone, and behind them the new devices in the
order in which the listing first names them. The number kept is that of the live slots, burying never takes
more from it than there is, and the index of a device is where the device is found. Updating again with a
listing of the same devices changes nothing. -/
theorem update_settles (past : List (List DeviceId)) (listing : List DeviceId) :
    let before := after past
    let r := before.update listing
    (∀ id, r.slots.count (some id) = if id ∈ listing then 1 else 0) ∧
    r.slots = (before.slots.map fun slot => slot.filter (· ∈ listing)) ++
      ((listing.filter (some · ∉ before.slots)).eraseDups).map some ∧
    r.live = r.slots.countP Option.isSome ∧
    (before.slots.countP fun slot => slot.any (· ∉ listing)) ≤ before.live ∧
    (∀ id index, r.indexOf id = some index ↔ r.deviceId index = .ok (some id)) ∧
    ∀ again, (∀ id, id ∈ again ↔ id ∈ listing) → r.update again = r := by
  intro before r
  have hbefore : before.Sound := after_sound past
  have hr : r.Sound := hbefore.update listing
  refine ⟨fun id => ?_, update_slots before listing, hr.counted, hbefore.buried_le listing,
    fun id index => hr.indexOf_iff, fun again hagain => ?_⟩
  · have hone := hr.distinct id
    split
    · next hlisted =>
      have hpos : 0 < r.slots.count (some id) := List.count_pos_iff.mpr (update_mem.mpr hlisted)
      omega
    · next hunlisted => exact List.count_eq_zero.mpr fun hmem => hunlisted (update_mem.mp hmem)
  · apply update_eq_self
    intro id
    rw [hagain]
    exact update_mem

/-- The first of two devices goes, a third one is listed twice, and then the two that are left are listed in
another order. -/
theorem settled_after_doubles :
    let r := (after [["a", "b"]]).update ["c", "b", "c"]
    (∀ id, id ∈ ["b", "c"] ↔ id ∈ ["c", "b", "c"]) ∧ r.update ["b", "c"] = r ∧
      r = { slots := [none, some "b", some "c"], live := 2 } := by
  have hagain : ∀ id, id ∈ ["b", "c"] ↔ id ∈ ["c", "b", "c"] := by
    intro id
    simp only [List.mem_cons, List.not_mem_nil, or_false]
    tauto
  obtain ⟨-, -, -, -, -, hsame⟩ := update_settles [["a", "b"]] ["c", "b", "c"]
  exact ⟨hagain, hsame ["b", "c"] hagain, by decide⟩

end CameraControl.Roster
