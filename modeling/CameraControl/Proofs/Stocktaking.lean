import CameraControl.Agent.Calls
import CameraControl.Proofs.Enrollment
import CameraControl.Simulator

/-!
Callers that take stock of the devices at the same time. Each lists the devices first and enrolls what it
listed later, when others may have enrolled newer listings. An old listing lacks the devices that were added
since, and enrolling it buries those that have an index already although they are present. So devices keep
their indices exactly in those runs in which listings are enrolled in the order in which they were taken.
-/
namespace CameraControl

structure Stocktaking (σ : Type) where
  world : σ
  roster : Roster
  /-- What each caller listed, until it has enrolled it. -/
  listed : List (Option (List DeviceId)) := []
  /-- The listings that were enrolled, oldest first, with what the callers learnt. -/
  taken : List (List DeviceId × Inventory) := []

namespace Stocktaking

inductive Move (σ : Type)
  /-- Something happens to the subsystem. -/
  | change (world : σ)
  | list
  | enroll (caller : Nat)

variable {σ δ τ : Type} [Subsystem σ δ τ]

def list (s : Stocktaking σ) : Stocktaking σ :=
  match Subsystem.ids s.world with
  | .ok listing => { s with listed := s.listed ++ [some listing] }
  | .error _ => s

def enroll (s : Stocktaking σ) (caller : Nat) : Stocktaking σ :=
  match s.listed[caller]? with
  | some (some listing) =>
    { s with
      roster := s.roster.update listing
      listed := s.listed.set caller none
      taken := s.taken ++ [(listing, .take (s.roster.update listing) s.world)] }
  | _ => s

def step (s : Stocktaking σ) : Move σ → Stocktaking σ
  | .change world => { s with world }
  | .list => s.list
  | .enroll caller => s.enroll caller

def run (s : Stocktaking σ) (moves : List (Move σ)) : Stocktaking σ := moves.foldl step s

/-- The listings that were enrolled, oldest first. -/
def enrolled (s : Stocktaking σ) : List (List DeviceId) := s.taken.map Prod.fst

/-- What holds at some time of the run holds from then on. -/
def Lasts (P : Stocktaking σ → Prop) : Stocktaking σ → List (Move σ) → Prop
  | _, [] => True
  | s, move :: moves => (P s → P (s.step move)) ∧ Lasts P (s.step move) moves

theorem Lasts.run {P : Stocktaking σ → Prop} {s : Stocktaking σ} {moves : List (Move σ)}
    (h : Lasts P s moves) (hs : P s) : P (s.run moves) := by
  induction moves generalizing s with
  | nil => exact hs
  | cons move moves ih => exact ih h.2 (h.1 hs)

/-- With nobody else about, the two steps are what a single call does. -/
theorem inventory_steps {a a' : Agent σ δ τ} {inventory : Inventory}
    (hcall : a.inventory = .ok (a', inventory)) :
    let s : Stocktaking σ := { world := a.controller.subsystem, roster := a.controller.roster }
    (s.run [.list, .enroll 0]).roster = a'.controller.roster ∧
      (s.run [.list, .enroll 0]).taken.map Prod.snd = [inventory] := by
  intro s
  unfold Agent.inventory at hcall
  cases hids : Subsystem.ids a.controller.subsystem with
  | error fault =>
    rw [hids] at hcall
    cases hcall
  | ok listing =>
    rw [hids] at hcall
    cases hcall
    have hlist : s.list = { s with listed := [some listing] } := by
      unfold list
      rw [hids]
      rfl
    show (s.list.enroll 0).roster = _ ∧ (s.list.enroll 0).taken.map Prod.snd = _
    rw [hlist]
    exact ⟨rfl, rfl⟩

variable {s : Stocktaking σ} {id : DeviceId} {index : Nat} {listing : List DeviceId}

/-- Enrolling what a caller listed, if it has not done so yet. -/
theorem enroll_cases (s : Stocktaking σ) (caller : Nat) : s.enroll caller = s ∨
    ∃ listing, some listing ∈ s.listed ∧ s.enroll caller = { s with
      roster := s.roster.update listing
      listed := s.listed.set caller none
      taken := s.taken ++ [(listing, .take (s.roster.update listing) s.world)] } := by
  unfold enroll
  split
  · next listing hlisted => exact Or.inr ⟨listing, List.mem_of_getElem? hlisted, rfl⟩
  · exact Or.inl rfl

theorem list_cases (s : Stocktaking σ) : s.list = s ∨ ∃ listing,
    Subsystem.ids s.world = .ok listing ∧ s.list = { s with listed := s.listed ++ [some listing] } := by
  unfold list
  cases hids : Subsystem.ids s.world with
  | error fault => exact Or.inl rfl
  | ok listing => exact Or.inr ⟨listing, rfl, rfl⟩

/-- A step either leaves the roster alone or enrolls a listing that some caller has taken. -/
theorem step_cases (s : Stocktaking σ) (move : Move σ) :
    (s.step move).roster = s.roster ∧ (s.step move).enrolled = s.enrolled ∨
      ∃ new, some new ∈ s.listed ∧ (s.step move).roster = s.roster.update new ∧
        (s.step move).enrolled = s.enrolled ++ [new] := by
  cases move with
  | change world => exact Or.inl ⟨rfl, rfl⟩
  | list =>
    left
    show s.list.roster = _ ∧ s.list.enrolled = _
    rcases s.list_cases with hsame | ⟨listing, -, hlist⟩
    · rw [hsame]
      exact ⟨rfl, rfl⟩
    · rw [hlist]
      exact ⟨rfl, rfl⟩
  | enroll caller =>
    show (s.enroll caller).roster = _ ∧ (s.enroll caller).enrolled = _ ∨ _
    rcases s.enroll_cases caller with hsame | ⟨new, hnew, henroll⟩
    · rw [hsame]
      exact Or.inl ⟨rfl, rfl⟩
    · refine Or.inr ⟨new, hnew, ?_⟩
      show (s.enroll caller).roster = _ ∧ (s.enroll caller).enrolled = _
      rw [henroll]
      exact ⟨rfl, List.map_append⟩

theorem enrolled_step (s : Stocktaking σ) (move : Move σ) : s.enrolled <+: (s.step move).enrolled := by
  rcases s.step_cases move with ⟨-, hsame⟩ | ⟨new, -, -, hnew⟩
  · rw [hsame]
  · rw [hnew]
    exact List.prefix_append _ _

theorem enrolled_run (s : Stocktaking σ) (moves : List (Move σ)) :
    s.enrolled <+: (s.run moves).enrolled := by
  induction moves generalizing s with
  | nil => exact List.prefix_refl _
  | cons move moves ih => exact (enrolled_step s move).trans (ih _)

/-- A listed device keeps its index when the listing is enrolled. -/
theorem update_kept {r : Roster} (hlisted : id ∈ listing)
    (hindex : r.deviceId index = .ok (some id)) : (r.update listing).deviceId index = .ok (some id) := by
  rw [Roster.deviceId_ok] at hindex ⊢
  refine Roster.enrolled_getElem? listing ?_
  rw [Roster.bury_getElem?, hindex]
  simp [hlisted]

/-- A device that is present and has its index. -/
def Seated (devices : σ → List DeviceId) (index : Nat) (id : DeviceId) (s : Stocktaking σ) : Prop :=
  id ∈ devices s.world ∧ s.roster.deviceId index = .ok (some id)

/-- What is known of the devices that have an index, and of what is still to be enrolled. Only the latest
listing that was enrolled counts; before there is one, the devices were known from the start. -/
structure Current (devices : σ → List DeviceId) (s : Stocktaking σ) : Prop where
  listed : ∀ listing, some listing ∈ s.listed → listing ⊆ devices s.world
  latest : ∀ listing ∈ s.enrolled.getLast?, ∀ id, some id ∈ s.roster.slots → id ∈ listing
  first : s.enrolled = [] → ∀ id, some id ∈ s.roster.slots →
    id ∈ devices s.world ∧ ∀ listing, some listing ∈ s.listed → id ∈ listing

/-- Every device that was ever enrolled is present and has an index. -/
def Settled (devices : σ → List DeviceId) (s : Stocktaking σ) : Prop :=
  ∀ listing ∈ s.enrolled, ∀ id ∈ listing, ∃ index, s.Seated devices index id

section present

variable {devices : σ → List DeviceId}
  (hids : ∀ world listing, Subsystem.ids world = .ok listing →
    ∀ id, id ∈ listing ↔ id ∈ devices world)

include hids

theorem Current.step (hs : s.Current devices) (move : Move σ)
    (hgrows : ∀ id, id ∈ devices s.world → id ∈ devices (s.step move).world) :
    (s.step move).Current devices := by
  cases move with
  | change world =>
    refine ⟨fun listing hlisted id hid => hgrows id (hs.listed listing hlisted hid), hs.latest, ?_⟩
    intro hnone id hid
    obtain ⟨hpresent, hpending⟩ := hs.first hnone id hid
    exact ⟨hgrows id hpresent, hpending⟩
  | list =>
    show s.list.Current devices
    rcases s.list_cases with hsame | ⟨new, hnew, hlist⟩
    · rw [hsame]
      exact hs
    · rw [hlist]
      refine ⟨?_, hs.latest, ?_⟩
      · intro listing hlisted
        rcases List.mem_append.mp hlisted with hold | hlast
        · exact hs.listed listing hold
        · cases List.mem_singleton.mp hlast
          exact fun id hid => (hids s.world new hnew id).mp hid
      · intro hnone id hid
        obtain ⟨hpresent, hpending⟩ := hs.first hnone id hid
        refine ⟨hpresent, ?_⟩
        intro listing hlisted
        rcases List.mem_append.mp hlisted with hold | hlast
        · exact hpending listing hold
        · cases List.mem_singleton.mp hlast
          exact (hids s.world new hnew id).mpr hpresent
  | enroll caller =>
    show (s.enroll caller).Current devices
    rcases s.enroll_cases caller with hsame | ⟨new, -, henroll⟩
    · rw [hsame]
      exact hs
    · rw [henroll]
      refine ⟨?_, ?_, ?_⟩
      · intro listing hlisted
        rcases List.mem_or_eq_of_mem_set hlisted with hold | hnone
        · exact hs.listed listing hold
        · cases hnone
      · intro listing hlast id hid
        have hlast : listing = new := by simpa [enrolled] using hlast.symm
        rw [hlast]
        exact Roster.listed_of_update hid
      · intro hnone
        simp [enrolled] at hnone

/-- As long as each listing has all devices that were enrolled before, devices keep their indices. -/
theorem Current.seated (hs : s.Current devices) {moves : List (Move σ)}
    (hgrows : ∀ id, Lasts (fun s => id ∈ devices s.world) s moves)
    (hpairwise : (s.run moves).enrolled.Pairwise (· ⊆ ·)) (index : Nat) (id : DeviceId) :
    Lasts (Seated devices index id) s moves := by
  induction moves generalizing s with
  | nil => trivial
  | cons move moves ih =>
    refine ⟨?_, ih (hs.step hids move fun id => (hgrows id).1) (fun id => (hgrows id).2) hpairwise⟩
    rintro ⟨hpresent, hindex⟩
    refine ⟨(hgrows id).1 hpresent, ?_⟩
    rcases s.step_cases move with ⟨hroster, -⟩ | ⟨new, hlisted, hroster, hnew⟩
    · rw [hroster, hindex]
    · have hslot : some id ∈ s.roster.slots := List.mem_of_getElem? (Roster.deviceId_ok.mp hindex)
      have hprefix : s.enrolled ++ [new] <+: (s.run (move :: moves)).enrolled := by
        rw [← hnew]
        exact enrolled_run (s.step move) moves
      have hbefore := (List.pairwise_append.mp (hpairwise.sublist hprefix.sublist)).2.2
      rw [hroster]
      refine update_kept ?_ hindex
      cases hlast : s.enrolled.getLast? with
      | none => exact (hs.first (List.getLast?_eq_none_iff.mp hlast) id hslot).2 new hlisted
      | some latest =>
        have hlatest : latest ⊆ new :=
          hbefore latest (List.mem_of_getLast? hlast) new List.mem_cons_self
        exact hlatest (hs.latest latest hlast id hslot)

/-- Devices that keep their indices are in every listing that is enrolled after the first with them. -/
theorem Settled.pairwise (hs : s.Current devices) (hsettled : s.Settled devices)
    (hpairwise : s.enrolled.Pairwise (· ⊆ ·)) {moves : List (Move σ)}
    (hgrows : ∀ id, Lasts (fun s => id ∈ devices s.world) s moves)
    (hseated : ∀ index id, Lasts (Seated devices index id) s moves) :
    (s.run moves).enrolled.Pairwise (· ⊆ ·) := by
  induction moves generalizing s with
  | nil => exact hpairwise
  | cons move moves ih =>
    have hstill : ∀ listing ∈ s.enrolled, ∀ id ∈ listing,
        ∃ index, (s.step move).Seated devices index id := by
      intro listing hlisting id hid
      obtain ⟨index, hindex⟩ := hsettled listing hlisting id hid
      exact ⟨index, (hseated index id).1 hindex⟩
    refine ih (hs.step hids move fun id => (hgrows id).1) ?_ ?_ (fun id => (hgrows id).2)
      fun index id => (hseated index id).2
    · rcases s.step_cases move with ⟨-, hsame⟩ | ⟨new, hlisted, hroster, hnew⟩
      · intro listing hlisting
        exact hstill listing (hsame ▸ hlisting)
      · intro listing hlisting id hid
        rw [hnew] at hlisting
        rcases List.mem_append.mp hlisting with hold | hlast
        · exact hstill listing hold id hid
        · rw [List.mem_singleton.mp hlast] at hid
          obtain ⟨index, hindex⟩ := List.mem_iff_getElem?.mp (Roster.update_mem.mpr hid)
          refine ⟨index, (hgrows id).1 (hs.listed new hlisted hid), ?_⟩
          rw [hroster]
          exact Roster.deviceId_ok.mpr hindex
    · rcases s.step_cases move with ⟨-, hsame⟩ | ⟨new, -, hroster, hnew⟩
      · rw [hsame]
        exact hpairwise
      · rw [hnew]
        refine List.pairwise_append.mpr ⟨hpairwise, List.pairwise_singleton _ _, ?_⟩
        intro listing hlisting last hlast id hid
        obtain ⟨index, -, hindex⟩ := hstill listing hlisting id hid
        rw [List.mem_singleton.mp hlast]
        rw [hroster] at hindex
        exact Roster.listed_of_update (List.mem_of_getElem? (Roster.deviceId_ok.mp hindex))

/-- While devices only come, all that are present keep the indices that they have, in every run of callers
that list the devices and enroll them later, iff each listing that is enrolled has all the devices that were
enrolled before. A listing that has waited while a newer one was enrolled buries what it does not have. -/
theorem seated_iff_enrolled_in_turn (world : σ) (roster : Roster)
    (hroster : ∀ id, some id ∈ roster.slots → id ∈ devices world) (moves : List (Move σ)) :
    let start : Stocktaking σ := { world, roster }
    (∀ id, Lasts (fun s => id ∈ devices s.world) start moves) →
      ((∀ index id, Lasts (Seated devices index id) start moves) ↔
        (start.run moves).enrolled.Pairwise (· ⊆ ·)) := by
  intro start hgrows
  have hstart : start.Current devices := by
    refine ⟨fun listing hlisted => absurd hlisted List.not_mem_nil, fun _ hlast => (nomatch hlast), ?_⟩
    intro _ id hid
    exact ⟨hroster id hid, fun listing hlisted => absurd hlisted List.not_mem_nil⟩
  have hsettled : start.Settled devices := fun listing hlisting => absurd hlisting List.not_mem_nil
  exact ⟨Settled.pairwise hids hstart hsettled .nil hgrows, hstart.seated hids hgrows⟩

end present

def withFirst : Stocktaking Simulator where
  world := .withDevices ["a"]
  roster := Roster.empty.update ["a"]

/-- Both callers list the devices before either enrolls, and the one that came first goes last. -/
def overtakenMoves : List (Move Simulator) :=
  [.list, .change ((Simulator.withDevices ["a"]).addDevice "b"), .list, .enroll 1, .enroll 0]

/-- The callers enroll in the order in which they came. -/
def orderlyMoves : List (Move Simulator) :=
  [.list, .change ((Simulator.withDevices ["a"]).addDevice "b"), .list, .enroll 0, .enroll 1]

theorem listed_iff (world : Simulator) (listing : List DeviceId)
    (hids : Subsystem.ids world = .ok listing) (id : DeviceId) : id ∈ listing ↔ id ∈ world.list := by
  cases hids
  rfl

/-- In turn, the device that came later gets the second index and both keep theirs. -/
theorem orderly_seated : (∀ id, some id ∈ withFirst.roster.slots → id ∈ withFirst.world.list) ∧
    (∀ id, Lasts (fun s => id ∈ s.world.list) withFirst orderlyMoves) ∧
    (withFirst.run orderlyMoves).roster.slots = [some "a", some "b"] ∧
    ∀ index id, Lasts (Seated Simulator.list index id) withFirst orderlyMoves := by
  have hroster : ∀ id, some id ∈ withFirst.roster.slots → id ∈ withFirst.world.list := by
    intro id hid
    have hlisted : id ∈ ["a"] := Roster.listed_of_update hid
    exact hlisted
  have hgrows : ∀ id, Lasts (fun s => id ∈ s.world.list) withFirst orderlyMoves :=
    fun id => ⟨fun h => h, List.mem_append_left ["b"], fun h => h, fun h => h, fun h => h, trivial⟩
  refine ⟨hroster, hgrows, rfl, ?_⟩
  refine (seated_iff_enrolled_in_turn listed_iff withFirst.world withFirst.roster hroster orderlyMoves
    hgrows).mpr ?_
  decide

/-- The second index becomes a tombstone although no device has left. -/
theorem overtaken_buried :
    (∀ id, Lasts (fun s => id ∈ s.world.list) withFirst overtakenMoves) ∧
    Seated Simulator.list 1 "b" (withFirst.run (overtakenMoves.take 4)) ∧
    "b" ∈ (withFirst.run overtakenMoves).world.list ∧
    (withFirst.run overtakenMoves).roster.deviceId 1 = .ok none := by
  refine ⟨?_, ⟨by decide, by decide⟩, by decide, by decide⟩
  exact fun id => ⟨fun h => h, List.mem_append_left ["b"], fun h => h, fun h => h, fun h => h, trivial⟩

end Stocktaking

end CameraControl
