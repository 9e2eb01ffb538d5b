import CameraControl.Hardware

/-!
The roster gives every camera device an index for good. A device that leaves keeps its slot as a tombstone,
and one that comes back is a new entry, so an index never changes its meaning. `Inventory` is what a caller
learns about the roster: its slots, with the characteristics of the devices that are still there.
-/
namespace CameraControl

structure Roster where
  slots : List (Option DeviceId) := []
  live : Nat := 0
deriving DecidableEq, Repr

namespace Roster

def empty : Roster := {}

/-- The slots whose device is not listed become tombstones. -/
def bury (r : Roster) (listing : List DeviceId) : Roster :=
  { slots := r.slots.map fun slot => slot.filter (· ∈ listing)
    live := r.live - r.slots.countP fun slot => slot.any (· ∉ listing) }

def enroll (r : Roster) (id : DeviceId) : Roster :=
  if some id ∈ r.slots then r else { slots := r.slots ++ [some id], live := r.live + 1 }

def update (r : Roster) (listing : List DeviceId) : Roster :=
  listing.foldl enroll (r.bury listing)

/-- The device behind an index, or none behind a tombstone. -/
def deviceId (r : Roster) (index : Nat) : Except Failure (Option DeviceId) :=
  match r.slots[index]? with
  | some slot => .ok slot
  | none => .error (.unknownIndex index)

def indexOf (r : Roster) (id : DeviceId) : Option Nat := r.slots.findIdx? (· = some id)

end Roster

structure Inventory where
  slots : List (Option DeviceId)
  characteristics : List (Option Characteristics)
  count : Nat
  firstBack : Option Nat
  firstFront : Option Nat
deriving DecidableEq, Repr

namespace Inventory

variable {σ δ τ : Type} [Subsystem σ δ τ]

def known (world : σ) (slot : Option DeviceId) : Option Characteristics :=
  slot.bind fun id => (Subsystem.characteristics world id).toOption

def firstFacing (characteristics : List (Option Characteristics)) (facing : Facing) : Option Nat :=
  characteristics.findIdx? fun c => c.any (·.facing = facing)

def take (roster : Roster) (world : σ) : Inventory :=
  let characteristics := roster.slots.map (known world)
  { slots := roster.slots
    characteristics
    count := roster.live
    firstBack := firstFacing characteristics .back
    firstFront := firstFacing characteristics .front }

def characteristics? (i : Inventory) (index : Nat) : Option Characteristics :=
  (i.characteristics[index]?).join

end Inventory

end CameraControl
