import CameraControl.Proofs.Guise

/-!
A subsystem that keeps a record of its calls. The controller cannot tell it from the bare subsystem, since
nothing that it is answered depends on the record: `handle_bare` says so for every message. What the record
holds after a message was handled by a controller with an empty record is therefore what handling it took.
-/
namespace CameraControl

/-- A call to a subsystem with its answer. -/
structure Exchange (δ τ : Type) where
  call : Call δ τ
  fault : Option Fault
  posted : List (Event δ τ)
deriving DecidableEq, Repr

structure Recorded (σ δ τ : Type) where
  world : σ
  /-- The calls so far, oldest first. -/
  record : List (Exchange δ τ) := []

instance {σ δ τ : Type} [Subsystem σ δ τ] : Subsystem (Recorded σ δ τ) δ τ where
  ids r := Subsystem.ids r.world
  characteristics r := Subsystem.characteristics r.world
  idOf := Subsystem.idOf σ
  draft r device template :=
    let (world, draft) := Subsystem.draft r.world device template
    ({ r with world }, draft)
  answer r call :=
    let a := Subsystem.answer r.world call
    { a with world := ⟨a.world, r.record ++ [⟨call, a.fault, a.posted⟩]⟩ }

namespace Controller

variable {σ δ τ : Type}

/-- The controller without the record. -/
def bare (c : Controller (Recorded σ δ τ) δ τ) : Controller σ δ τ :=
  { c with subsystem := c.subsystem.world }

/-- The controller with a record that is still empty. -/
def recorded (c : Controller σ δ τ) : Controller (Recorded σ δ τ) δ τ :=
  { c with subsystem := { world := c.subsystem } }

theorem recorded_bare (c : Controller σ δ τ) : c.recorded.bare = c := rfl

/-- The guise that leaves the record out. -/
def unrecorded : Guise (Recorded σ δ τ) σ δ τ := { world := Recorded.world }

theorem bare_eq_under (c : Controller (Recorded σ δ τ) δ τ) : c.bare = c.under unrecorded := by
  unfold bare under unrecorded
  simp only [List.nil_append, Nat.zero_add, Option.or_none]

variable [Subsystem σ δ τ]

theorem unrecorded_faithful : (unrecorded : Guise (Recorded σ δ τ) σ δ τ).Faithful where
  characteristics _ _ := rfl
  idOf _ := rfl
  draft _ _ _ := rfl
  answer _ _ := rfl

variable (c : Controller (Recorded σ δ τ) δ τ)

theorem perform_bare (action : Action) :
    c.bare.perform action = (c.perform action).map bare id := by
  have hbare : (bare : Controller (Recorded σ δ τ) δ τ → _) = (·.under unrecorded) :=
    funext bare_eq_under
  rw [hbare]
  exact perform_under unrecorded_faithful c (Or.inl rfl)

/-- The controller handles every message as if nothing were recorded. -/
theorem handle_bare (message : Message δ τ) :
    c.bare.handle message = (c.handle message).bare := by
  rw [bare_eq_under, bare_eq_under]
  exact handle_under unrecorded_faithful c (Or.inl rfl)

end Controller

end CameraControl
