/-!
The stages of a camera session, from unopened to focus locked. Stages are ordered by how much of the
session is set up, so most conditions on them are thresholds. A `Stage.Set` is a sorted set of stages.
-/
namespace CameraControl

inductive Stage
  | unopened | unconfigured | configured | previewReady | previewActive | focusLocked
deriving DecidableEq, Repr

namespace Stage

def all : List Stage :=
  [unopened, unconfigured, configured, previewReady, previewActive, focusLocked]

def rank : Stage → Nat
  | unopened => 0
  | unconfigured => 1
  | configured => 2
  | previewReady => 3
  | previewActive => 4
  | focusLocked => 5

instance : LE Stage := ⟨fun a b => a.rank ≤ b.rank⟩

instance : LT Stage := ⟨fun a b => a.rank < b.rank⟩

instance (a b : Stage) : Decidable (a ≤ b) := inferInstanceAs (Decidable (a.rank ≤ b.rank))

instance (a b : Stage) : Decidable (a < b) := inferInstanceAs (Decidable (a.rank < b.rank))

instance : Ord Stage := ⟨fun a b => compare a.rank b.rank⟩

def name : Stage → String
  | unopened => "unopened"
  | unconfigured => "unconfigured"
  | configured => "configured"
  | previewReady => "preview_ready"
  | previewActive => "preview_active"
  | focusLocked => "focus_locked"

/-- The stage as structured output names it. -/
def label : Stage → String
  | unopened => "Unopened"
  | unconfigured => "Unconfigured"
  | configured => "Configured"
  | previewReady => "PreviewReady"
  | previewActive => "PreviewActive"
  | focusLocked => "FocusLocked"

/-- A set of stages, listed in order and without repetition. -/
structure Set where
  stages : List Stage
deriving DecidableEq, Repr

namespace Set

def of (stages : List Stage) : Set := ⟨all.filter (· ∈ stages)⟩

def atLeast (threshold : Stage) : Set := ⟨all.filter (threshold ≤ ·)⟩

instance : Membership Stage Set := ⟨fun s a => a ∈ s.stages⟩

instance (a : Stage) (s : Set) : Decidable (a ∈ s) :=
  inferInstanceAs (Decidable (a ∈ s.stages))

def isEmpty (s : Set) : Bool := s.stages.isEmpty

def describe (s : Set) : String :=
  "\x7b" ++ ", ".intercalate (s.stages.map name) ++ "\x7d"

end Set

end Stage

end CameraControl
