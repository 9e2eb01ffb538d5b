import CameraControl.Autofocus

/-!
Capture requests and the draft they are taken from. A draft keeps its targets without repetition, in the
order in which they came; `build` takes a request, which no later edit of the draft can change.
A `Workbench` keeps every request taken so far beside the draft.
-/
namespace CameraControl

abbrev SurfaceId := Nat

inductive Template
  | preview | stillCapture | record
deriving DecidableEq, Repr

namespace Template

def all : List Template := [preview, stillCapture, record]

def name : Template → String
  | preview => "Preview"
  | stillCapture => "StillCapture"
  | record => "Record"

end Template

/-- What is asked of the camera for one frame or for every frame. -/
structure Request where
  template : Template
  targets : List SurfaceId := []
  autofocus : Option AutofocusMode := none
  trigger : Trigger := .idle
  focusRegions : List Region := []
  exposureRegions : List Region := []
  flash : Option FlashMode := none
  scene : Option SceneMode := none
deriving DecidableEq, Repr

/-- A request under construction. -/
structure Draft where
  content : Request
deriving DecidableEq, Repr

namespace Draft

def blank (template : Template) : Draft := ⟨{ template }⟩

def targets (d : Draft) : List SurfaceId := d.content.targets

def addTarget (d : Draft) (s : SurfaceId) : Draft :=
  if s ∈ d.targets then d else ⟨{ d.content with targets := d.targets ++ [s] }⟩

def removeTarget (d : Draft) (s : SurfaceId) : Draft :=
  ⟨{ d.content with targets := d.targets.filter (· ≠ s) }⟩

def withAutofocus (d : Draft) (mode : Option AutofocusMode) : Draft :=
  ⟨{ d.content with autofocus := mode }⟩

def withTrigger (d : Draft) (trigger : Trigger) : Draft :=
  ⟨{ d.content with trigger := trigger }⟩

def withFocusRegions (d : Draft) (regions : List Region) : Draft :=
  ⟨{ d.content with focusRegions := regions }⟩

def withExposureRegions (d : Draft) (regions : List Region) : Draft :=
  ⟨{ d.content with exposureRegions := regions }⟩

def withFlash (d : Draft) (flash : FlashMode) : Draft :=
  ⟨{ d.content with flash := some flash }⟩

def withScene (d : Draft) (scene : SceneMode) : Draft :=
  ⟨{ d.content with scene := some scene }⟩

def build (d : Draft) : Request := d.content

end Draft

inductive Edit
  | addTarget (target : SurfaceId)
  | removeTarget (target : SurfaceId)
  | autofocus (mode : Option AutofocusMode)
  | trigger (trigger : Trigger)
  | focusRegions (regions : List Region)
  | exposureRegions (regions : List Region)
  | flash (flash : FlashMode)
  | scene (scene : SceneMode)
  | build
deriving DecidableEq, Repr

structure Workbench where
  draft : Draft
  taken : List Request := []
deriving DecidableEq, Repr

namespace Workbench

def edit (w : Workbench) : Edit → Workbench
  | .addTarget s => { w with draft := w.draft.addTarget s }
  | .removeTarget s => { w with draft := w.draft.removeTarget s }
  | .autofocus mode => { w with draft := w.draft.withAutofocus mode }
  | .trigger trigger => { w with draft := w.draft.withTrigger trigger }
  | .focusRegions regions => { w with draft := w.draft.withFocusRegions regions }
  | .exposureRegions regions => { w with draft := w.draft.withExposureRegions regions }
  | .flash flash => { w with draft := w.draft.withFlash flash }
  | .scene scene => { w with draft := w.draft.withScene scene }
  | .build => { w with taken := w.taken ++ [w.draft.build] }

def run (w : Workbench) (edits : List Edit) : Workbench := edits.foldl edit w

/-- The draft still says what the last request taken from it said. -/
def Unchanged (w : Workbench) : Prop := w.taken.getLast? = some w.draft.build

instance (w : Workbench) : Decidable w.Unchanged := inferInstanceAs (Decidable (_ = _))

end Workbench

end CameraControl
