import CameraControl.Geometry

/-!
What a caller may ask of an open camera, and which requests make no sense. `Settings.problem?` reports
the first fault only: sizes come before areas, focus areas before metering areas, and an area that is
out of range is not also called inverted.
-/
namespace CameraControl

inductive FocusMode
  | auto | continuousPicture | continuousVideo | extendedDepth | fixed | infinity | macroRange
deriving DecidableEq, Repr

inductive FlashMode
  | noFlash | auto | off | on | torch | redEye
deriving DecidableEq, Repr

inductive SceneMode
  | noScene | auto | action | hdr | landscape | night | portrait | sports
deriving DecidableEq, Repr

namespace FocusMode

def all : List FocusMode :=
  [auto, continuousPicture, continuousVideo, extendedDepth, fixed, infinity, macroRange]

def name : FocusMode → String
  | auto => "Auto"
  | continuousPicture => "ContinuousPicture"
  | continuousVideo => "ContinuousVideo"
  | extendedDepth => "ExtendedDof"
  | fixed => "Fixed"
  | infinity => "Infinity"
  | macroRange => "Macro"

end FocusMode

namespace FlashMode

def all : List FlashMode := [noFlash, auto, off, on, torch, redEye]

def name : FlashMode → String
  | noFlash => "NoFlash"
  | auto => "Auto"
  | off => "Off"
  | on => "On"
  | torch => "Torch"
  | redEye => "RedEye"

end FlashMode

namespace SceneMode

def all : List SceneMode := [noScene, auto, action, hdr, landscape, night, portrait, sports]

def name : SceneMode → String
  | noScene => "NoSceneMode"
  | auto => "Auto"
  | action => "Action"
  | hdr => "Hdr"
  | landscape => "Landscape"
  | night => "Night"
  | portrait => "Portrait"
  | sports => "Sports"

end SceneMode

structure Settings where
  preview : Size
  photo : Size
  focus : FocusMode := .continuousPicture
  focusAreas : List Area := []
  meteringAreas : List Area := []
  flash : FlashMode := .noFlash
  scene : SceneMode := .noScene
deriving DecidableEq, Repr

namespace Settings

inductive Problem
  | emptyPreview
  | emptyPhoto
  | outside (rect : Rect)
  | inverted (rect : Rect)
deriving DecidableEq, Repr

def Problem.message : Problem → String
  | emptyPreview => "preview size must be greater than 0"
  | emptyPhoto => "photo size must be greater than 0"
  | outside rect => "area " ++ rect.describe ++ " lies outside [-1000, 1000]"
  | inverted rect => "area " ++ rect.describe ++ " is inverted"

def InField (v : Int) : Prop := -1000 ≤ v ∧ v ≤ 1000

instance (v : Int) : Decidable (InField v) := inferInstanceAs (Decidable (_ ∧ _))

def areaProblem? (area : Area) : Option Problem :=
  if ¬ ∀ v ∈ area.rect.edges, InField v then some (.outside area.rect)
  else if area.rect.Inverted then some (.inverted area.rect)
  else none

def problem? (s : Settings) : Option Problem :=
  if s.preview.width = 0 ∨ s.preview.height = 0 then some .emptyPreview
  else if s.photo.width = 0 ∨ s.photo.height = 0 then some .emptyPhoto
  else (s.focusAreas ++ s.meteringAreas).findSome? areaProblem?

/-- The settings a camera accepts. -/
def Valid (s : Settings) : Prop := s.problem? = none

instance (s : Settings) : Decidable s.Valid := inferInstanceAs (Decidable (_ = _))

end Settings

end CameraControl
