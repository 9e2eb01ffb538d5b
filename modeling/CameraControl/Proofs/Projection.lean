import Mathlib.Data.List.Forall2
import CameraControl.Metering
import CameraControl.Settings
import CameraControl.Proofs.Rounding

/-!
Where metering regions lie. Every step from a coordinate to a pixel keeps the order, and the last but one
clamps to the array. So the regions of areas that are not inverted are not inverted either, they lie within
the array whatever its origin, and they are nested as their areas are.
-/
namespace CameraControl

def Rect.Inside (inner outer : Rect) : Prop :=
  outer.left ≤ inner.left ∧ outer.top ≤ inner.top ∧ inner.right ≤ outer.right ∧
    inner.bottom ≤ outer.bottom

namespace Region

def span (r : Region) : Rect := ⟨r.x, r.y, r.x + r.width, r.y + r.height⟩

/-- The region lies on the pixels of an array, counted from the array's own corner. -/
structure Within (r : Region) (array : Rect) : Prop where
  left : 0 ≤ r.x
  width : 0 ≤ r.width
  right : r.x + r.width ≤ array.width - 1
  top : 0 ≤ r.y
  height : 0 ≤ r.height
  bottom : r.y + r.height ≤ array.height - 1

end Region

theorem Settings.Valid.upright {s : Settings} (hs : s.Valid) {area : Area}
    (harea : area ∈ s.focusAreas ++ s.meteringAreas) :
    area.rect.left ≤ area.rect.right ∧ area.rect.top ≤ area.rect.bottom := by
  unfold Settings.Valid Settings.problem? at hs
  split_ifs at hs
  have hnone := List.findSome?_eq_none_iff.mp hs area harea
  unfold Settings.areaProblem? at hnone
  split_ifs at hnone with _ hinverted
  unfold Rect.Inverted at hinverted
  omega

namespace Binary64

theorem truncate_mono {x y : Rat} (hle : x ≤ y) : truncate x ≤ truncate y := by
  unfold truncate
  split_ifs with hx hy hy
  · exact Rat.floor_monotone hle
  · exact absurd (hx.trans hle) hy
  · have hceil : x.ceil ≤ 0 := Rat.ceil_le_iff.mpr (not_le.mp hx).le
    have hfloor : 0 ≤ y.floor := Rat.le_floor_iff.mpr hy
    exact hceil.trans hfloor
  · exact Rat.ceil_le_iff.mpr (hle.trans Rat.le_ceil)

theorem truncate_intCast (n : Int) : truncate n = n := by
  unfold truncate
  rw [Rat.floor_intCast, Rat.ceil_intCast, ite_self]

end Binary64

namespace Metering

open Binary64

theorem fraction_mono {v w : Int} (hle : v ≤ w) : fraction v ≤ fraction w := by
  unfold fraction
  apply nearest_mono
  apply div_le_div_of_nonneg_right _ (by norm_num)
  apply nearest_mono
  exact add_le_add_left (Int.cast_le.mpr hle) 1000

theorem clamp_eq (x : Rat) (low high : Int) :
    clamp x low high = truncate (min (high : Rat) (max x low)) := by
  rw [min_def_lt, max_def_lt]
  rfl

theorem clamp_mono {x y : Rat} (hle : x ≤ y) (low high : Int) : clamp x low high ≤ clamp y low high := by
  rw [clamp_eq, clamp_eq]
  exact truncate_mono (min_le_min_left _ (max_le_max_right _ hle))

theorem clamp_range (x : Rat) {low high : Int} (hle : low ≤ high) :
    low ≤ clamp x low high ∧ clamp x low high ≤ high := by
  have hbounds : (low : Rat) ≤ high := Int.cast_le.mpr hle
  rw [clamp_eq]
  constructor
  · calc low = truncate low := (truncate_intCast low).symm
      _ ≤ truncate (min (high : Rat) (max x low)) := truncate_mono (le_min hbounds (le_max_right _ _))
  · calc truncate (min (high : Rat) (max x low)) ≤ truncate high := truncate_mono (min_le_left _ _)
      _ = high := truncate_intCast high

theorem project_mono {extent v w : Int} (hextent : 1 ≤ extent) (origin : Int) (hle : v ≤ w) :
    project extent origin v ≤ project extent origin w := by
  have hnonneg : (0 : Rat) ≤ extent := Int.cast_nonneg (by omega)
  unfold project
  apply clamp_mono
  apply nearest_mono
  apply add_le_add_left
  apply nearest_mono
  exact mul_le_mul_of_nonneg_left (fraction_mono hle) hnonneg

theorem project_range {extent : Int} (hextent : 1 ≤ extent) (origin v : Int) :
    0 ≤ project extent origin v ∧ project extent origin v ≤ extent - 1 :=
  clamp_range _ (by omega)

/-- It makes no difference whether the whole numbers are turned into doubles first. -/
theorem project_converted {extent origin v : Int} (hextent : |extent| < 2 ^ 53)
    (horigin : |origin| < 2 ^ 53) (hv : |v| < 2 ^ 53) :
    clamp (nearest (nearest (nearest extent * nearest (nearest (nearest v + 1000) / 2000)) +
      nearest origin)) 0 (extent - 1) = project extent origin v := by
  rw [nearest_intCast hextent, nearest_intCast horigin, nearest_intCast hv]
  rfl

variable {array : Rect} {area area' : Area}

theorem region_within (hwidth : 1 ≤ array.width) (hheight : 1 ≤ array.height)
    (hupright : area.rect.left ≤ area.rect.right ∧ area.rect.top ≤ area.rect.bottom) :
    (region array area).Within array := by
  obtain ⟨hleft, -⟩ := project_range hwidth array.left area.rect.left
  obtain ⟨-, hright⟩ := project_range hwidth array.left area.rect.right
  obtain ⟨htop, -⟩ := project_range hheight array.top area.rect.top
  obtain ⟨-, hbottom⟩ := project_range hheight array.top area.rect.bottom
  have hacross := project_mono hwidth array.left hupright.1
  have hdown := project_mono hheight array.top hupright.2
  unfold region
  constructor <;> dsimp only <;> omega

theorem region_inside (hwidth : 1 ≤ array.width) (hheight : 1 ≤ array.height)
    (hinside : area.rect.Inside area'.rect) :
    (region array area).span.Inside (region array area').span := by
  obtain ⟨hleft, htop, hright, hbottom⟩ := hinside
  have hleft := project_mono hwidth array.left hleft
  have htop := project_mono hheight array.top htop
  have hright := project_mono hwidth array.left hright
  have hbottom := project_mono hheight array.top hbottom
  unfold Region.span region Rect.Inside
  dsimp only
  omega

/-- What stands beside an area in the list of regions is its region. -/
theorem region_of_mem_zip {areas : List Area} {r : Region}
    (hmem : (area, r) ∈ areas.zip (regions array areas)) : r = region array area := by
  have hall : List.Forall₂ (fun area r => r = region array area) areas (regions array areas) := by
    unfold regions
    rw [List.forall₂_map_right_iff, List.forall₂_same]
    exact fun _ _ => rfl
  exact (List.forall₂_iff_zip.mp hall).2 hmem

/-- On an array of at least one pixel each way, settings that make sense have their areas turned one by one
into regions of the same weight that lie within the array, and areas that are nested into regions that are
nested. -/
theorem valid_areas_projected {s : Settings} {array : Rect} (hs : s.Valid) (hwidth : 1 ≤ array.width)
    (hheight : 1 ≤ array.height) :
    (∀ areas ∈ [s.focusAreas, s.meteringAreas],
      List.Forall₂ (fun area r => r.weight = area.weight ∧ r.Within array) areas (regions array areas)) ∧
    ∀ areas ∈ [s.focusAreas, s.meteringAreas], ∀ areas' ∈ [s.focusAreas, s.meteringAreas],
      ∀ area r, (area, r) ∈ areas.zip (regions array areas) →
      ∀ area' r', (area', r') ∈ areas'.zip (regions array areas') →
        area.rect.Inside area'.rect → r.span.Inside r'.span := by
  constructor
  · intro areas hareas
    have hgiven {area : Area} (harea : area ∈ areas) : area ∈ s.focusAreas ++ s.meteringAreas := by
      rcases List.mem_pair.mp hareas with rfl | rfl
      · exact List.mem_append_left _ harea
      · exact List.mem_append_right _ harea
    unfold regions
    rw [List.forall₂_map_right_iff, List.forall₂_same]
    exact fun area harea => ⟨rfl, region_within hwidth hheight (hs.upright (hgiven harea))⟩
  · intro areas _ areas' _ area r hr area' r' hr' hinside
    rw [region_of_mem_zip hr, region_of_mem_zip hr']
    exact region_inside hwidth hheight hinside

/-- On an array whose origin is left of the sensor's, the regions of nested areas share their left edge. -/
theorem offset_areas_projected :
    let inner : Area := ⟨⟨-500, -500, 500, 500⟩, 600⟩
    let outer : Area := ⟨⟨-1000, -1000, 1000, 1000⟩, 1⟩
    let s : Settings := {
      preview := ⟨640, 480⟩, photo := ⟨640, 480⟩, focusAreas := [inner], meteringAreas := [outer] }
    let array : Rect := ⟨-300, 20, 700, 620⟩
    let r : Region := ⟨0, 170, 450, 300, 600⟩
    let r' : Region := ⟨0, 20, 700, 579, 1⟩
    s.Valid ∧ 1 ≤ array.width ∧ 1 ≤ array.height ∧
      regions array s.focusAreas = [r] ∧ regions array s.meteringAreas = [r'] ∧
      r.Within array ∧ r'.Within array ∧ inner.rect.Inside outer.rect ∧ r.span.Inside r'.span := by
  intro inner outer s array r r'
  have hvalid : s.Valid := by decide
  have hfocus : regions array s.focusAreas = [r] := by decide +kernel
  have hmetering : regions array s.meteringAreas = [r'] := by decide +kernel
  have hinside : inner.rect.Inside outer.rect := by
    unfold Rect.Inside
    decide
  obtain ⟨hwithin, hnested⟩ := @valid_areas_projected s array hvalid (by decide) (by decide)
  have hinner := hwithin s.focusAreas List.mem_cons_self
  have houter := hwithin s.meteringAreas (List.mem_cons_of_mem _ List.mem_cons_self)
  have hmem : (inner, r) ∈ s.focusAreas.zip (regions array s.focusAreas) := by
    rw [hfocus]
    exact List.mem_singleton_self _
  have hmem' : (outer, r') ∈ s.meteringAreas.zip (regions array s.meteringAreas) := by
    rw [hmetering]
    exact List.mem_singleton_self _
  rw [hfocus] at hinner
  rw [hmetering] at houter
  exact ⟨hvalid, by decide, by decide, hfocus, hmetering, (List.forall₂_cons.mp hinner).1.2,
    (List.forall₂_cons.mp houter).1.2, hinside,
    hnested _ List.mem_cons_self _ (List.mem_cons_of_mem _ List.mem_cons_self) _ _ hmem _ _ hmem' hinside⟩

end Metering

end CameraControl
