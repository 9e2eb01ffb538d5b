import Mathlib.Data.List.Induction
import Mathlib.Data.List.Pairwise
import Mathlib.Logic.ExistsUnique
import Mathlib.Tactic.ByContra
import Mathlib.Tactic.SplitIfs
import CameraControl.Request

/-!
The targets of a draft, told from the edits that were made. A draft has a target exactly if the last edit about
it added it, and its targets stand in the order in which they joined, each with the first edit that added it
since it was last removed. Requests stay as they were taken, whatever is edited afterwards.
-/
namespace CameraControl

namespace Edit

/-- The target that is added or removed. -/
def target? : Edit → Option SurfaceId
  | addTarget target | removeTarget target => some target
  | _ => none

/-- The last edit about the target. -/
def last? (edits : List Edit) (target : SurfaceId) : Option Edit :=
  (edits.filter (·.target? = some target)).getLast?

/-- The edit at this place is the first that added the target since it was last removed. -/
structure Joined (edits : List Edit) (target : SurfaceId) (place : Nat) : Prop where
  added : edits[place]? = some (.addTarget target)
  first : ∀ earlier < place, edits[earlier]? = some (.addTarget target) →
    .removeTarget target ∈ (edits.take place).drop earlier
  kept : .removeTarget target ∉ edits.drop place

variable {edits : List Edit} {edit : Edit} {target : SurfaceId} {place : Nat}

theorem eq_of_target? (h : edit.target? = some target) :
    edit = .addTarget target ∨ edit = .removeTarget target := by
  cases edit <;> cases h
  · exact Or.inl rfl
  · exact Or.inr rfl

theorem last?_append (edits later : List Edit) (target : SurfaceId) :
    last? (edits ++ later) target = (last? later target).or (last? edits target) := by
  unfold last?
  rw [List.filter_append, List.getLast?_append]

theorem last?_concat (edits : List Edit) (edit : Edit) (target : SurfaceId) :
    last? (edits ++ [edit]) target = if edit.target? = some target then some edit else last? edits target := by
  rw [last?_append]
  split_ifs with habout
  · simp [last?, habout]
  · simp [last?, habout]

/-- A target that was added, and not removed since, was added last. -/
theorem last?_added (hadded : edits[place]? = some (.addTarget target))
    (hkept : .removeTarget target ∉ edits.drop place) : last? edits target = some (.addTarget target) := by
  have hmem : .addTarget target ∈ edits.drop place := by
    obtain ⟨hlt, hedit⟩ := List.getElem?_eq_some_iff.mp hadded
    rw [List.drop_eq_getElem_cons hlt, hedit]
    exact List.mem_cons_self
  have hlast : last? (edits.drop place) target = some (.addTarget target) := by
    cases hfound : last? (edits.drop place) target with
    | none =>
      have hnone := List.getLast?_eq_none_iff.mp hfound
      exact absurd (decide_eq_true rfl) (List.filter_eq_nil_iff.mp hnone _ hmem)
    | some edit =>
      obtain ⟨hedit, habout⟩ := List.mem_filter.mp (List.mem_of_getLast? hfound)
      rcases eq_of_target? (of_decide_eq_true habout) with rfl | rfl
      · rfl
      · exact absurd hedit hkept
  have hsplit := last?_append (edits.take place) (edits.drop place) target
  rwa [List.take_append_drop, hlast] at hsplit

namespace Joined

theorem place_lt (h : Joined edits target place) : place < edits.length :=
  (List.getElem?_eq_some_iff.mp h.added).1

/-- Any edit but the removal of the target leaves the place where it joined. -/
theorem concat (h : Joined edits target place) (hedit : edit ≠ .removeTarget target) :
    Joined (edits ++ [edit]) target place := by
  have hlt := h.place_lt
  refine ⟨?_, ?_, ?_⟩
  · rw [List.getElem?_append_left hlt]
    exact h.added
  · intro earlier hearlier hadded
    rw [List.getElem?_append_left (Nat.lt_trans hearlier hlt)] at hadded
    rw [List.take_append_of_le_length (Nat.le_of_lt hlt)]
    exact h.first earlier hearlier hadded
  · rw [List.drop_append_of_le_length (Nat.le_of_lt hlt)]
    simpa using ⟨h.kept, hedit.symm⟩

/-- A target that is added when it was not added last joins with this edit. -/
theorem new (hlast : last? edits target ≠ some (.addTarget target)) :
    Joined (edits ++ [.addTarget target]) target edits.length := by
  refine ⟨List.getElem?_concat_length, ?_, ?_⟩
  · intro earlier hearlier hadded
    rw [List.getElem?_append_left hearlier] at hadded
    rw [List.take_left]
    by_contra hkept
    exact hlast (last?_added hadded hkept)
  · rw [List.drop_left]
    simp

/-- A target joins at one place only: what was added again later had been removed before. -/
theorem unique {place' : Nat} (h : Joined edits target place) (h' : Joined edits target place') :
    place = place' := by
  have hnot {m n : Nat} (hm : Joined edits target m) (hn : Joined edits target n) : ¬ m < n := by
    intro hlt
    have hremoved := hn.first m hlt hm.added
    rw [List.drop_take] at hremoved
    exact hm.kept (List.mem_of_mem_take hremoved)
  exact Nat.le_antisymm (Nat.not_lt.mp (hnot h' h)) (Nat.not_lt.mp (hnot h h'))

end Joined

/-- The targets are those that were added last, in the order in which they joined. -/
structure Arranged (edits : List Edit) (targets : List SurfaceId) : Prop where
  mem : ∀ id, id ∈ targets ↔ last? edits id = some (.addTarget id)
  joined : ∀ id ∈ targets, ∃ place, Joined edits id place
  order : targets.Pairwise fun a b => ∃ m n, Joined edits a m ∧ Joined edits b n ∧ m < n

namespace Arranged

variable {targets kept : List SurfaceId}

theorem blank : Arranged [] [] where
  mem _ := ⟨nofun, nofun⟩
  joined _ hid := absurd hid List.not_mem_nil
  order := .nil

/-- What stays among the targets keeps its place. -/
theorem keep (h : Arranged edits targets) (hkept : kept.Sublist targets)
    (hmem : ∀ id, id ∈ kept ↔ last? (edits ++ [edit]) id = some (.addTarget id)) :
    Arranged (edits ++ [edit]) kept := by
  have hstays {id : SurfaceId} (hid : id ∈ kept) : edit ≠ .removeTarget id := by
    rintro rfl
    have hlast := (hmem id).mp hid
    have habout : (removeTarget id).target? = some id := rfl
    rw [last?_concat, if_pos habout] at hlast
    cases hlast
  refine ⟨hmem, ?_, ?_⟩
  · intro id hid
    obtain ⟨place, hplace⟩ := h.joined id (hkept.subset hid)
    exact ⟨place, hplace.concat (hstays hid)⟩
  · refine (h.order.sublist hkept).imp_of_mem fun ha hb horder => ?_
    obtain ⟨m, n, hm, hn, hlt⟩ := horder
    exact ⟨m, n, hm.concat (hstays ha), hn.concat (hstays hb), hlt⟩

/-- An edit about no target leaves the targets alone. -/
theorem idle (h : Arranged edits targets) (hidle : edit.target? = none) : Arranged (edits ++ [edit]) targets := by
  refine h.keep (List.Sublist.refl targets) fun id => ?_
  rw [last?_concat, hidle, if_neg nofun]
  exact h.mem id

theorem remove (h : Arranged edits targets) (target : SurfaceId) :
    Arranged (edits ++ [.removeTarget target]) (targets.filter (· ≠ target)) := by
  refine h.keep List.filter_sublist fun id => ?_
  rw [last?_concat, List.mem_filter]
  by_cases hid : target = id
  · simp [target?, hid]
  · simp [target?, hid, Ne.symm hid, h.mem id]

/-- A target that is there already stays where it is. -/
theorem readd (h : Arranged edits targets) (hmem : target ∈ targets) :
    Arranged (edits ++ [.addTarget target]) targets := by
  refine h.keep (List.Sublist.refl targets) fun id => ?_
  rw [last?_concat, h.mem id]
  by_cases hid : target = id
  · subst hid
    simp [target?, (h.mem target).mp hmem]
  · simp [target?, hid]

/-- A new target goes to the end, where it has just joined. -/
theorem add (h : Arranged edits targets) (hnew : target ∉ targets) :
    Arranged (edits ++ [.addTarget target]) (targets ++ [target]) := by
  have hjoins : Joined (edits ++ [.addTarget target]) target edits.length :=
    .new fun hlast => hnew ((h.mem target).mpr hlast)
  refine ⟨?_, ?_, ?_⟩
  · intro id
    rw [last?_concat, List.mem_append, h.mem id]
    by_cases hid : target = id
    · simp [target?, hid]
    · simp [target?, hid, Ne.symm hid]
  · intro id hid
    rcases List.mem_append.mp hid with hold | hid
    · obtain ⟨place, hplace⟩ := h.joined id hold
      exact ⟨place, hplace.concat nofun⟩
    · cases List.mem_singleton.mp hid
      exact ⟨edits.length, hjoins⟩
  · refine List.pairwise_append.mpr ⟨?_, List.pairwise_singleton _ _, ?_⟩
    · refine h.order.imp fun horder => ?_
      obtain ⟨m, n, hm, hn, hlt⟩ := horder
      exact ⟨m, n, hm.concat nofun, hn.concat nofun, hlt⟩
    · intro a ha b hb
      cases List.mem_singleton.mp hb
      obtain ⟨place, hplace⟩ := h.joined a ha
      exact ⟨place, edits.length, hplace.concat nofun, hjoins, hplace.place_lt⟩

/-- Of two targets one joined earlier, so they differ. -/
theorem nodup (h : Arranged edits targets) : targets.Nodup := by
  refine h.order.imp fun horder => ?_
  obtain ⟨m, n, hm, hn, hlt⟩ := horder
  rintro rfl
  exact Nat.ne_of_lt hlt (hm.unique hn)

end Arranged

end Edit

namespace Workbench

variable {w : Workbench} {edits : List Edit}

/-- One edit more, and the targets are arranged by it too. -/
theorem edit_arranged (h : Edit.Arranged edits w.draft.targets) (edit : Edit) :
    Edit.Arranged (edits ++ [edit]) (w.edit edit).draft.targets := by
  cases edit with
  | addTarget target =>
    show Edit.Arranged _ (w.draft.addTarget target).targets
    unfold Draft.addTarget
    split_ifs with hmem
    · exact h.readd hmem
    · exact h.add hmem
  | removeTarget target => exact h.remove target
  | _ => exact h.idle rfl

theorem run_arranged (template : Template) (edits : List Edit) :
    Edit.Arranged edits (({ draft := .blank template } : Workbench).run edits).draft.targets := by
  induction edits using List.reverseRecOn with
  | nil => exact .blank
  | append_singleton edits edit ih =>
    unfold run at ih ⊢
    rw [List.foldl_append]
    exact edit_arranged ih edit

theorem edit_taken (w : Workbench) (edit : Edit) : w.taken <+: (w.edit edit).taken := by
  cases edit with
  | build => exact List.prefix_append _ _
  | _ => exact List.prefix_refl _

/-- What was taken stays as it was. -/
theorem run_taken (w : Workbench) (edits : List Edit) : w.taken <+: (w.run edits).taken := by
  induction edits generalizing w with
  | nil => exact List.prefix_refl _
  | cons edit edits ih => exact (w.edit_taken edit).trans (ih (w.edit edit))

/-- However a new draft is edited, its targets are those that were added last, each once and in the order in which
they joined. A request that is then taken stays as the draft was, whatever is edited later. -/
theorem targets_in_order_joined (template : Template) (edits : List Edit) :
    let w := ({ draft := .blank template } : Workbench).run edits
    w.draft.targets.Nodup ∧
      (∀ id, id ∈ w.draft.targets ↔ Edit.last? edits id = some (.addTarget id)) ∧
      (∀ id ∈ w.draft.targets, ∃! place, Edit.Joined edits id place) ∧
      (w.draft.targets.Pairwise fun a b =>
        ∃ m n, Edit.Joined edits a m ∧ Edit.Joined edits b n ∧ m < n) ∧
      ∀ later, w.taken ++ [w.draft.build] <+: (w.run (.build :: later)).taken := by
  intro w
  have harranged := run_arranged template edits
  refine ⟨harranged.nodup, harranged.mem, ?_, harranged.order, fun later => run_taken (w.edit .build) later⟩
  intro id hid
  obtain ⟨place, hplace⟩ := harranged.joined id hid
  exact ⟨place, hplace, fun other hother => hother.unique hplace⟩

/-- A target that was removed and is added again goes to the end. -/
example : (({ draft := .blank .preview } : Workbench).run [.addTarget 3, .addTarget 4, .build, .addTarget 3,
    .removeTarget 3, .addTarget 5, .addTarget 3]).draft.targets = [4, 5, 3] := rfl

end Workbench

end CameraControl
