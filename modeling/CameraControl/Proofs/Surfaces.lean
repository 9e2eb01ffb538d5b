import CameraControl.Proofs.Rigging
import CameraControl.Proofs.Submissions

/-!
The surfaces of preview textures. Whatever is handled, a surface is in use exactly as long as it is bound.
The draft has no other target, so nothing that is asked of the camera names another surface, and once the
camera is given up all of them are released.
-/
namespace CameraControl

namespace Canvas

/-- The surface was made and is not released. -/
def inUse (c : Canvas) (id : SurfaceId) : Bool := (c.surface? id).any (!·.released)

section
variable (c : Canvas) (id : SurfaceId)

theorem inUse_resize (texture : TextureId) (size : Size) :
    (c.resize texture size).inUse id = c.inUse id := by
  cases texture <;> cases id <;> rfl

theorem surface_addSurface (texture : TextureId) :
    (c.addSurface texture).1.surface? id =
      if id = (c.addSurface texture).2 then some { texture } else c.surface? id := by
  cases id with
  | zero => rfl
  | succ n =>
    simp only [surface?, addSurface, List.getElem?_append, List.getElem?_singleton]
    grind

theorem surface_release (surface : SurfaceId) :
    (c.release surface).surface? id =
      (c.surface? id).map fun x => if id = surface then { x with released := true } else x := by
  cases id with
  | zero => cases surface <;> rfl
  | succ n =>
    cases surface with
    | zero => simp [surface?, release]
    | succ m => simp [surface?, release, List.getElem?_modify, eq_comm]

theorem surface_new (texture : TextureId) : c.surface? (c.addSurface texture).2 = none :=
  List.getElem?_eq_none (Nat.le_refl _)

theorem length_resize (texture : TextureId) (size : Size) :
    (c.resize texture size).surfaces.length = c.surfaces.length := by
  cases texture <;> rfl

theorem length_release : (c.release id).surfaces.length = c.surfaces.length := by
  cases id with
  | zero => rfl
  | succ n => exact List.length_modify _ _ _

theorem inUse_addSurface (texture : TextureId) :
    (c.addSurface texture).1.inUse id ↔ c.inUse id ∨ id = (c.addSurface texture).2 := by
  unfold inUse
  rw [surface_addSurface]
  by_cases hnew : id = (c.addSurface texture).2
  · rw [if_pos hnew]
    exact iff_of_true rfl (Or.inr hnew)
  · rw [if_neg hnew, or_iff_left hnew]

theorem inUse_release (surface : SurfaceId) :
    (c.release surface).inUse id ↔ c.inUse id ∧ id ≠ surface := by
  unfold inUse
  rw [surface_release]
  by_cases hsame : id = surface <;> cases c.surface? id <;> simp [hsame]

end

end Canvas

namespace Draft

variable (d : Draft)

theorem targets_addTarget (hnone : d.targets = []) (surface : SurfaceId) :
    (d.addTarget surface).targets = [surface] := by
  have hother : surface ∉ d.targets := hnone ▸ List.not_mem_nil
  have hadded : (d.addTarget surface).targets = d.targets ++ [surface] :=
    congrArg targets (if_neg hother)
  rw [hadded, hnone]
  rfl

theorem targets_merge (s : Settings) (array : Rect) : (d.merge s array).targets = d.targets := by
  unfold merge mergeFlash mergeScene
  split_ifs <;> rfl

end Draft

/-- The surfaces that the call names. -/
def Call.surfaces {δ τ : Type} : Call δ τ → List SurfaceId
  | createSession _ surfaces => surfaces
  | setRepeating _ request _ | capture _ request _ => request.targets
  | _ => []

namespace Rig

section
variable {σ δ τ : Type}

/-- The surface that is bound is the only one in use, and the only one that a draft can name. -/
structure Framed (k : Rig σ δ τ) : Prop where
  inUse : ∀ id, k.canvas.inUse id ↔ k.surface = some id
  targets : ∀ draft, k.draft = some draft → draft.targets ⊆ k.surface.toList
  unopened : k.stage = .unopened → k.surface = none

namespace Framed

variable {k : Rig σ δ τ}

theorem release (hk : k.Framed) (id : SurfaceId) : ¬ k.releaseSurface.canvas.inUse id := by
  intro hused
  unfold releaseSurface at hused
  cases hsurface : k.surface with
  | none =>
    rw [hsurface] at hused
    cases hsurface.symm.trans ((hk.inUse id).mp hused)
  | some surface =>
    rw [hsurface] at hused
    obtain ⟨hbefore, hother⟩ := (k.canvas.inUse_release id surface).mp hused
    have hbound : k.surface = some id := (hk.inUse id).mp hbefore
    exact hother (Option.some.inj (hbound.symm.trans hsurface))

/-- A draft has no target left when the surface that is bound is taken out. -/
theorem targets_removed (hk : k.Framed) {draft : Draft} (hdraft : k.draft = some draft) :
    ((k.surface.map draft.removeTarget).getD draft).targets = [] := by
  have htargets := hk.targets draft hdraft
  cases hsurface : k.surface with
  | none =>
    rw [hsurface] at htargets
    exact List.subset_nil.mp htargets
  | some surface =>
    rw [hsurface] at htargets
    refine List.filter_eq_nil_iff.mpr ?_
    intro id hid
    simp [List.mem_singleton.mp (htargets hid)]

theorem bind (hk : k.Framed) (hstage : k.stage ≠ .unopened) (texture : TextureId) (size : Size)
    {draft : Draft} (hdraft : k.draft = some draft) : (k.bind texture size draft).Framed := by
  have hresized : Framed { k with canvas := k.canvas.resize texture size } :=
    { hk with inUse := fun id => by rw [k.canvas.inUse_resize, hk.inUse] }
  have htargets := hk.targets_removed hdraft
  have hkept := k.bind_stage texture size draft
  refine ⟨?_, ?_, fun hunopened => absurd (hkept.symm.trans hunopened) hstage⟩
  · intro id
    unfold Rig.bind
    dsimp only
    rw [Canvas.inUse_addSurface, or_iff_right (hresized.release id), Option.some.injEq, eq_comm]
  · unfold Rig.bind
    intro bound hbound
    cases hbound
    rw [Draft.targets_addTarget _ htargets]
    exact List.Subset.refl _

theorem enter (hk : k.Framed) {stage : Stage} (hstage : stage ≠ .unopened) :
    Framed { k with stage } :=
  { hk with unopened := fun hunopened => absurd hunopened hstage }

theorem edit (hk : k.Framed) {draft : Draft} (hdraft : k.draft = some draft) (edited : Draft)
    (hsame : edited.targets = draft.targets) : Framed { k with draft := some edited } := by
  refine { hk with targets := ?_ }
  intro draft' hdraft'
  cases hdraft'
  rw [hsame]
  exact hk.targets draft hdraft

theorem vacate (hk : k.Framed) : k.releaseSurface.vacate.Framed := by
  refine ⟨?_, ?_, fun _ => rfl⟩
  · intro id
    exact iff_of_false (hk.release id) (Option.some_ne_none id).symm
  · intro draft hdraft
    cases hdraft

variable [Subsystem σ δ τ]

theorem call (hk : k.Framed) (q : Call δ τ) : (k.call q).Framed := { hk with }

theorem submit (hk : k.Framed) (q : Call δ τ) {accepted refused : Stage}
    (haccepted : accepted ≠ .unopened) (hrefused : refused ≠ .unopened) :
    (k.submit q accepted refused).Framed := by
  unfold Rig.submit
  split_ifs
  · exact (hk.call q).enter haccepted
  · exact (hk.call q).enter hrefused

theorem submitTrigger (hk : k.Framed) {draft : Draft} (hdraft : k.draft = some draft) (session : τ)
    (trigger : Trigger) (listener : Listener) {accepted refused : Stage}
    (haccepted : accepted ≠ .unopened) (hrefused : refused ≠ .unopened) :
    (k.submitTrigger session draft trigger listener accepted refused).Framed :=
  (hk.edit hdraft ((draft.withTrigger trigger).withTrigger .idle) rfl).submit _ haccepted hrefused

theorem closeDevice (hk : k.Framed) : k.closeDevice.Framed := by
  unfold Rig.closeDevice
  split
  · exact { hk with }
  · exact hk

theorem closeSession (hk : k.Framed) : k.closeSession.Framed := by
  unfold Rig.closeSession
  split
  · exact { hk with unopened := fun hunopened => nomatch hunopened }
  · exact hk

theorem createSession (hk : k.Framed) : k.createSession.Framed := by
  unfold Rig.createSession
  split
  · exact hk.call _
  · exact hk

/-- Every message keeps a surface in use exactly as long as it is bound. -/
theorem step {message : Message δ τ} {k' : Rig σ δ τ} (hfresh : Subsystem.Fresh σ) (hk : k.Framed)
    (h : k.Step message k') : k'.Framed := by
  have hopen {k : Rig σ δ τ} {stage : Stage} (hstage : stage ≤ k.stage) (hne : stage ≠ .unopened) :
      k.stage ≠ .unopened := Stage.ne_unopened (Stage.not_lt.mpr hstage) hne
  cases h with
  | still | kept => exact hk
  | asked | stray | discarded => exact hk.call _
  | failed => exact hk.closeDevice
  | released => exact hk.closeSession.closeDevice.vacate
  | @bound texture size draft hstage htexture hdraft =>
    have hclosed := k.closeSession_configured hstage
    have hkept : k.closeSession.draft = some draft := k.closeSession_draft.trans hdraft
    exact (hk.closeSession.bind (hopen hclosed (by decide)) _ size hkept).createSession
  | started => exact hk.submit _ (by decide) (by decide)
  | stopped hstage => exact hk.submit _ (by decide) (hopen hstage (by decide))
  | applied array hstage hidle hdraft =>
    refine (hk.edit hdraft _ (Draft.targets_merge _ _ _)).enter ?_
    split_ifs
    · decide
    · exact hstage
  | resubmitted array hstage hsession hdraft =>
    exact (hk.edit hdraft _ (Draft.targets_merge _ _ _)).call _
  | focusing hstage hsession hdraft | unlocking hstage hsession hdraft =>
    exact hk.submitTrigger hdraft _ _ _ (by decide) (by decide)
  | adopted hdraft =>
    refine ⟨hk.inUse, ?_, fun hunopened => nomatch hunopened⟩
    intro draft hsome
    cases hsome
    rw [hfresh _ _ _ _ hdraft]
    exact List.nil_subset _
  | broken => exact { hk with }
  | configured hstage => exact { hk with unopened := fun hunopened => nomatch hunopened }

end Framed

variable {k k' : Rig σ δ τ}

theorem bind_surface (texture : TextureId) (size : Size) (draft : Draft) :
    (k.bind texture size draft).surface = some (k.canvas.addSurface texture).2 := by
  have hlength : { k with canvas := k.canvas.resize texture size }.releaseSurface.canvas.surfaces.length =
      k.canvas.surfaces.length := by
    unfold releaseSurface
    split
    · exact (Canvas.length_release _ _).trans (Canvas.length_resize _ _ _)
    · exact Canvas.length_resize _ _ _
  exact congrArg (some <| · + 1) hlength

variable [Subsystem σ δ τ]

/-- A surface that is bound after a message was bound before, or is new. -/
theorem Step.surface {message : Message δ τ} {id : SurfaceId} (h : k.Step message k')
    (hid : k'.surface = some id) : k.surface = some id ∨ k.canvas.surface? id = none := by
  cases h with
  | released => cases hid
  | failed =>
    rw [closeDevice_surface] at hid
    exact Or.inl hid
  | bound =>
    rw [createSession_surface, bind_surface, closeSession_canvas] at hid
    cases hid
    exact Or.inr (Canvas.surface_new _ _)
  | _ => exact Or.inl hid

end

section
variable {σ δ τ : Type} {k k' k'' : Rig (Recorded σ δ τ) δ τ} {ids : List SurfaceId}

/-- From one recorded rig to the next no call names a surface but these. -/
def Names (ids : List SurfaceId) (k k' : Rig (Recorded σ δ τ) δ τ) : Prop :=
  ∃ xs, k'.world.record = k.world.record ++ xs ∧ ∀ x ∈ xs, x.call.surfaces ⊆ ids

theorem Names.silent (hrecord : k'.world.record = k.world.record) : Names ids k k' :=
  ⟨[], hrecord.trans (List.append_nil _).symm, List.forall_mem_nil _⟩

theorem Names.trans (h : Names ids k k') (h' : Names ids k' k'') : Names ids k k'' := by
  obtain ⟨xs, hrecord, hxs⟩ := h
  obtain ⟨ys, hrecord', hys⟩ := h'
  refine ⟨xs ++ ys, by rw [hrecord', hrecord, List.append_assoc], ?_⟩
  intro x hx
  exact (List.mem_append.mp hx).elim (hxs x) (hys x)

theorem Names.releaseSurface : Names ids k k.releaseSurface := by
  unfold Rig.releaseSurface
  split <;> exact .silent rfl

theorem Names.bind (texture : TextureId) (size : Size) (draft : Draft) :
    Names ids k (k.bind texture size draft) := by
  have hresized : Names ids k { k with canvas := k.canvas.resize texture size } := .silent rfl
  exact hresized.trans (Names.releaseSurface.trans (.silent rfl))

variable [Subsystem σ δ τ]

theorem Names.call {q : Call δ τ} (hq : q.surfaces ⊆ ids) : Names ids k (k.call q) :=
  ⟨[_], rfl, List.forall_mem_singleton.mpr hq⟩

theorem Names.closeDevice : Names ids k k.closeDevice := by
  unfold Rig.closeDevice
  split
  · exact .call (List.nil_subset _)
  · exact .silent rfl

theorem Names.closeSession : Names ids k k.closeSession := by
  unfold Rig.closeSession
  split
  · exact .call (List.nil_subset _)
  · exact .silent rfl

theorem Names.createSession : Names k.createSession.surface.toList k k.createSession := by
  unfold Rig.createSession
  split
  · next device surface hdevice hsurface =>
    refine .call ?_
    show [surface] ⊆ k.surface.toList
    rw [hsurface]
    exact List.Subset.refl _
  · exact .silent rfl

/-- No call names a surface but the one that is bound. -/
theorem Framed.names {message : Message δ τ} (hk : k.Framed) (h : k.Step message k') :
    Names k'.surface.toList k k' := by
  cases h with
  | still | kept | applied | adopted | configured => exact .silent rfl
  | asked | stray | discarded => exact .call (List.nil_subset _)
  | failed => exact .closeDevice
  | released => exact .trans .closeSession (.trans .closeDevice (.trans .releaseSurface (.silent rfl)))
  | bound size hstage htexture hdraft =>
    exact Names.closeSession.trans ((Names.bind _ size _).trans Names.createSession)
  | started hstage hsession hdraft => exact .call (hk.targets _ hdraft)
  | stopped => exact .call (List.nil_subset _)
  | @resubmitted settings array session draft hstage hsession hdraft =>
    have htargets : (draft.merge settings array).targets ⊆ k.surface.toList := by
      rw [Draft.targets_merge]
      exact hk.targets draft hdraft
    exact .call htargets
  | @focusing callback session draft hstage hsession hdraft =>
    exact .call (hk.targets draft hdraft)
  | @unlocking session draft hstage hsession hdraft => exact .call (hk.targets draft hdraft)
  | broken => exact .call (List.nil_subset _)

end

end Rig

namespace Run

variable {ε σ δ τ : Type}

theorem framed_meanwhile [Spontaneous ε σ δ τ] (r : Run σ δ τ) (move : Move ε)
    (hr : r.now.rig.Framed) : (r.now.meanwhile move).rig.Framed := by
  cases move <;> exact { hr with }

variable [Subsystem σ δ τ]

theorem framed_handle {h : Handled σ δ τ} {past : List (Handled σ δ τ)}
    (hfresh : Subsystem.Fresh σ) (htenured : Tenured ⟨h.before, past⟩)
    (hr : (before h past).now.rig.Framed) : h.after.rig.Framed := by
  have hbefore : h.before.rig.Framed := { hr with }
  exact hbefore.step hfresh (Handled.rigged htenured)

variable [Spontaneous ε σ δ τ]

/-- In every run the surface that is bound is in use, and all others that were ever made are released. A
surface that is named when a session is created or a request is submitted is the one that is bound after
the message: it was bound before, or is new. -/
theorem in_use_iff_bound (hfresh : Subsystem.Fresh σ) (world : σ) (roster : Roster)
    (historySize : Nat) (moves : List (Move ε)) :
    let r := (start world roster historySize).run moves
    (∀ id, r.now.canvas.inUse id ↔ r.now.attached.surface = some id) ∧
      (r.now.stage = .unopened → ∀ id, ¬ r.now.canvas.inUse id) ∧
      ∀ h past, (h :: past) <:+ r.past →
        ∀ x ∈ h.recorded.subsystem.record, ∀ id ∈ x.call.surfaces,
          h.after.attached.surface = some id ∧ h.after.canvas.inUse id ∧
            (h.before.attached.surface = some id ∨ h.before.canvas.surface? id = none) := by
  intro r
  have hstart : (start world roster historySize : Run σ δ τ).now.rig.Framed := by
    refine ⟨?_, fun draft hdraft => (nomatch hdraft), fun _ => rfl⟩
    intro id
    cases id <;> exact iff_of_false Bool.false_ne_true (fun hbound => nomatch hbound)
  obtain ⟨-, hr, hbefore⟩ := invariant_tenured (fun r => r.now.rig.Framed) (fun _ => True)
    (fun r move _ hr => framed_meanwhile r move hr)
    (fun h past htenured hr => framed_handle hfresh htenured hr) world roster historySize
    (fun move (_ : move ∈ moves) => trivial) hstart
  refine ⟨hr.inUse, ?_, ?_⟩
  · intro hstage id hused
    cases (hr.unopened hstage).symm.trans ((hr.inUse id).mp hused)
  · intro h past hsuffix x hx id hid
    obtain ⟨htenured, hframed⟩ := hbefore h past hsuffix
    have htenured : Tenured ⟨h.before, past⟩ := { htenured with }
    have hrecorded : h.before.recorded.rig.Framed := { hframed with }
    have hstep : h.before.recorded.rig.Step h.message h.recorded.rig :=
      Handled.recorded_rigged htenured
    obtain ⟨xs, hrecord, hnames⟩ := hrecorded.names hstep
    have hsame : h.recorded.subsystem.record = xs := hrecord
    have hbound : h.recorded.rig.surface = some id :=
      Option.mem_toList.mp (hnames x (hsame ▸ hx) hid)
    have hafter : h.after.attached.surface = some id := by
      rw [← Handled.recorded_attached]
      exact hbound
    exact ⟨hafter, ((framed_handle hfresh htenured hframed).inUse id).mpr hafter, hstep.surface hbound⟩

/-- A preview moves to another texture. Then its device is closed, and a third texture cannot be used. -/
def movedMoves : List Simulator.Move :=
  [.install 0, .ask (.openCamera 0 0), .handle, .handle, .addTexture, .addTexture, .addTexture,
    .ask (.applySettings { preview := ⟨640, 480⟩, photo := ⟨640, 480⟩ }), .handle,
    .ask (.setPreviewTexture 1), .handle, .handle, .ask (.startPreview none), .handle, .handle,
    .ask (.setPreviewTexture 2), .handle, .handle, .ask (.startPreview none), .handle, .handle,
    .ask .lock, .handle, .ask (.setPreviewTexture 3), .handle]

theorem moved_in_use : Subsystem.Fresh Simulator ∧
    let r := Simulator.run movedMoves
    r.now.canvas.surfaces.map (·.released) = [true, true, false] ∧
      (r.past.head?.bind (·.failure?)).isSome ∧ (∀ id, r.now.canvas.inUse id ↔ some 3 = some id) ∧
      ∃ h past, (h :: past) <:+ r.past ∧ ∃ x ∈ h.recorded.subsystem.record, x.call.surfaces = [2] ∧
        h.after.attached.surface = some 2 ∧ h.after.canvas.inUse 2 := by
  obtain ⟨hbound, -, hnamed⟩ := in_use_iff_bound Simulator.fresh (Simulator.withDevices ["0", "1"])
    (Roster.empty.update ["0", "1"]) 20 movedMoves
  have hsuffix := List.drop_suffix 3 (Simulator.run movedMoves).past
  obtain ⟨hafter, hused, -⟩ :=
    hnamed _ _ hsuffix _ (List.mem_singleton_self _) 2 (List.mem_singleton_self _)
  exact ⟨Simulator.fresh, rfl, rfl, hbound, _, _, hsuffix, _, List.mem_singleton_self _, rfl, hafter,
    hused⟩

end Run

end CameraControl
