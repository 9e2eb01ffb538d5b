import CameraControl.Proofs.Awaiting

/-!
The device that the simulator has open, from the controller's side. It is always the one opened last: still
to be delivered if any device is, and otherwise held. So with no device awaited or held none is open, and
nothing repeats. The calls that a message leads to change neither the listing nor what is armed, other than
to use it up.
-/
namespace CameraControl

/-- The device that was delivered or held, if it was the last one opened, is closed or held afterwards. -/
theorem Custody.Step.heir {δ τ : Type} {κ κ' : Custody δ} {message : Message δ τ}
    {failure : Option Failure} {accepted : List DeviceId} {closed : List δ} {device : δ}
    (h : κ.Step message failure accepted closed κ')
    (hdevice : message.delivered?.or κ.device = some device) :
    device ∈ closed ∨ κ'.device = some device := by
  cases h with
  | quiet hopening hrelease hdelivered =>
    rw [hdelivered] at hdevice
    exact Or.inr hdevice
  | forfeited hopening hrelease hdelivered =>
    rw [hdelivered] at hdevice
    exact Or.inl (Option.mem_toList.mpr hdevice)
  | alreadyOpen info hopening | disabled hopening | refused info hopening | accepted hopening =>
    rw [Message.opening_no_delivery hopening] at hdevice
    exact Or.inr hdevice
  | released hrelease =>
    rw [Message.release_no_delivery hrelease] at hdevice
    exact Or.inl (Option.mem_toList.mpr hdevice)
  | idle hrelease =>
    rw [Message.release_no_delivery hrelease] at hdevice
    exact Or.inr hdevice
  | stray hdelivered | broken info hdelivered =>
    rw [hdelivered] at hdevice
    exact Or.inl (List.mem_singleton.mpr (Option.some.inj hdevice).symm)
  | adopted hdelivered =>
    rw [hdelivered] at hdevice
    exact Or.inr hdevice
  | complained => exact Or.inr hdevice

/-- The device that was opened last, as far as the controller is concerned. -/
def Controller.newest {σ δ τ : Type} (c : Controller σ δ τ) : Option δ :=
  c.awaited.getLast?.or c.attached.device

namespace Simulator

/-- Nothing repeats without an open device. -/
def Still (s : Simulator) : Prop := s.openDevice = none → s.repeating = none

/-- No device is open and nothing repeats, as in a simulator that was just made. -/
structure AtRest (s : Simulator) : Prop where
  openDevice : s.openDevice = none
  repeating : s.repeating = none

/-- What holds of an empty simulator, and stays when a device is added, holds of one with any devices. -/
theorem withDevices_induct {P : Simulator → Prop} (hempty : P {})
    (hadd : ∀ s id characteristics, P s → P (s.addDeviceWith id characteristics)) (ids : List DeviceId) :
    P (withDevices ids) := by
  have hadded (rest : List DeviceId) (s : Simulator) (hs : P s) : P (rest.foldl addDevice s) := by
    induction rest generalizing s with
    | nil => exact hs
    | cons id rest ih => exact ih (s.addDevice id) (hadd s id _ hs)
  cases ids with
  | nil => exact hempty
  | cons first rest => exact hadded rest _ (hadd {} first _ hempty)

theorem withDevices_atRest (ids : List DeviceId) : (withDevices ids).AtRest :=
  withDevices_induct ⟨rfl, rfl⟩ (fun _ _ _ hs => ⟨hs.openDevice, hs.repeating⟩) ids

/-- What the calls of a talk came to. -/
structure Aftermath (s : Simulator) (xs : List (Exchange Device Session)) (s' : Simulator) : Prop where
  devices : s'.devices = s.devices
  armed : s'.armed ⊆ s.armed
  still : s.Still → s'.Still
  /-- A device that is open was opened last, or was open before and has not been closed. -/
  opened : ∀ id, s'.openDevice = some id →
    (xs.filterMap (·.accepted?)).getLast? = some id ∨
      (xs.filterMap (·.accepted?) = [] ∧ s.openDevice = some id ∧
        ∀ device ∈ xs.filterMap (·.closed?), device.id ≠ id)

namespace Aftermath

variable {s s' s'' : Simulator} {xs ys : List (Exchange Device Session)}

theorem silent (hdevices : s'.devices = s.devices) (harmed : s'.armed ⊆ s.armed)
    (hstill : s.Still → s'.Still) (hopen : s'.openDevice = s.openDevice) : Aftermath s [] s' := by
  refine ⟨hdevices, harmed, hstill, ?_⟩
  intro id hid
  exact Or.inr ⟨rfl, hopen ▸ hid, List.forall_mem_nil _⟩

theorem trans (hx : Aftermath s xs s') (hy : Aftermath s' ys s'') : Aftermath s (xs ++ ys) s'' := by
  refine ⟨hy.devices.trans hx.devices, List.Subset.trans hy.armed hx.armed, hy.still ∘ hx.still, ?_⟩
  intro id hid
  rw [List.filterMap_append, List.filterMap_append]
  rcases hy.opened id hid with hlast | ⟨hnone, hbefore, hkept⟩
  · left
    rw [List.getLast?_append, hlast]
    rfl
  · rw [hnone, List.append_nil]
    refine (hx.opened id hbefore).imp_right ?_
    rintro ⟨hfirst, hopen, hclosed⟩
    refine ⟨hfirst, hopen, ?_⟩
    intro device hdevice
    exact (List.mem_append.mp hdevice).elim (hclosed device) (hkept device)

end Aftermath

/-- An answer that neither opens nor closes a device. -/
structure Mild (s : Simulator) (a : Outcome) : Prop where
  devices : a.world.devices = s.devices
  armed : a.world.armed ⊆ s.armed
  still : s.Still → a.world.Still
  openDevice : a.world.openDevice = s.openDevice

namespace Mild

variable {s : Simulator} {a : Outcome}

theorem aftermath {q : Call Device Session} (h : Mild s a)
    (haccepted : Exchange.accepted? ⟨q, a.fault, a.posted⟩ = none)
    (hclosed : Exchange.closed? ⟨q, a.fault, a.posted⟩ = none) :
    Aftermath s [⟨q, a.fault, a.posted⟩] a.world := by
  refine ⟨h.devices, h.armed, h.still, ?_⟩
  intro id hid
  right
  rw [List.filterMap_cons_none haccepted, List.filterMap_cons_none hclosed]
  exact ⟨rfl, h.openDevice ▸ hid, List.forall_mem_nil _⟩

end Mild

section
variable (s : Simulator)

theorem disarm_subset (op : Operation) : (s.disarm op).armed ⊆ s.armed := List.filter_subset_self _

theorem result_mild (listener : Listener) : Mild s { world := (s.result listener).1 } := by
  unfold result
  split_ifs
  · exact ⟨rfl, disarm_subset _ _, id, rfl⟩
  · exact ⟨rfl, List.Subset.refl _, id, rfl⟩

theorem createSession_mild (device : Device) (surfaces : List SurfaceId) :
    Mild s (s.createSession device surfaces) := by
  unfold createSession
  dsimp only
  split_ifs
  · exact ⟨rfl, disarm_subset _ _, id, rfl⟩
  · exact ⟨rfl, disarm_subset _ _, id, rfl⟩
  · exact ⟨rfl, List.Subset.refl _, id, rfl⟩

theorem setRepeating_mild (session : Session) (request : Request) (listener : Listener) :
    Mild s (s.setRepeating session request listener) := by
  unfold setRepeating
  dsimp only
  split_ifs with hcurrent harmed hstarted
  · exact ⟨rfl, disarm_subset _ _, id, rfl⟩
  · exact ⟨rfl, List.Subset.refl _, fun _ hnone => absurd hnone hcurrent.1, rfl⟩
  · exact ⟨rfl, List.Subset.refl _, fun _ hnone => absurd hnone hcurrent.1, rfl⟩
  · exact ⟨rfl, List.Subset.refl _, id, rfl⟩

theorem stopRepeating_mild (session : Session) : Mild s (s.stopRepeating session) := by
  unfold stopRepeating
  split_ifs
  · exact ⟨rfl, disarm_subset _ _, id, rfl⟩
  · exact ⟨rfl, List.Subset.refl _, fun _ _ => rfl, rfl⟩
  · exact ⟨rfl, List.Subset.refl _, id, rfl⟩

theorem capture_mild (session : Session) (request : Request) (listener : Listener) :
    Mild s (s.capture session request listener) := by
  have hresult := (s.note (.capture request listener)).result_mild listener
  unfold capture
  split_ifs
  · exact ⟨rfl, disarm_subset _ _, id, rfl⟩
  · exact ⟨hresult.devices, hresult.armed, hresult.still, hresult.openDevice⟩
  · exact ⟨rfl, List.Subset.refl _, id, rfl⟩

theorem abortCaptures_mild (session : Session) : Mild s (s.abortCaptures session) := by
  unfold abortCaptures
  dsimp only
  split_ifs
  · exact ⟨rfl, disarm_subset _ _, id, rfl⟩
  · exact ⟨rfl, List.Subset.refl _, fun _ _ => rfl, rfl⟩
  · exact ⟨rfl, List.Subset.refl _, id, rfl⟩

theorem openFor_aftermath (id : DeviceId) :
    Aftermath s [⟨.openDevice id, (s.openFor id).fault, (s.openFor id).posted⟩] (s.openFor id).world := by
  unfold openFor
  dsimp only
  split_ifs with harmed hlisted
  · have hrefused : Mild s { world := (s.note (.openDevice id)).disarm .openDevice
                             fault := some (.inUse id) } :=
      ⟨rfl, disarm_subset _ _, fun hstill => hstill, rfl⟩
    exact hrefused.aftermath rfl rfl
  · refine ⟨rfl, List.Subset.refl _, fun _ hnone => absurd hnone (Option.some_ne_none id), ?_⟩
    intro id' hid
    exact Or.inl hid
  · have hunlisted : Mild s { world := s.note (.openDevice id)
                              fault := some (.disconnected id) } :=
      ⟨rfl, List.Subset.refl _, fun hstill => hstill, rfl⟩
    exact hunlisted.aftermath rfl rfl

theorem closeDevice_aftermath (device : Device) :
    Aftermath s [⟨.closeDevice device, (s.closeDevice device).fault, (s.closeDevice device).posted⟩]
      (s.closeDevice device).world := by
  unfold closeDevice
  dsimp only
  split_ifs with hopen
  · exact ⟨rfl, List.Subset.refl _, fun _ _ => rfl, fun _ hid => nomatch hid⟩
  · refine ⟨rfl, List.Subset.refl _, id, ?_⟩
    intro id hid
    refine Or.inr ⟨rfl, hid, List.forall_mem_singleton.mpr ?_⟩
    rintro rfl
    exact hopen hid

theorem answer_aftermath (q : Call Device Session) :
    Aftermath s [⟨q, (s.answer q).fault, (s.answer q).posted⟩] (s.answer q).world := by
  cases q with
  | openDevice id => exact openFor_aftermath s id
  | closeDevice device => exact closeDevice_aftermath s device
  | createSession device surfaces => exact (createSession_mild s device surfaces).aftermath rfl rfl
  | setRepeating session request listener =>
    exact (setRepeating_mild s session request listener).aftermath rfl rfl
  | stopRepeating session => exact (stopRepeating_mild s session).aftermath rfl rfl
  | capture session request listener =>
    exact (capture_mild s session request listener).aftermath rfl rfl
  | abortCaptures session => exact (abortCaptures_mild s session).aftermath rfl rfl

theorem draft_aftermath (device : Device) (template : Template) :
    Aftermath s [] (s.draft device template).1 := by
  unfold draft
  split_ifs
  · exact .silent rfl (disarm_subset _ _) id rfl
  · exact .silent rfl (List.Subset.refl _) id rfl

end

theorem talk_aftermath {s s' : Simulator} {xs : List (Exchange Device Session)} (h : Talk s xs s') :
    Aftermath s xs s' := by
  induction h with
  | done => exact .silent rfl (List.Subset.refl _) id rfl
  | @draft s' xs device template h ih =>
    have hdraft := ih.trans (draft_aftermath s' device template)
    rwa [List.append_nil] at hdraft
  | call q h ih => exact ih.trans (answer_aftermath _ q)

/-- By itself the simulator opens no device, and what repeats stops with its device. -/
theorem stir_still (s : Simulator) (stimulus : Stimulus) :
    (s.Still → (Spontaneous.stir s stimulus).1.Still) ∧
      ∀ id, (Spontaneous.stir s stimulus).1.openDevice = some id → s.openDevice = some id := by
  cases stimulus with
  | frame =>
    change (s.Still → s.emitFrame.1.Still) ∧ ∀ id, s.emitFrame.1.openDevice = some id → _
    unfold emitFrame
    split
    · next generation listener hrepeating =>
      have hresult := s.result_mild listener
      split_ifs
      · exact ⟨hresult.still, fun id hid => hresult.openDevice ▸ hid⟩
      · exact ⟨id, fun _ => id⟩
    · exact ⟨id, fun _ => id⟩
  | arm op =>
    change (s.Still → (s.arm op).Still) ∧ ∀ id, (s.arm op).openDevice = some id → _
    unfold arm
    split_ifs <;> exact ⟨id, fun _ => id⟩
  | disconnect => exact ⟨fun _ _ => rfl, fun _ hid => nomatch hid⟩
  | _ => exact ⟨id, fun _ => id⟩

theorem AtRest.stir {s : Simulator} (hs : s.AtRest) (stimulus : Stimulus) :
    (Spontaneous.stir s stimulus).1.AtRest := by
  obtain ⟨hstill, hopen⟩ := stir_still s stimulus
  have hnone : (Spontaneous.stir s stimulus).1.openDevice = none := by
    by_contra hsome
    obtain ⟨id, hid⟩ := Option.ne_none_iff_exists'.mp hsome
    cases hs.openDevice.symm.trans (hopen id hid)
  exact ⟨hnone, hstill (fun _ => hs.repeating) hnone⟩

/-- The controller knows of the device that is open. -/
structure Known (r : Run Simulator Device Session) : Prop where
  newest : ∀ id, r.now.subsystem.openDevice = some id →
    ∃ device, r.now.newest = some device ∧ device.id = id
  still : r.now.subsystem.Still

theorem known_meanwhile (r : Run Simulator Device Session) (move : Move) (hr : Known r) :
    Known { r with now := r.now.meanwhile move } := by
  obtain ⟨hawaited, -⟩ := meanwhile_opened r.now move
  have hnewest : (r.now.meanwhile move).newest = r.now.newest := by
    unfold Controller.newest
    rw [hawaited]
    cases move <;> rfl
  cases move with
  | stir stimulus =>
    obtain ⟨hstill, hopen⟩ := stir_still r.now.subsystem stimulus
    refine ⟨?_, hstill hr.still⟩
    intro id hid
    show ∃ device, (r.now.meanwhile _).newest = some device ∧ _
    rw [hnewest]
    exact hr.newest id (hopen id hid)
  | _ => exact ⟨fun id hid => hnewest ▸ hr.newest id hid, hr.still⟩

variable {h : Handled Simulator Device Session} {past : List (Handled Simulator Device Session)}

theorem known_handle (htenured : Run.Tenured ⟨h.before, past⟩) (hr : Known (Run.before h past)) :
    Known ⟨h.after, h :: past⟩ := by
  obtain ⟨hstep, htalk, -⟩ := h.steps htenured.held
  have haftermath := talk_aftermath htalk
  refine ⟨?_, haftermath.still hr.still⟩
  intro id hid
  show ∃ device, h.after.awaited.getLast?.or h.after.attached.device = some device ∧ device.id = id
  rcases haftermath.opened id hid with hlast | ⟨hnone, hopen, hkept⟩
  · rw [← (talk_mints htalk).ids, List.getLast?_map] at hlast
    obtain ⟨device, hdevice, hsame⟩ := Option.map_eq_some_iff.mp hlast
    rw [Handled.after_awaited htenured.held, List.getLast?_append, hdevice]
    exact ⟨device, rfl, hsame⟩
  · obtain ⟨device, hnewest, hsame⟩ := hr.newest id hopen
    refine ⟨device, ?_, hsame⟩
    rw [after_awaited_none htenured hnone]
    change (Run.before h past).now.awaited.getLast?.or h.before.attached.device = some device
      at hnewest
    rw [Run.before_awaited, List.getLast?_append] at hnewest
    cases hawaited : h.before.awaited.getLast? with
    | some last =>
      rw [hawaited] at hnewest
      exact hnewest
    | none =>
      have hdelivered : h.message.delivered?.toList.getLast? = h.message.delivered? := by
        cases h.message.delivered? <;> rfl
      rw [hawaited, hdelivered, Option.none_or] at hnewest
      exact (hstep.heir hnewest).resolve_left fun hclosed => hkept device hclosed hsame

theorem known (world : Simulator) (hrest : world.AtRest) (roster : Roster) (historySize : Nat)
    (moves : List Move) :
    ((Run.start world roster historySize).run moves).Tenured ∧
      Known ((Run.start world roster historySize).run moves) ∧
      ((Run.start world roster historySize).run moves).Throughout fun r => r.Tenured ∧ Known r := by
  refine Run.invariant_tenured Known (fun _ => True) (fun r move _ hr => known_meanwhile r move hr)
    (fun h past htenured hr => known_handle htenured hr) world roster historySize
    (fun move (_ : move ∈ moves) => trivial) ⟨?_, fun _ => hrest.repeating⟩
  intro id hid
  cases hrest.openDevice.symm.trans hid

/-- With no device awaited or held, none is open and nothing repeats. -/
theorem Known.atRest {r : Run Simulator Device Session} (hr : Known r) (hawaited : r.now.awaited = [])
    (hdevice : r.now.attached.device = none) : r.now.subsystem.AtRest := by
  have hnone : r.now.subsystem.openDevice = none := by
    by_contra hopen
    obtain ⟨id, hid⟩ := Option.ne_none_iff_exists'.mp hopen
    obtain ⟨device, hnewest, -⟩ := hr.newest id hid
    unfold Controller.newest at hnewest
    rw [hawaited, hdevice] at hnewest
    cases hnewest
  exact ⟨hnone, hr.still hnone⟩

end Simulator

end CameraControl
