import Mathlib.Data.List.Nodup
import CameraControl.Proofs.Tenure

/-!
Openings of the simulator are numbered, and each one is announced once, by an event with the next number.
Nothing else that the simulator is told or does by itself announces a device. Events are handled in the
order in which they were posted, so the devices that were delivered, and those that wait to be, have
consecutive numbers: no device is ever delivered twice.
-/
namespace CameraControl

/-- The devices that the events posted in a talk announce. -/
def openedBy {δ τ : Type} (xs : List (Exchange δ τ)) : List δ :=
  (xs.flatMap (·.posted)).filterMap (·.opened?)

namespace Event

variable {δ τ : Type}

/-- The event neither announces a device nor complains about one. -/
def isMute : Event δ τ → Bool
  | opened _ => false
  | deviceError _ => false
  | _ => true

theorem opened_of_mute {event : Event δ τ} (hmute : event.isMute) : event.opened? = none := by
  cases event <;> first | rfl | cases hmute

end Event

namespace Simulator

/-- The calls of a talk had openings numbered and announced. -/
structure Mints (s : Simulator) (xs : List (Exchange Device Session)) (s' : Simulator) : Prop where
  openings : s'.openings = s.openings + (openedBy xs).length
  serials : (openedBy xs).map (·.serial) = List.range' s.openings (openedBy xs).length
  ids : (openedBy xs).map (·.id) = xs.filterMap (·.accepted?)
  /-- A device error is never an answer to a call. -/
  errorless : ∀ code, .deviceError code ∉ xs.flatMap (·.posted)

namespace Mints

variable {s s' s'' : Simulator} {xs ys : List (Exchange Device Session)}

theorem silent (hopenings : s'.openings = s.openings) : Mints s [] s' :=
  ⟨hopenings, rfl, rfl, fun _ => List.not_mem_nil⟩

theorem trans (hx : Mints s xs s') (hy : Mints s' ys s'') : Mints s (xs ++ ys) s'' := by
  have hopened : openedBy (xs ++ ys) = openedBy xs ++ openedBy ys := by
    unfold openedBy
    rw [List.flatMap_append, List.filterMap_append]
  refine ⟨?_, ?_, ?_, ?_⟩
  · rw [hopened, List.length_append, hy.openings, hx.openings, Nat.add_assoc]
  · rw [hopened, List.map_append, hx.serials, hy.serials, hx.openings, List.length_append,
      List.range'_append_1]
  · rw [hopened, List.map_append, hx.ids, hy.ids, List.filterMap_append]
  · intro code hmem
    rw [List.flatMap_append] at hmem
    cases List.mem_append.mp hmem with
    | inl hmem => exact hx.errorless code hmem
    | inr hmem => exact hy.errorless code hmem

end Mints

/-- An answer with which no device is opened or complained about. -/
structure Idle (s : Simulator) (a : Outcome) : Prop where
  openings : a.world.openings = s.openings
  mute : ∀ event ∈ a.posted, event.isMute

namespace Idle

variable {s s' : Simulator} {fault : Option Fault}

theorem silent (hopenings : s'.openings = s.openings) : Idle s { world := s', fault } :=
  ⟨hopenings, List.forall_mem_nil _⟩

theorem posting {event : Event Device Session} (hopenings : s'.openings = s.openings)
    (hmute : event.isMute) : Idle s { world := s', fault, posted := [event] } :=
  ⟨hopenings, List.forall_mem_singleton.mpr hmute⟩

theorem mints {a : Outcome} {q : Call Device Session} (h : Idle s a)
    (haccepted : Exchange.accepted? ⟨q, a.fault, a.posted⟩ = none) :
    Mints s [⟨q, a.fault, a.posted⟩] a.world := by
  have hposted : [(⟨q, a.fault, a.posted⟩ : Exchange Device Session)].flatMap (·.posted) =
      a.posted := List.flatMap_singleton ..
  have hopened : openedBy [⟨q, a.fault, a.posted⟩] = [] := by
    apply List.filterMap_eq_nil_iff.mpr
    intro event hevent
    rw [hposted] at hevent
    exact Event.opened_of_mute (h.mute event hevent)
  constructor
  · rw [hopened]
    exact h.openings
  · rw [hopened]
    rfl
  · rw [hopened, List.filterMap_cons, haccepted]
    rfl
  · intro code hmem
    rw [hposted] at hmem
    cases h.mute _ hmem

end Idle

section
variable (s : Simulator)

theorem result_mute (listener : Listener) :
    (s.result listener).1.openings = s.openings ∧ (s.result listener).2.isMute := by
  unfold result
  split_ifs <;> exact ⟨rfl, rfl⟩

theorem closeDevice_idle (device : Device) : Idle s (s.closeDevice device) := by
  unfold closeDevice
  dsimp only
  split_ifs <;> exact .silent rfl

theorem createSession_idle (device : Device) (surfaces : List SurfaceId) :
    Idle s (s.createSession device surfaces) := by
  unfold createSession
  dsimp only
  split_ifs
  · exact .silent rfl
  · exact .posting rfl rfl
  · exact .posting rfl rfl

theorem setRepeating_idle (session : Session) (request : Request) (listener : Listener) :
    Idle s (s.setRepeating session request listener) := by
  unfold setRepeating
  dsimp only
  split_ifs
  · exact .silent rfl
  · exact .silent rfl
  · exact .posting rfl rfl
  · exact .silent rfl

theorem stopRepeating_idle (session : Session) : Idle s (s.stopRepeating session) := by
  unfold stopRepeating
  split_ifs <;> exact .silent rfl

theorem capture_idle (session : Session) (request : Request) (listener : Listener) :
    Idle s (s.capture session request listener) := by
  obtain ⟨hopenings, hmute⟩ := (s.note (.capture request listener)).result_mute listener
  unfold capture
  split_ifs
  · exact .silent rfl
  · exact .posting hopenings hmute
  · exact .silent rfl

theorem abortCaptures_idle (session : Session) : Idle s (s.abortCaptures session) := by
  unfold abortCaptures
  dsimp only
  split_ifs <;> exact .silent rfl

theorem openFor_mints (id : DeviceId) :
    Mints s [⟨.openDevice id, (s.openFor id).fault, (s.openFor id).posted⟩] (s.openFor id).world := by
  unfold openFor
  dsimp only
  split_ifs with harmed hlisted
  · have hrefused : Idle s { world := (s.note (.openDevice id)).disarm .openDevice
                             fault := some (.inUse id) } := .silent rfl
    exact hrefused.mints rfl
  · exact ⟨rfl, rfl, rfl, by simp⟩
  · have hunlisted : Idle s { world := s.note (.openDevice id)
                              fault := some (.disconnected id) } := .silent rfl
    exact hunlisted.mints rfl

theorem answer_mints (q : Call Device Session) :
    Mints s [⟨q, (s.answer q).fault, (s.answer q).posted⟩] (s.answer q).world := by
  cases q with
  | openDevice id => exact openFor_mints s id
  | closeDevice device => exact (closeDevice_idle s device).mints rfl
  | createSession device surfaces => exact (createSession_idle s device surfaces).mints rfl
  | setRepeating session request listener =>
    exact (setRepeating_idle s session request listener).mints rfl
  | stopRepeating session => exact (stopRepeating_idle s session).mints rfl
  | capture session request listener => exact (capture_idle s session request listener).mints rfl
  | abortCaptures session => exact (abortCaptures_idle s session).mints rfl

end

theorem talk_mints {s s' : Simulator} {xs : List (Exchange Device Session)} (h : Talk s xs s') :
    Mints s xs s' := by
  induction h with
  | done => exact .silent rfl
  | @draft s' xs device template h ih =>
    have hdraft : (s'.draft device template).1.openings = s'.openings := by
      unfold draft
      split_ifs <;> rfl
    have hminted := ih.trans (.silent hdraft)
    rwa [List.append_nil] at hminted
  | call q h ih => exact ih.trans (answer_mints _ q)

section
variable (s : Simulator)

theorem emitFrame_idle : Idle s { world := s.emitFrame.1, posted := s.emitFrame.2 } := by
  unfold emitFrame
  split
  · next generation listener hrepeating =>
    obtain ⟨hopenings, hmute⟩ := s.result_mute listener
    split_ifs
    · exact .posting hopenings hmute
    · exact .silent rfl
  · exact .silent rfl

theorem disconnect_idle : Idle s { world := s.disconnect.1, posted := s.disconnect.2 } := by
  have hopenings : ((s.openDevice.map s.removeDevice).getD s).openings = s.openings := by
    cases s.openDevice <;> rfl
  unfold disconnect
  dsimp only
  split_ifs
  · exact .posting hopenings rfl
  · exact .silent hopenings

theorem stir_idle {stimulus : Stimulus} (herror : ∀ code, stimulus ≠ .deviceError code) :
    Idle s { world := (Spontaneous.stir s stimulus).1, posted := (Spontaneous.stir s stimulus).2 } := by
  cases stimulus with
  | frame => exact emitFrame_idle s
  | setLens lens => exact .silent rfl
  | arm op =>
    have hopenings : (s.arm op).openings = s.openings := by
      unfold arm
      split_ifs <;> rfl
    exact .silent hopenings
  | addDevice id characteristics => exact .silent rfl
  | removeDevice id => exact .silent rfl
  | deviceError code => exact absurd rfl (herror code)
  | disconnect => exact disconnect_idle s

/-- Nothing that the simulator does by itself announces a device. -/
theorem stir_opened (stimulus : Stimulus) : (Spontaneous.stir s stimulus).1.openings = s.openings ∧
    ∀ event ∈ (Spontaneous.stir s stimulus).2, event.opened? = none := by
  by_cases herror : ∃ code, stimulus = .deviceError code
  · obtain ⟨code, rfl⟩ := herror
    refine ⟨rfl, ?_⟩
    intro event hevent
    change event ∈ s.emitDeviceError code at hevent
    unfold emitDeviceError at hevent
    split_ifs at hevent
    · rw [List.mem_singleton.mp hevent]
      rfl
    · cases hevent
  · have hidle := stir_idle s (not_exists.mp herror)
    refine ⟨hidle.openings, ?_⟩
    intro event hevent
    exact Event.opened_of_mute (hidle.mute event hevent)

end

end Simulator

section

variable {σ δ τ : Type}

theorem filterMap_hardware (events : List (Event δ τ)) :
    (events.map Message.hardware).filterMap (·.delivered?) = events.filterMap (·.opened?) :=
  List.filterMap_map

theorem delivered_cons (h : Handled σ δ τ) (past : List (Handled σ δ τ)) :
    delivered (h :: past) = h.message.delivered?.toList ++ delivered past := by
  unfold delivered
  cases hdelivered : h.message.delivered? with
  | none => exact List.filterMap_cons_none hdelivered
  | some device => exact List.filterMap_cons_some hdelivered

variable {h : Handled σ δ τ} {past : List (Handled σ δ τ)}

theorem Run.before_awaited :
    (Run.before h past).now.awaited = h.message.delivered?.toList ++ h.before.awaited := by
  unfold Controller.awaited
  cases hdelivered : h.message.delivered? with
  | none => exact List.filterMap_cons_none hdelivered
  | some device => exact List.filterMap_cons_some hdelivered

theorem Handled.after_awaited [Subsystem σ δ τ]
    (hheld : h.before.attached.device.isSome → h.before.stage ≠ .unopened) :
    h.after.awaited = h.before.awaited ++ openedBy h.recorded.subsystem.record := by
  obtain ⟨-, -, hmailbox⟩ := h.steps hheld
  unfold Controller.awaited openedBy
  rw [hmailbox, List.filterMap_append, filterMap_hardware]

end

namespace Simulator

/-- Only the controller itself has devices opened. -/
theorem meanwhile_opened (c : Controller Simulator Device Session) (move : Move) :
    (c.meanwhile move).awaited = c.awaited ∧
      (c.meanwhile move).subsystem.openings = c.subsystem.openings := by
  have hpost (message : Message Device Session) (hnone : message.delivered? = none) :
      (c.post message).awaited = c.awaited := by
    unfold Controller.awaited Controller.post
    rw [List.filterMap_append, List.filterMap_cons_none hnone, List.filterMap_nil,
      List.append_nil]
  cases move with
  | stir stimulus =>
    obtain ⟨hopenings, hopened⟩ := stir_opened c.subsystem stimulus
    refine ⟨?_, hopenings⟩
    show (c.mailbox ++ ((Spontaneous.stir c.subsystem stimulus).2).map _).filterMap _ = _
    rw [List.filterMap_append, filterMap_hardware, List.filterMap_eq_nil_iff.mpr hopened,
      List.append_nil]
    rfl
  | ask action => exact ⟨hpost _ rfl, rfl⟩
  | barrier ticket => exact ⟨hpost _ rfl, rfl⟩
  | shutdown => exact ⟨hpost _ rfl, rfl⟩
  | _ => exact ⟨rfl, rfl⟩

/-- The numbers of the devices delivered and awaited run from `first` to that of the last opening. -/
def Numbered (first : Nat) (r : Run Simulator Device Session) : Prop :=
  ∃ n, r.now.subsystem.openings = first + n ∧
    ((delivered r.past).reverse ++ r.now.awaited).map (·.serial) = List.range' first n

variable {first : Nat}

theorem numbered_meanwhile {r : Run Simulator Device Session} (move : Move)
    (hr : Numbered first r) : Numbered first { r with now := r.now.meanwhile move } := by
  obtain ⟨n, hopenings, hserials⟩ := hr
  obtain ⟨hawaited, hsame⟩ := meanwhile_opened r.now move
  exact ⟨n, hsame.trans hopenings, by rw [hawaited, hserials]⟩

theorem numbered_handle {h : Handled Simulator Device Session}
    {past : List (Handled Simulator Device Session)}
    (hheld : h.before.attached.device.isSome → h.before.stage ≠ .unopened)
    (hr : Numbered first (Run.before h past)) : Numbered first ⟨h.after, h :: past⟩ := by
  obtain ⟨n, hopenings, hserials⟩ := hr
  obtain ⟨-, htalk, -⟩ := h.steps hheld
  have hminted := talk_mints htalk
  have hbefore : h.before.subsystem.openings = first + n := hopenings
  refine ⟨n + (openedBy h.recorded.subsystem.record).length, ?_, ?_⟩
  · show h.after.subsystem.openings = _
    rw [hminted.openings, hbefore, Nat.add_assoc]
  · have hmoved : (delivered (h :: past)).reverse ++ h.after.awaited =
        (delivered past).reverse ++ (Run.before h past).now.awaited ++
          openedBy h.recorded.subsystem.record := by
      rw [Handled.after_awaited hheld, Run.before_awaited, delivered_cons]
      cases h.message.delivered? <;> simp
    show ((delivered (h :: past)).reverse ++ h.after.awaited).map _ = _
    change ((delivered past).reverse ++ (Run.before h past).now.awaited).map _ = _ at hserials
    rw [hmoved, List.map_append, hserials, hminted.serials, hbefore, List.range'_append_1]

/-- No device is delivered twice. -/
theorem Numbered.nodup {r : Run Simulator Device Session} (hr : Numbered first r) :
    (delivered r.past).Nodup := by
  obtain ⟨n, -, hserials⟩ := hr
  have hserial : (((delivered r.past).reverse ++ r.now.awaited).map (·.serial)).Nodup := by
    rw [hserials]
    exact List.nodup_range'
  have hall : ((delivered r.past).reverse ++ r.now.awaited).Nodup := List.Nodup.of_map _ hserial
  exact List.nodup_reverse.mp (List.nodup_append.mp hall).1

end Simulator

end CameraControl
