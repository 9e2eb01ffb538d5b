import Mathlib.Data.List.Induction
import CameraControl.Proofs.Streaming

/-!
Previews that have lost their device. The controller forgets a device that an action which fails has closed,
and does not notice a disconnection: the stage goes on saying that a preview is running. Nothing else comes
between a running preview and the request that repeats for it.
-/
namespace CameraControl

/-- A device that is held is given up by a release, or by an action that failed. -/
theorem Custody.Step.forfeits {δ τ : Type} {κ κ' : Custody δ} {message : Message δ τ}
    {failure : Option Failure} {accepted : List DeviceId} {closed : List δ}
    (h : κ.Step message failure accepted closed κ') (hrelease : message.isRelease = false)
    (hdevice : κ.device.isSome) (hnone : κ'.device = none) : failure.isSome ∧ closed ≠ [] := by
  cases h with
  | forfeited =>
    refine ⟨rfl, ?_⟩
    obtain ⟨device, hsome⟩ := Option.isSome_iff_exists.mp hdevice
    rw [hsome]
    exact List.cons_ne_nil device []
  | released hreleased =>
    rw [hrelease] at hreleased
    cases hreleased
  | adopted => cases hnone
  | _ => exact absurd hnone (Option.isSome_iff_ne_none.mp hdevice)

/-- Since the camera was taken up an action failed, and had its device closed. -/
def Forfeited {σ δ τ : Type} [Subsystem σ δ τ] (past : List (Handled σ δ τ)) : Prop :=
  ∃ held, tenure past = some held ∧ ∃ h ∈ held, h.failure?.isSome ∧ h.closed ≠ []

section
variable {σ δ τ : Type} [Subsystem σ δ τ] {h : Handled σ δ τ} {past : List (Handled σ δ τ)}

theorem Handled.adopting (htenured : Run.Tenured ⟨h.before, past⟩) (hadopts : h.adopts) :
    ∃ device, h.message.delivered? = some device ∧ h.after.attached.device = some device := by
  obtain ⟨report, hreport, hopened⟩ := List.any_eq_true.mp hadopts
  cases report with
  | opened callback camera =>
    obtain ⟨device, hdelivered, -, -, hdevice⟩ := (h.steps htenured.held).1.adopting hreport
    exact ⟨device, hdelivered, hdevice⟩
  | _ => cases hopened

theorem Run.forfeited_handle (htenured : Run.Tenured ⟨h.before, past⟩)
    (hr : tenure past ≠ none → h.before.attached.device = none → Forfeited past)
    (hopen : tenure (h :: past) ≠ none) (hnone : h.after.attached.device = none) :
    Forfeited (h :: past) := by
  have hstep := (h.steps htenured.held).1
  cases hadopts : h.adopts with
  | true =>
    obtain ⟨device, -, hdevice⟩ := Handled.adopting htenured hadopts
    cases hdevice.symm.trans hnone
  | false =>
    cases hrelease : h.message.isRelease with
    | true => exact absurd (tenure_releases hadopts hrelease) hopen
    | false =>
      have hcontinues : tenure (h :: past) = _ := tenure_continues hadopts hrelease
      rw [hcontinues] at hopen
      obtain ⟨held, htenure⟩ := Option.ne_none_iff_exists'.mp fun hvacant => hopen (congrArg _ hvacant)
      rw [htenure] at hcontinues
      by_cases hbefore : h.before.attached.device = none
      · obtain ⟨held', htenure', e, he, hlost⟩ := hr (htenure ▸ Option.some_ne_none held) hbefore
        cases htenure.symm.trans htenure'
        exact ⟨h :: held, hcontinues, e, List.mem_cons_of_mem h he, hlost⟩
      · have hlost := hstep.forfeits hrelease (Option.isSome_iff_ne_none.mpr hbefore) hnone
        exact ⟨h :: held, hcontinues, h, List.mem_cons_self, hlost⟩

/-- A camera without a device has lost it to an action that failed. -/
theorem Run.forfeited {ε : Type} [Spontaneous ε σ δ τ] (world : σ) (roster : Roster) (historySize : Nat)
    (moves : List (Move ε)) :
    let r := (start world roster historySize).run moves
    r.now.stage ≠ .unopened → r.now.attached.device = none → Forfeited r.past := by
  intro r hopen hnone
  obtain ⟨htenured, hr, -⟩ := invariant_tenured
    (fun r => tenure r.past ≠ none → r.now.attached.device = none → Forfeited r.past)
    (fun _ => True) (fun r move _ hr => by cases move <;> exact hr)
    (fun h past htenured hr => forfeited_handle htenured hr) world roster historySize
    (fun move (_ : move ∈ moves) => trivial) (fun hopen => absurd rfl hopen)
  refine hr (fun hvacant => ?_) hnone
  have hfits := htenured.fits
  rw [hvacant] at hfits
  exact hopen hfits.1

end

namespace Simulator

/-- A preview is running that has a device, though none is open. -/
structure Stranded (k : Rig Simulator Device Session) : Prop where
  active : .previewActive ≤ k.stage
  device : k.device.isSome
  openDevice : k.world.openDevice = none

/-- No message leaves a preview stranded that was not stranded before. -/
theorem Stranded.step {k k' : Rig Simulator Device Session} {message : Message Device Session}
    (hsession : .previewReady ≤ k.stage → k.session.isSome)
    (hdelivered : message.delivered?.isSome → k.stage = .unopened) (h : k.Step message k')
    (hk' : Stranded k') : message.delivered? = none ∧ Stranded k := by
  obtain ⟨hactive, hdevice, hnone⟩ := hk'
  have hunopened (hstage : k.stage = .unopened) : ¬ .previewActive ≤ k.stage := by
    rw [hstage]
    decide
  have hlow {stage : Stage} (hstage : stage < .previewActive) : ¬ .previewActive ≤ stage :=
    Nat.not_le_of_lt hstage
  cases h with
  | still hpasses =>
    refine ⟨?_, hactive, hdevice, hnone⟩
    cases message with
    | hardware event => cases event <;> first | rfl | cases hpasses
    | _ => rfl
  | kept => exact ⟨rfl, hactive, hdevice, hnone⟩
  | asked hopening hstage => exact absurd hactive (hunopened hstage)
  | failed =>
    rw [k.closeDevice_device] at hdevice
    cases hdevice
  | released => exact absurd hactive (by decide : ¬ Stage.previewActive ≤ .unopened)
  | bound size hstage htexture hdraft =>
    rw [Rig.createSession_stage, Rig.bind_stage] at hactive
    have hready : Stage.previewReady < .previewActive := by decide
    exact absurd hactive (hlow (Nat.lt_trans (k.closeSession_stage hsession) hready))
  | @started callback session draft hstage hsome hdraft =>
    cases hfault : k.fault (.setRepeating session draft.build .lensState) with
    | none =>
      have hopen : k.world.openDevice ≠ none := (setRepeating_current k.world hfault).1
      exact absurd ((setRepeating_mild _ _ _ _).openDevice.symm.trans hnone) hopen
    | some fault =>
      rw [k.submit_refused _ _ _ hfault] at hactive
      exact absurd hactive (by decide : ¬ Stage.previewActive ≤ .previewReady)
  | stopped hstage hsome =>
    exact ⟨rfl, hstage, hdevice, (stopRepeating_mild _ _).openDevice.symm.trans hnone⟩
  | applied array hstage hidle hdraft =>
    refine absurd hactive ?_
    dsimp only
    split_ifs
    · decide
    · exact hlow hidle
  | resubmitted array hstage hsome hdraft =>
    exact ⟨rfl, hstage, hdevice, (setRepeating_mild _ _ _ _).openDevice.symm.trans hnone⟩
  | focusing hstage hsome hdraft | unlocking hstage hsome hdraft =>
    exact ⟨rfl, hstage, hdevice, (capture_mild _ _ _ _).openDevice.symm.trans hnone⟩
  | adopted => exact absurd hactive (by decide : ¬ Stage.previewActive ≤ .unconfigured)
  | stray | broken => exact absurd hactive (hunopened (hdelivered rfl))
  | discarded hstage =>
    have hconfigured : Stage.configured < .previewActive := by decide
    exact absurd hactive (hlow (Nat.lt_trans hstage hconfigured))
  | configured => exact absurd hactive (by decide : ¬ Stage.previewActive ≤ .previewReady)

/-- While it was held and open the device was disconnected, and no camera was taken up since. -/
def Disconnected (start : Run Simulator Device Session) (moves : List Move) : Prop :=
  ∃ earlier later device, moves = earlier ++ .stir .disconnect :: later ∧
    (start.run earlier).now.attached.device = some device ∧
    (start.run earlier).now.subsystem.openDevice = some device.id ∧
    ∃ new, (start.run moves).past = new ++ (start.run earlier).past ∧ ∀ h ∈ new, h.adopts = false

theorem run_concat (r : Run Simulator Device Session) (moves : List Move) (move : Move) :
    r.run (moves ++ [move]) = (r.run moves).step move := List.foldl_concat ..

theorem Disconnected.concat {start : Run Simulator Device Session} {moves : List Move}
    (hr : Disconnected start moves) {move : Move} {new : List (Handled Simulator Device Session)}
    (hpast : (start.run (moves ++ [move])).past = new ++ (start.run moves).past)
    (hnew : ∀ h ∈ new, h.adopts = false) : Disconnected start (moves ++ [move]) := by
  obtain ⟨earlier, later, device, hmoves, hdevice, hopen, new', hpast', hnew'⟩ := hr
  refine ⟨earlier, later ++ [move], device, ?_, hdevice, hopen, new ++ new', ?_, ?_⟩
  · rw [hmoves, List.append_assoc]
    rfl
  · rw [hpast, hpast', List.append_assoc]
  · intro h hh
    exact (List.mem_append.mp hh).elim (hnew h) (hnew' h)

/-- Only a disconnection has the device that is open closed by itself. -/
theorem stir_openDevice (s : Simulator) {stimulus : Stimulus} (hstimulus : stimulus ≠ .disconnect) :
    (Spontaneous.stir s stimulus).1.openDevice = s.openDevice := by
  cases stimulus with
  | frame =>
    show s.emitFrame.1.openDevice = s.openDevice
    unfold emitFrame
    split
    · split_ifs
      · exact (result_unmoved s _).openDevice
      · rfl
    · rfl
  | arm op =>
    show (s.arm op).openDevice = s.openDevice
    unfold arm
    split_ifs <;> rfl
  | disconnect => exact absurd rfl hstimulus
  | _ => rfl

/-- While a preview is running, the device that is open is the one that is held. -/
theorem InStep.openDevice {r : Run Simulator Device Session} (hr : InStep r) (hknown : Known r)
    (horderly : Orderly r.past) (hactive : .previewActive ≤ r.now.stage) {id : DeviceId}
    (hopen : r.now.subsystem.openDevice = some id) :
    ∃ device, r.now.attached.device = some device ∧ device.id = id := by
  obtain ⟨device, hnewest, hid⟩ := hknown.newest id hopen
  rcases hr.waiting horderly with hnone | ⟨awaited, hawaits⟩
  · unfold Controller.newest at hnewest
    rw [hnone] at hnewest
    exact ⟨device, hnewest, hid⟩
  · rw [hawaits.unopened] at hactive
    exact absurd hactive (by decide)

theorem stranded_handle {h : Handled Simulator Device Session}
    {past : List (Handled Simulator Device Session)} (htenured : Run.Tenured ⟨h.before, past⟩)
    (hr : InStep (Run.before h past)) (horderly : Orderly past) (hstranded : Stranded h.after.rig) :
    h.adopts = false ∧ Stranded h.before.rig := by
  obtain ⟨hsilent, hbefore⟩ := hstranded.step htenured.layered.session (hr.delivered horderly)
    (Handled.rigged htenured)
  refine ⟨Bool.eq_false_iff.mpr fun hadopts => ?_, hbefore⟩
  obtain ⟨device, hsome, -⟩ := Handled.adopting htenured hadopts
  cases hsilent.symm.trans hsome

/-- A preview that a move leaves stranded was stranded before, or its device is disconnected now. -/
theorem stranded_step {r : Run Simulator Device Session} {move : Move} (htenured : r.Tenured)
    (hr : InStep r) (horderly : Orderly (r.step move).past) (hstranded : Stranded (r.step move).now.rig) :
    Orderly r.past ∧ (∃ new, (r.step move).past = new ++ r.past ∧ ∀ h ∈ new, h.adopts = false) ∧
      (Stranded r.now.rig ∨ move = .stir .disconnect ∧ .previewActive ≤ r.now.stage ∧
        r.now.attached.device.isSome) := by
  cases move with
  | handle =>
    change Orderly r.advance.past at horderly
    change Stranded r.advance.now.rig at hstranded
    show _ ∧ (∃ new, r.advance.past = _ ∧ _) ∧ _
    rcases r.advance_cases with hsame | ⟨h, hbefore, hafter⟩
    · rw [hsame] at horderly hstranded ⊢
      exact ⟨horderly, ⟨[], rfl, List.forall_mem_nil _⟩, Or.inl hstranded⟩
    · rw [hafter] at horderly hstranded ⊢
      rw [hbefore] at hr htenured
      obtain ⟨-, hpast⟩ := List.forall_mem_cons.mp horderly
      obtain ⟨hadopts, hstranded⟩ := stranded_handle { htenured with } hr hpast hstranded
      refine ⟨hpast, ⟨[h], rfl, List.forall_mem_singleton.mpr hadopts⟩, Or.inl ?_⟩
      rw [hbefore]
      exact { hstranded with }
  | stir stimulus =>
    refine ⟨horderly, ⟨[], rfl, List.forall_mem_nil _⟩, ?_⟩
    by_cases hstimulus : stimulus = .disconnect
    · exact Or.inr ⟨hstimulus ▸ rfl, hstranded.active, hstranded.device⟩
    · have hnone : (Spontaneous.stir r.now.subsystem stimulus).1.openDevice = none :=
        hstranded.openDevice
      rw [stir_openDevice _ hstimulus] at hnone
      exact Or.inl ⟨hstranded.active, hstranded.device, hnone⟩
  | _ => exact ⟨horderly, ⟨[], rfl, List.forall_mem_nil _⟩, Or.inl { hstranded with }⟩

/-- A preview is stranded by a disconnection. -/
theorem Stranded.disconnected (world : Simulator) (hrest : world.AtRest)
    (hunarmed : .abortCaptures ∉ world.armed) (roster : Roster) (historySize : Nat) (moves : List Move)
    (hmoves : .stir (.arm .abortCaptures) ∉ moves)
    (horderly : Orderly ((Run.start world roster historySize).run moves).past)
    (hstranded : Stranded ((Run.start world roster historySize).run moves).now.rig) :
    Disconnected (Run.start world roster historySize) moves := by
  induction moves using List.reverseRecOn with
  | nil => exact absurd hstranded.active (by decide : ¬ Stage.previewActive ≤ .unopened)
  | append_singleton moves move ih =>
    have hearlier : .stir (.arm .abortCaptures) ∉ moves :=
      fun hmem => hmoves (List.mem_append_left _ hmem)
    have hinStep := inStep world hrest hunarmed roster historySize moves hearlier
    obtain ⟨htenured, hknown, -⟩ := known world hrest roster historySize moves
    have hrun := run_concat (Run.start world roster historySize) moves move
    rw [hrun] at horderly hstranded
    obtain ⟨hbefore, ⟨new, hpast, hnew⟩, hcause⟩ := stranded_step htenured hinStep horderly hstranded
    have hkept (hstranded : Stranded ((Run.start world roster historySize).run moves).now.rig) :
        Disconnected (Run.start world roster historySize) (moves ++ [move]) := by
      rw [← hrun] at hpast
      exact (ih hearlier hbefore hstranded).concat hpast hnew
    rcases hcause with hstranded | ⟨rfl, hactive, hdevice⟩
    · exact hkept hstranded
    · cases hopen : ((Run.start world roster historySize).run moves).now.subsystem.openDevice with
      | none => exact hkept ⟨hactive, hdevice, hopen⟩
      | some id =>
        obtain ⟨device, hheld, rfl⟩ := hinStep.openDevice hknown hbefore hactive hopen
        rw [← hrun] at hpast
        exact ⟨moves, [], device, rfl, hheld, hopen, new, hpast, hnew⟩

/-- As long as aborting captures does not fail and openings do not overlap, a request repeats only while a
preview is running. The other way round, it repeats unless, since the camera was taken up, a failed action
had its device closed or its device was disconnected. -/
theorem repeats_while_running (world : Simulator) (hrest : world.AtRest)
    (hunarmed : .abortCaptures ∉ world.armed) (roster : Roster) (historySize : Nat) (moves : List Move)
    (hmoves : .stir (.arm .abortCaptures) ∉ moves) :
    let start := Run.start world roster historySize
    let r := start.run moves
    Orderly r.past →
      (r.now.subsystem.isRepeating → .previewActive ≤ r.now.stage) ∧
      (.previewActive ≤ r.now.stage →
        r.now.subsystem.isRepeating ∨ Forfeited r.past ∨ Disconnected start moves) := by
  intro start r horderly
  have hstreams := (inStep world hrest hunarmed roster historySize moves hmoves).streams horderly
  constructor
  · intro hrepeating
    obtain ⟨⟨generation, listener⟩, hsome⟩ := Option.isSome_iff_exists.mp hrepeating
    exact (hstreams.running generation listener hsome).1
  · intro hactive
    by_cases hnone : r.now.subsystem.openDevice = none
    · right
      cases hdevice : r.now.attached.device with
      | none =>
        have hopen : r.now.stage ≠ .unopened :=
          Stage.unconfigured_le.mp (Stage.le_trans (by decide) hactive)
        exact Or.inl (Run.forfeited world roster historySize moves hopen hdevice)
      | some device =>
        right
        exact Stranded.disconnected world hrest hunarmed roster historySize moves hmoves horderly
          ⟨hactive, Option.isSome_iff_exists.mpr ⟨device, hdevice⟩, hnone⟩
    · exact Or.inl (Option.isSome_iff_ne_none.mpr (hstreams.repeats hactive hnone))

/-- While a preview is running, settings are refused and the focus is locked. Then the device is lost. -/
def droppedMoves : List Move :=
  [.ask (.openCamera 0 0), .handle, .handle, .addTexture,
    .ask (.applySettings { preview := ⟨640, 480⟩, photo := ⟨640, 480⟩ }), .ask (.setPreviewTexture 1),
    .handle, .handle, .handle, .ask (.startPreview none), .handle, .handle, .stir (.arm .setRepeating),
    .ask (.applySettings { preview := ⟨640, 480⟩, photo := ⟨640, 480⟩, flash := .torch }), .handle,
    .ask (.autoFocus none), .handle, .stir .disconnect]

theorem dropped_while_running : Run.Move.stir (Stimulus.arm .abortCaptures) ∉ droppedMoves ∧
    let r := run droppedMoves.dropLast
    let r' := run droppedMoves
    Orderly r'.past ∧ r.now.subsystem.isRepeating ∧ .previewActive ≤ r.now.stage ∧
      r'.now.stage = .focusLocked ∧ r'.now.subsystem.isRepeating = false ∧
      (Forfeited r'.past ∨ Disconnected (run []) droppedMoves) := by
  have hrest := withDevices_atRest ["0", "1"]
  have hmoves : Run.Move.stir (Stimulus.arm .abortCaptures) ∉ droppedMoves := by decide
  have hearlier : Run.Move.stir (Stimulus.arm .abortCaptures) ∉ droppedMoves.dropLast := by decide
  have hunarmed : .abortCaptures ∉ (withDevices ["0", "1"]).armed := by decide
  have horderly : Orderly (run droppedMoves).past := by decide
  obtain ⟨hrunning, -⟩ := repeats_while_running _ hrest hunarmed (Roster.empty.update ["0", "1"]) 20
    droppedMoves.dropLast hearlier horderly
  obtain ⟨-, hrepeats⟩ := repeats_while_running _ hrest hunarmed (Roster.empty.update ["0", "1"]) 20
    droppedMoves hmoves horderly
  exact ⟨hmoves, horderly, rfl, hrunning rfl, rfl, rfl,
    (hrepeats (by decide)).resolve_left Bool.false_ne_true⟩

end Simulator

end CameraControl
