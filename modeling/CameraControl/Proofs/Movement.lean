import CameraControl.Proofs.Closing
import CameraControl.Proofs.FocusCallbacks
import CameraControl.Proofs.Reporting

/-!
The reports on focus movement, as a camera's messages have them due: searched backwards from each frame that
shows the lens, the messages tell which lens state was seen before and whom to report to. While a camera is open
exactly these reports are made. What a capture tells that shows no lens makes no difference to them.
-/
namespace CameraControl

namespace Movement

variable {δ τ : Type}

/-- The lens state that was seen last, given the messages since another was, newest first. -/
def seen (last : Option Lens) (past : List (Message δ τ)) : Option Lens :=
  (past.findSome? (·.lens?)).or last

/-- The callback that was registered last, given the messages since another was, newest first. -/
def registered (callback : Option Tag) (past : List (Message δ τ)) : Option Tag :=
  (past.findSome? (·.registers?)).getD callback

/-- Who is to be told of movement after some messages, newest first, and whether the lens moves. -/
def due (callback : Option Tag) (last : Option Lens) : List (Message δ τ) → List (Tag × Bool)
  | [] => []
  | message :: past => due callback last past ++
      (message.lens?.bind fun lens => lens.news (seen last past) (registered callback past)).toList

/-- The message is from a capture but does not show the lens: the capture failed, its result has no lens state,
or it was made to carry a trigger. -/
def isBlind : Message δ τ → Bool
  | .hardware (.captureFailed _ _ _) => true
  | .hardware (.completed .lensState _ none) => true
  | .hardware (.completed .focusTrigger _ _) => true
  | .hardware (.completed .untracked _ _) => true
  | _ => false

variable {callback : Option Tag} {last : Option Lens} {message : Message δ τ} {past : List (Message δ τ)}

theorem isBlind_mute (hblind : isBlind message) : message.lens? = none ∧ message.registers? = none := by
  unfold isBlind at hblind
  split at hblind <;> first | exact ⟨rfl, rfl⟩ | cases hblind

theorem seen_cons : seen last (message :: past) = message.lens?.or (seen last past) := by
  unfold seen
  rw [List.findSome?_cons]
  cases message.lens? <;> rfl

theorem registered_cons :
    registered callback (message :: past) = message.registers?.getD (registered callback past) := by
  unfold registered
  rw [List.findSome?_cons]
  cases message.registers? <;> rfl

/-- Messages that neither show the lens nor register a callback make no difference. -/
theorem due_filter (p : Message δ τ → Bool)
    (hmute : ∀ message, p message = false → message.lens? = none ∧ message.registers? = none)
    (past : List (Message δ τ)) :
    due callback last (past.filter p) = due callback last past ∧
      seen last (past.filter p) = seen last past ∧
      registered callback (past.filter p) = registered callback past := by
  induction past with
  | nil => exact ⟨rfl, rfl, rfl⟩
  | cons message past ih =>
    obtain ⟨hdue, hseen, hregistered⟩ := ih
    cases hp : p message with
    | true =>
      rw [List.filter_cons_of_pos hp, seen_cons, seen_cons, registered_cons, registered_cons]
      simp only [due, hdue, hseen, hregistered, and_self]
    | false =>
      obtain ⟨hlens, hregisters⟩ := hmute message hp
      rw [List.filter_cons_of_neg (Bool.eq_false_iff.mp hp), seen_cons, registered_cons]
      simp only [due, hlens, hregisters, hdue, hseen, hregistered, Option.bind_none, Option.toList_none,
        List.append_nil, Option.none_or, Option.getD_none, and_self]

end Movement

open Movement

variable {ε σ δ τ : Type} [Subsystem σ δ τ]

theorem Controller.handle_release_stage {c : Controller σ δ τ} {message : Message δ τ}
    (hrelease : message.isRelease) : (c.handle message).stage = .unopened := by
  cases message with
  | action action =>
    cases action <;> cases hrelease
    exact Controller.release_stage (c.record .release)
  | shutdown =>
    show c.shutDown.stage = .unopened
    unfold Controller.shutDown
    dsimp only
    split_ifs with hunopened
    · exact hunopened
    · exact c.release_stage
  | _ => cases hrelease

/-- With a camera open a frame's lens state is compared with the one seen last, and reported if it is news. -/
theorem Controller.handle_movements {c : Controller σ δ τ} (hlayered : c.Layered)
    (hopen : c.stage ≠ .unopened) (message : Message δ τ) :
    (c.handle message).movements = c.movements ++
      (message.lens?.bind fun lens => lens.news c.lastLens c.attached.moveCallback).toList := by
  have hnoted : (c.noted message).movements = c.movements := by cases message <;> rfl
  have hcamera : c.attached.camera.isSome := hlayered.camera (Stage.unconfigured_le.mpr hopen)
  obtain ⟨camera, hcamera⟩ := Option.isSome_iff_exists.mp hcamera
  rw [(c.handle_tells message).movements, hnoted]
  unfold Controller.moves?
  rw [hcamera]
  rfl

namespace Run

/-- What was due to be reported of movement was reported, and while a camera is open the controller knows what
was seen of the lens and who is to be told. -/
structure Followed (c : Controller σ δ τ) (r : Run σ δ τ) : Prop where
  movements : r.now.movements =
    c.movements ++ due c.attached.moveCallback c.lastLens (r.past.map (·.message))
  known : r.now.stage ≠ .unopened →
    r.now.lastLens = seen c.lastLens (r.past.map (·.message)) ∧
      r.now.attached.moveCallback = registered c.attached.moveCallback (r.past.map (·.message))

theorem Followed.handle {c : Controller σ δ τ} {h : Handled σ δ τ} {past : List (Handled σ δ τ)}
    (hr : Followed c (before h past)) (hlayered : h.before.Layered) (hopen : h.before.stage ≠ .unopened) :
    Followed c ⟨h.after, h :: past⟩ := by
  have hmovements : h.before.movements = _ := hr.movements
  obtain ⟨hseen, hregistered⟩ : h.before.lastLens = _ ∧ h.before.attached.moveCallback = _ :=
    hr.known hopen
  constructor
  · show (h.before.handle h.message).movements = _
    rw [Controller.handle_movements hlayered hopen, hmovements, hseen, hregistered, List.append_assoc]
    rfl
  · intro hstays
    have hrelease : h.message.isRelease = false :=
      Bool.eq_false_iff.mpr fun hrelease => hstays (Controller.handle_release_stage hrelease)
    obtain ⟨hlens, hcallback⟩ := h.before.handle_keeps hrelease
    rw [hseen] at hlens
    rw [hregistered] at hcallback
    exact ⟨hlens.trans seen_cons.symm, hcallback.trans registered_cons.symm⟩

variable [Spontaneous ε σ δ τ]

/-- From any lens state seen last, the reports on movement are those that are due, as long as a camera is open.
Captures that fail or carry a trigger, and results without a lens state, have no part in what is due. -/
theorem movements_due (world : σ) (roster : Roster) (historySize : Nat) (moves more : List (Move ε))
    (last : Option Lens) :
    let c : Controller σ δ τ :=
      { ((start world roster historySize).run moves).now with lastLens := last }
    let r := ({ now := c } : Run σ δ τ).run more
    let messages := r.past.map (·.message)
    (∀ h ∈ r.past, h.before.stage ≠ .unopened) →
      r.now.movements = c.movements ++ due c.attached.moveCallback last messages ∧
      due c.attached.moveCallback last messages =
        due c.attached.moveCallback last (messages.filter fun message => !isBlind message) := by
  intro c r messages hopen
  have hlayered : c.Layered := by
    obtain ⟨htenured, -⟩ := invariant_tenured (fun _ => True) (fun _ => True) (fun _ _ _ _ => trivial)
      (fun _ _ _ _ => trivial) world roster historySize (fun move (_ : move ∈ moves) => trivial) trivial
    exact htenured.layered
  have hstart : Followed c (⟨c, []⟩ : Run σ δ τ) := ⟨(List.append_nil _).symm, fun _ => ⟨rfl, rfl⟩⟩
  have hr : r.now.Layered ∧ ((∀ h ∈ r.past, h.before.stage ≠ .unopened) → Followed c r) := by
    refine (invariant (r := ⟨c, []⟩)
      (fun r => r.now.Layered ∧ ((∀ h ∈ r.past, h.before.stage ≠ .unopened) → Followed c r))
      (fun _ => True) ?_ ?_ (fun move (_ : move ∈ more) => trivial) ⟨hlayered, fun _ => hstart⟩ rfl).1
    · intro r move _ ⟨hlayered, hfollowed⟩
      cases move <;> exact ⟨hlayered, fun hall => { hfollowed hall with }⟩
    · intro h past ⟨hlayered, hfollowed⟩
      refine ⟨Controller.handle_layered hlayered, fun hall => ?_⟩
      obtain ⟨hopen, hpast⟩ := List.forall_mem_cons.mp hall
      exact (hfollowed hpast).handle hlayered hopen
  have hmute (message : Message δ τ) (hseeing : (!isBlind message) = false) :
      message.lens? = none ∧ message.registers? = none :=
    isBlind_mute (by simpa using hseeing)
  exact ⟨(hr.2 hopen).movements, (due_filter _ hmute messages).1.symm⟩

/-- The lens still moves when a first callback is registered, and settles for it. After a frame that fails and
the trigger of a request it moves for a second one, and once more after it was locked, but settles for none. -/
def refocusingMoves : List Simulator.Move :=
  [.ask (.setMoveCallback (some 3)), .stir (.setLens .passiveScan), .stir .frame,
    .stir (.setLens .passiveFocused), .stir .frame, .handle, .handle, .handle,
    .ask (.setMoveCallback (some 4)), .stir (.setLens .passiveScan), .stir (.arm .captureResult), .stir .frame,
    .ask (.autoFocus (some 5)), .handle, .handle, .handle, .stir .frame, .handle, .handle,
    .stir (.setLens .focusedLocked), .stir .frame, .stir (.setLens .passiveScan), .stir .frame,
    .ask (.setMoveCallback none), .stir (.setLens .passiveFocused), .handle, .handle, .handle, .stir .frame,
    .handle]

theorem refocusing_movements_due :
    let c := { (Simulator.run startedMoves).now with lastLens := some .passiveScan }
    let r := ({ now := c } : Run Simulator Simulator.Device Simulator.Session).run refocusingMoves
    let messages := r.past.map (·.message)
    (∀ h ∈ r.past, h.before.stage ≠ .unopened) ∧ (messages.filter isBlind).length = 2 ∧
      r.now.movements = [(3, false), (4, true), (4, true)] ∧
      r.now.movements = c.movements ++ due c.attached.moveCallback (some .passiveScan) messages ∧
      due c.attached.moveCallback (some .passiveScan) messages =
        due c.attached.moveCallback (some .passiveScan)
          (messages.filter fun message => !isBlind message) := by
  intro c r messages
  have hopen : ∀ h ∈ r.past, h.before.stage ≠ .unopened := by decide
  have hdue := movements_due (Simulator.withDevices ["0", "1"]) (Roster.empty.update ["0", "1"]) 20
    startedMoves refocusingMoves (some .passiveScan) hopen
  exact ⟨hopen, by decide, by decide, hdue⟩

end Run

end CameraControl
