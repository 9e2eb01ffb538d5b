import CameraControl.Proofs.Posting
import CameraControl.Proofs.Tenure

/-!
The controller of an agent makes a run of its own. What callers, the dispatcher and the hardware do to it are
moves of that run, as long as nobody but the controller writes to the stage cell. So whatever holds in all
runs of a controller holds of what the controller of an agent has handled.
-/
namespace CameraControl.Agent

variable {σ δ τ : Type}

/-- What the hardware makes of the subsystem, and the events that it posts. -/
structure Weather (σ δ τ : Type) where
  world : σ
  events : List (Event δ τ)

instance : Spontaneous (Weather σ δ τ) σ δ τ where
  stir _ weather := (weather.world, weather.events)

/-- The move writes to the stage cell, which is for the controller alone to do. -/
def Move.meddles : Move σ δ τ → Bool
  | force _ | invalidate => true
  | _ => false

namespace Course

variable [Subsystem σ δ τ] {s : Course σ δ τ} {r : Run σ δ τ}

/-- The run has handled the same messages, and has the same controller until it ends. -/
structure Traces (r : Run σ δ τ) (s : Course σ δ τ) : Prop where
  past : r.past = s.past
  now : s.now.isServed → r.now = s.now.controller

namespace Traces

/-- After the end of the controller nothing more is handled. -/
theorem ended (h : Traces r s) (hended : s.now.isServed = false) (move : Move σ δ τ) :
    Traces r (s.step move) := by
  have hstep := s.step_cases move
  generalize s.step move = s' at hstep
  have hnever {now : Agent σ δ τ} (hserved : now.isServed = s.now.isServed) :
      now.isServed → r.now = now.controller := by
    intro his
    cases (hserved.trans hended).symm.trans his
  cases hstep with
  | idle => exact h
  | aside haside => exact ⟨h.past, hnever haside.served⟩
  | submitted => exact ⟨h.past, hnever rfl⟩
  | handled _ hserved => cases hended.symm.trans hserved
  | @dispatched now hdispatch =>
    obtain ⟨new, hnew⟩ := hdispatch.gains
    have hserved : now.isServed = s.now.isServed := isServed_of_status (by rw [hnew])
    exact ⟨h.past, hnever hserved⟩
  | givenUp => exact ⟨h.past, hnever rfl⟩
  | stopping => exact ⟨h.past, hnever rfl⟩

omit [Subsystem σ δ τ] in
theorem still (h : Traces r s) {now : Agent σ δ τ} (hcontroller : now.controller = s.now.controller) :
    Traces r (s.advance now) := by
  refine ⟨h.past, fun his => ?_⟩
  have hserved : now.isServed = s.now.isServed := isServed_of_status (by rw [hcontroller])
  exact (h.now (hserved ▸ his)).trans hcontroller.symm

theorem handle (h : Traces r s) (hserved : s.now.isServed) :
    Traces (r.step (.handle : Run.Move (Weather σ δ τ))) s.handle := by
  have hnow := h.now hserved
  have hstatus : s.now.controller.status = .running := of_decide_eq_true hserved
  show Traces r.advance s.handle
  cases hmailbox : s.now.controller.mailbox with
  | nil =>
    have hstep : s.now.controller.step? = none := by
      unfold Controller.step?
      rw [hstatus, hmailbox]
    have hrun : r.advance = r := by
      unfold Run.advance
      rw [hnow, hstep]
    have hcourse : s.handle = s := by
      unfold Course.handle handle?
      rw [hstep]
      rfl
    rw [hrun, hcourse]
    exact h
  | cons message rest =>
    let taken : Handled σ δ τ := ⟨{ s.now.controller with mailbox := rest }, message⟩
    have hstep : s.now.controller.step? = some (message, taken.after) := by
      unfold Controller.step?
      split
      · next first others _ hothers =>
        cases hmailbox.symm.trans hothers
        rfl
      · next hnone => exact absurd hmailbox (hnone message rest hstatus)
    have hrun : r.advance = { now := taken.after, past := taken :: r.past } := by
      unfold Run.advance
      rw [hnow, hstep]
      dsimp only
      rw [hmailbox]
      rfl
    have hcourse : s.handle.past = taken :: s.past ∧
        s.handle.now = ({ s.now with controller := taken.after } : Agent σ δ τ).bury := by
      unfold Course.handle handle?
      rw [hstep, hmailbox]
      exact ⟨rfl, rfl⟩
    rw [hrun]
    refine ⟨by rw [hcourse.1, h.past], ?_⟩
    rw [hcourse.2]
    rcases ({ s.now with controller := taken.after } : Agent σ δ τ).bury_cases with
      ⟨-, hsame⟩ | ⟨hended, -⟩
    · intro _
      rw [hsame]
    · intro his
      cases hended.symm.trans his

omit [Subsystem σ δ τ] in
theorem posted {a : Agent σ δ τ} (hserved : a.isServed) (messages : List (Message δ τ)) :
    { a.controller with mailbox := a.controller.mailbox ++ messages } =
      (a.deliver messages).controller := by
  unfold deliver
  rw [if_pos hserved]

theorem dispatch (h : Traces r s) (hserved : s.now.isServed) {now : Agent σ δ τ}
    (hdispatch : s.now.Dispatch now) :
    ∃ steps : List (Run.Move (Weather σ δ τ)), Traces (r.run steps) (s.dispatchTo now) := by
  have hnow := h.now hserved
  cases hdispatch with
  | placed | taken | abandoned | released =>
    exact ⟨[], h.past, fun _ => hnow⟩
  | @posted wanted action d =>
    refine ⟨[.ask action], h.past, fun _ => ?_⟩
    show r.now.post (.action action) = _
    rw [hnow]
    exact posted hserved _
  | releasing =>
    refine ⟨[.ask .release], h.past, fun _ => ?_⟩
    show r.now.post (.action .release) = _
    rw [hnow]
    exact posted hserved _
  | @barring ticket =>
    refine ⟨[.barrier ticket], h.past, fun _ => ?_⟩
    show r.now.post (.barrier ticket) = _
    rw [hnow]
    exact posted hserved _

theorem step (h : Traces r s) {move : Move σ δ τ} (hmove : move.meddles = false) :
    ∃ steps : List (Run.Move (Weather σ δ τ)), Traces (r.run steps) (s.step move) := by
  by_cases hserved : s.now.isServed
  · have hnow := h.now hserved
    cases move with
    | force | invalidate => cases hmove
    | submit job =>
      refine ⟨[], ?_⟩
      show Traces r ((s.now.submit job).toOption.elim s s.advance)
      unfold Agent.submit
      cases s.now.dispatcher.submit job with
      | error failure => exact h
      | ok d => exact h.still rfl
    | setExceptionCallback callback =>
      refine ⟨[.install callback], h.past, fun _ => ?_⟩
      exact congrArg (fun c => { c with exceptionCallback := some callback }) hnow
    | enroll listing =>
      refine ⟨[.enroll listing], h.past, fun _ => ?_⟩
      exact congrArg (fun c => { c with roster := c.roster.update listing }) hnow
    | addTexture =>
      refine ⟨[.addTexture], h.past, fun _ => ?_⟩
      exact congrArg (fun c => { c with canvas := c.canvas.addTexture.1 }) hnow
    | tick clock =>
      refine ⟨[.tick clock], h.past, fun _ => ?_⟩
      exact congrArg (fun c => { c with clock }) hnow
    | environment world events =>
      refine ⟨[.stir ⟨world, events⟩], h.past, fun _ => ?_⟩
      show ({ r.now with subsystem := world } : Controller σ δ τ).postAll events = _
      rw [hnow]
      exact posted (a := { s.now with
        controller := { s.now.controller with subsystem := world } }) hserved _
    | recycle =>
      show ∃ steps : List (Run.Move (Weather σ δ τ)), Traces (r.run steps) (s.advance s.now.recycle)
      unfold recycle
      split
      · refine ⟨[.shutdown], h.past, fun _ => ?_⟩
        show r.now.post .shutdown = _
        rw [hnow]
        exact posted hserved _
      · exact ⟨[], h.still rfl⟩
    | handle => exact ⟨[.handle], h.handle hserved⟩
    | dispatch =>
      show ∃ steps : List (Run.Move (Weather σ δ τ)),
        Traces (r.run steps) (s.now.dispatch?.elim s s.dispatchTo)
      cases hdispatch : s.now.dispatch? with
      | none => exact ⟨[], h⟩
      | some now => exact h.dispatch hserved (dispatch?_cases hdispatch)
    | giveUp =>
      refine ⟨[], ?_⟩
      show Traces r (s.now.giveUp?.elim s s.advance)
      cases hgive : s.now.giveUp? with
      | none => exact h
      | some now =>
        unfold giveUp? at hgive
        split_ifs at hgive
        obtain ⟨d, -, rfl⟩ := finish?_eq hgive
        exact h.still rfl
    | proceed =>
      refine ⟨[], ?_⟩
      show Traces r (s.now.proceed?.elim s s.advance)
      unfold proceed?
      split
      · rw [if_pos hserved]
        exact h
      · split_ifs
        · exact h.still rfl
        · exact h
      · exact h
  · exact ⟨[], h.ended (eq_false_of_ne_true hserved) move⟩

theorem run (h : Traces r s) {moves : List (Move σ δ τ)} (hmoves : ∀ move ∈ moves, move.meddles = false) :
    ∃ steps : List (Run.Move (Weather σ δ τ)), Traces (r.run steps) (s.run moves) := by
  induction moves generalizing s r with
  | nil => exact ⟨[], h⟩
  | cons move moves ih =>
    obtain ⟨hmove, hrest⟩ := List.forall_mem_cons.mp hmoves
    obtain ⟨first, hfirst⟩ := h.step hmove
    obtain ⟨rest, hrest⟩ := ih hfirst hrest
    refine ⟨first ++ rest, ?_⟩
    have hrun : r.run (first ++ rest) = (r.run first).run rest := List.foldl_append
    rw [hrun]
    exact hrest

end Traces

/-- What the controller of an agent handles is what one handles in some run of its own. -/
theorem traced {config : Config} {world : σ} {clock : String} {a : Agent σ δ τ}
    (hstart : Agent.start config world clock = .ok a) {moves : List (Move σ δ τ)}
    (hmoves : ∀ move ∈ moves, move.meddles = false) :
    ∃ roster historySize, ∃ steps : List (Run.Move (Weather σ δ τ)),
      Traces ((Run.start world roster historySize).run steps) ((start a).run moves) := by
  unfold Agent.start at hstart
  split at hstart
  · cases hstart
  · cases hstart
    let roster := (Subsystem.ids world).toOption.elim {} Roster.empty.update
    -- The run starts without a clock.
    have hfirst : Traces ((Run.start world roster config.historySize).run
        [(.tick clock : Run.Move (Weather σ δ τ))]) (start {
          jobTimeout := config.jobTimeout
          controller := {
            subsystem := world, roster, history := .ofSize config.historySize, clock }
          dispatcher := { capacity := config.queueCapacity } }) := ⟨rfl, fun _ => rfl⟩
    obtain ⟨steps, hsteps⟩ := hfirst.run hmoves
    exact ⟨roster, config.historySize, .tick clock :: steps, hsteps⟩

end Course

end CameraControl.Agent
