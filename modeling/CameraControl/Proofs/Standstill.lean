import CameraControl.Proofs.Posting

/-!
Agents at a standstill. Where neither thread can go on, all calls have been dealt with or the dispatcher is
held up by one that waits for a stage. Such waits have no end of their own: nothing behind them is looked at
before the hardware, a write to the stage cell or a shutdown gets the agent going again.
-/
namespace CameraControl

/-- The stages that a call for the action waits for, if it waits for any. -/
def Action.awaited : Action → Option Stage.Set
  | applySettings _ => some (.atLeast .unconfigured)
  | startPreview _ => some (.atLeast .previewReady)
  | autoFocus _ => some (.of [.previewActive, .focusLocked])
  | _ => none

namespace Agent

open Stage.Cell (check_none)

variable {σ δ τ : Type}

/-- The jobs that calls are made into. Any action can also be asked for as it is. -/
def Job.Called : Job → Prop
  | post wanted action => wanted = none ∨ wanted = action.awaited
  | release _ => True

/-- The moves from outside that can get a thread going again. -/
def Move.rouses : Move σ δ τ → Bool
  | environment _ _ | force _ | invalidate | recycle => true
  | _ => false

/-- The running job waits for a stage that the camera is not in, and the controller has nothing to do. -/
structure Stuck (a : Agent σ δ τ) (wanted : Stage.Set) (action : Action) : Prop where
  served : a.isServed
  unstopped : a.dispatcher.Unstopped
  unposted : a.releasing = .unposted
  waiting : a.dispatcher.current? = some (.post (some wanted) action)
  empty : a.controller.mailbox = []
  unreached : a.controller.cell.check wanted = none

variable {a : Agent σ δ τ} {wanted : Stage.Set} {action : Action}

namespace Stuck

theorem dispatch?_none (ha : a.Stuck wanted action) : a.dispatch? = none := by
  unfold dispatch?
  rw [ha.unstopped.place, ha.waiting]
  dsimp only [work?]
  rw [ha.unreached]

theorem giveUp?_none (ha : a.Stuck wanted action) : a.giveUp? = none := by
  unfold giveUp?
  rw [ha.unposted]
  rfl

theorem proceed?_none (ha : a.Stuck wanted action) : a.proceed? = none := by
  unfold proceed?
  split
  · rw [ha.served]
    rfl
  · rw [ha.unstopped.running]
    rfl
  · rfl

end Stuck

/-- A job that runs can end, unless the dispatcher is being stopped. -/
theorem finish?_ne_none {job : Job} (hd : a.dispatcher.Unstopped)
    (hjob : a.dispatcher.current? = some job) : a.finish? ≠ none := by
  intro hnone
  have hfinish := hd.finish?_isSome hjob
  rw [Option.map_eq_none_iff.mp hnone] at hfinish
  cases hfinish

section standstill

/-- A dispatcher that cannot go on has no jobs or waits for a stage: it never waits for a barrier that the
controller has come past. -/
theorem idle_or_stuck (ha : a.Sound) (hserved : a.isServed) (hempty : a.controller.mailbox = [])
    (hdispatch : a.dispatch? = none) : a.dispatcher.current? = none ∧ a.dispatcher.queue = [] ∨
      ∃ wanted action, a.Stuck wanted action := by
  have hunstopped := ha.unstopped hserved
  unfold dispatch? at hdispatch
  rw [hunstopped.place] at hdispatch
  cases hjob : a.dispatcher.current? with
  | none =>
    rw [hjob] at hdispatch
    left
    exact ⟨rfl, hunstopped.queue_eq_nil hjob (Option.map_eq_none_iff.mp hdispatch)⟩
  | some job =>
    have hfinish := finish?_ne_none hunstopped hjob
    have hposted (messages : List (Message δ τ)) : (a.deliver messages).finish? ≠ none := by
      rw [deliver_eq]
      exact finish?_ne_none hunstopped hjob
    rw [hjob] at hdispatch
    have hwork : a.work? job = none := hdispatch
    cases job with
    | post wanted action =>
      cases wanted with
      | none => exact absurd hwork (hposted _)
      | some wanted =>
        unfold work? at hwork
        dsimp only at hwork
        split at hwork
        · exact absurd hwork (hposted _)
        · exact absurd hwork hfinish
        · next hcheck =>
          right
          exact ⟨wanted, action, hserved, hunstopped, ha.post_unposted hjob, hjob, hempty, hcheck⟩
    | release ticket =>
      unfold work? at hwork
      dsimp only at hwork
      rw [hserved] at hwork
      split at hwork
      · next hnot => cases hnot
      · split at hwork
        · cases hwork
        · cases hwork
        · next hawaiting =>
          rcases ha.barrier hserved hawaiting ticket hjob with hdone | hqueued
          · rw [if_pos hdone] at hwork
            exact absurd hwork hfinish
          · rw [hempty] at hqueued
            cases hqueued

variable [Subsystem σ δ τ]

theorem mailbox_eq_nil (hserved : a.isServed) (hhandle : a.handle? = none) :
    a.controller.mailbox = [] := by
  have hstatus : a.controller.status = .running := of_decide_eq_true hserved
  unfold handle? Controller.step? at hhandle
  rw [hstatus] at hhandle
  cases hmailbox : a.controller.mailbox with
  | nil => rfl
  | cons message rest =>
    rw [hmailbox] at hhandle
    cases hhandle

end standstill

namespace Course

/-- Nothing has come of what was queued: the same job still waits, with the same jobs behind it. -/
structure Waits (s : Course σ δ τ) (wanted : Stage.Set) (action : Action) (s' : Course σ δ τ) :
    Prop where
  stuck : s'.now.Stuck wanted action
  queue : s.now.dispatcher.queue <+: s'.now.dispatcher.queue
  posted : s'.posted = s.posted
  past : s'.past = s.past

variable {s s' : Course σ δ τ}

theorem Waits.refl (hs : s.now.Stuck wanted action) : s.Waits wanted action s :=
  ⟨hs, List.prefix_refl _, rfl, rfl⟩

theorem Waits.submit (h : s.Waits wanted action s') {job : Job} {d : Dispatcher Job}
    (hsubmit : s'.now.dispatcher.submit job = .ok d) :
    s.Waits wanted action (s'.advance (s'.now.dispatching d)) := by
  have hunstopped := h.stuck.unstopped.submit hsubmit
  obtain ⟨-, rfl⟩ := Dispatcher.submit_eq hsubmit
  refine ⟨?_, h.queue.trans (List.prefix_append _ _), h.posted, h.past⟩
  exact ⟨h.stuck.served, hunstopped, h.stuck.unposted, h.stuck.waiting, h.stuck.empty,
    h.stuck.unreached⟩

/-- What is not about the stage or the mailbox does not help. -/
theorem Waits.still (h : s.Waits wanted action s') {now : Agent σ δ τ}
    (hdispatcher : now.dispatcher = s'.now.dispatcher) (hreleasing : now.releasing = s'.now.releasing)
    (hstatus : now.controller.status = s'.now.controller.status)
    (hmailbox : now.controller.mailbox = s'.now.controller.mailbox)
    (hcell : now.controller.cell = s'.now.controller.cell) :
    s.Waits wanted action (s'.advance now) := by
  refine ⟨⟨?_, ?_, ?_, ?_, ?_, ?_⟩, ?_, h.posted, h.past⟩
  · exact (isServed_of_status hstatus).trans h.stuck.served
  · exact hdispatcher ▸ h.stuck.unstopped
  · exact hreleasing.trans h.stuck.unposted
  · exact (congrArg Dispatcher.current? hdispatcher).trans h.stuck.waiting
  · exact hmailbox.trans h.stuck.empty
  · exact (congrArg (·.check wanted) hcell).trans h.stuck.unreached
  · exact hdispatcher ▸ h.queue

variable [Subsystem σ δ τ]

theorem Waits.step (h : s.Waits wanted action s') {move : Move σ δ τ} (hmove : move.rouses = false) :
    s.Waits wanted action (s'.step move) := by
  cases move with
  | environment world events => cases hmove
  | force stage => cases hmove
  | invalidate => cases hmove
  | recycle => cases hmove
  | submit job =>
    show s.Waits wanted action ((s'.now.submit job).toOption.elim s' s'.advance)
    unfold Agent.submit
    cases hsubmit : s'.now.dispatcher.submit job with
    | error failure => exact h
    | ok d => exact h.submit hsubmit
  | handle =>
    rcases s'.handle_cases with hsame | ⟨_, -, hbefore, -⟩
    · show s.Waits wanted action s'.handle
      rw [hsame]
      exact h
    · have hempty := h.stuck.empty
      rw [hbefore] at hempty
      cases hempty
  | dispatch =>
    show s.Waits wanted action (s'.now.dispatch?.elim s' s'.dispatchTo)
    rw [h.stuck.dispatch?_none]
    exact h
  | giveUp =>
    show s.Waits wanted action (s'.now.giveUp?.elim s' s'.advance)
    rw [h.stuck.giveUp?_none]
    exact h
  | proceed =>
    show s.Waits wanted action (s'.now.proceed?.elim s' s'.advance)
    rw [h.stuck.proceed?_none]
    exact h
  | setExceptionCallback | enroll | addTexture | tick => exact h.still rfl rfl rfl rfl rfl

theorem Waits.run (h : s.Waits wanted action s') {moves : List (Move σ δ τ)}
    (hmoves : ∀ move ∈ moves, move.rouses = false) : s.Waits wanted action (s'.run moves) :=
  invariant (s.Waits wanted action) (·.rouses = false) (fun _ _ hmove h => h.step hmove) hmoves h

/-- The running job comes from one of the calls. -/
theorem current_called {config : Config} {world : σ} {clock : String} {a : Agent σ δ τ}
    (hstart : Agent.start config world clock = .ok a) {moves : List (Move σ δ τ)} {job : Job}
    (hjob : ((start a).run moves).now.dispatcher.current? = some job) :
    job ∈ moves.filterMap (·.job?) := by
  obtain ⟨new, hnew, hcalled⟩ := accepted_called (start a) moves
  have hahead := (ordered hstart moves).sound.jobs.ahead
  rw [start_accepted hstart, List.nil_append] at hnew
  rw [hnew, hjob] at hahead
  apply hcalled.subset
  apply hahead.subset
  simp

/-- When neither thread can go on and the controller is still there, everything is done, or a call waits for
the stage that it needs and the camera is not in it. Such a wait goes on, and with it that of all calls that
come behind, until the hardware stirs, the stage cell is written to or the agent is recycled. -/
theorem rests_or_waits {config : Config} {world : σ} {clock : String} {a : Agent σ δ τ}
    (hstart : Agent.start config world clock = .ok a) (moves : List (Move σ δ τ))
    (hcalled : ∀ job ∈ moves.filterMap (·.job?), job.Called) :
    let s := (start a).run moves
    s.now.isServed → s.now.handle? = none → s.now.dispatch? = none →
      s.now.controller.mailbox = [] ∧
        (s.now.dispatcher.current? = none ∧ s.now.dispatcher.queue = [] ∨
          ∃ wanted action, action.awaited = some wanted ∧
            s.now.dispatcher.current? = some (.post (some wanted) action) ∧
            s.now.controller.cell.invalid = false ∧ s.now.controller.stage ∉ wanted ∧
            ∀ more : List (Move σ δ τ), (∀ move ∈ more, move.rouses = false) →
              s.Waits wanted action (s.run more)) := by
  intro s hserved hhandle hdispatch
  have hs : s.Ordered := ordered hstart moves
  have hempty := mailbox_eq_nil hserved hhandle
  refine ⟨hempty, ?_⟩
  rcases idle_or_stuck hs.sound hserved hempty hdispatch with hidle | ⟨wanted, action, hstuck⟩
  · exact Or.inl hidle
  · right
    obtain ⟨hvalid, hunreached⟩ := check_none hstuck.unreached
    have hjob : Job.Called (.post (some wanted) action) :=
      hcalled _ (current_called hstart hstuck.waiting)
    have hawaited : action.awaited = some wanted := by
      rcases hjob with hnone | hsome
      · cases hnone
      · exact hsome.symm
    exact ⟨wanted, action, hawaited, hstuck.waiting, hvalid, hunreached,
      fun more hmore => (Waits.refl hstuck).run hmore⟩

/-- A preview is asked for before there is anything to show, and then a release. -/
def hastyMoves : List (Move Simulator Simulator.Device Simulator.Session) :=
  [.submit (.post none (.openCamera 0 0)), .dispatch, .dispatch, .handle, .handle,
    .submit (.post (some (.atLeast .previewReady)) (.startPreview none)), .dispatch,
    .submit (.post none .release)]

theorem hastyMoves_called : ∀ job ∈ hastyMoves.filterMap (·.job?), job.Called := by
  intro job hjob
  simp only [hastyMoves, Move.job?, List.filterMap_cons, List.filterMap_nil, List.mem_cons,
    List.not_mem_nil, or_false] at hjob
  rcases hjob with rfl | rfl | rfl
  · exact Or.inl rfl
  · exact Or.inr rfl
  · exact Or.inl rfl

theorem hasty_release_waits :
    Agent.start {} (Simulator.withDevices ["0"]) "" = .ok simulated ∧
    let s := (start simulated).run hastyMoves
    s.now.isServed ∧ s.now.handle? = none ∧ s.now.dispatch? = none ∧
      s.now.dispatcher.queue = [.job (.post none .release)] ∧
      ∃ wanted action, action.awaited = some wanted ∧ s.now.controller.stage ∉ wanted ∧
        ∀ more : List (Move Simulator Simulator.Device Simulator.Session),
          (∀ move ∈ more, move.rouses = false) → s.Waits wanted action (s.run more) := by
  have hstart : Agent.start {} (Simulator.withDevices ["0"]) "" = .ok simulated := rfl
  have hend := rests_or_waits hstart hastyMoves hastyMoves_called rfl rfl rfl
  refine ⟨hstart, rfl, rfl, rfl, rfl, ?_⟩
  rcases hend.2 with ⟨-, hempty⟩ | ⟨wanted, action, hawaited, -, -, hunreached, hwaits⟩
  · cases hempty
  · exact ⟨wanted, action, hawaited, hunreached, hwaits⟩

/-- Agents do not always come to rest with nothing left to do. -/
theorem not_always_at_rest :
    ¬ ∀ moves : List (Move Simulator Simulator.Device Simulator.Session),
      (∀ job ∈ moves.filterMap (·.job?), job.Called) →
      let s := (start simulated).run moves
      s.now.isServed → s.now.handle? = none → s.now.dispatch? = none →
        s.now.dispatcher.queue = [] ∧ s.now.dispatcher.current? = none := by
  intro hrest
  have hempty := (hrest hastyMoves hastyMoves_called rfl rfl rfl).1
  cases hempty

end Course

end Agent

end CameraControl
