import CameraControl.Proofs.Crews

/-!
How an agent winds up once its controller has ended, by a shutdown or a crash, whatever the others were about
at that moment. The stage cell is invalid from then on, so that all who sleep on it are woken and every wait
fails; the dispatcher comes to the end of what was accepted, and nobody handles what it still posts. Whoever
recycles the agent waits for a dispatcher that can always go on.
-/
namespace CameraControl.Agent

namespace Crew

open Stage.Watch (Waiter)

variable {σ δ τ : Type} [Subsystem σ δ τ] {s s' : Crew σ δ τ} {now : Agent σ δ τ}

section ended

omit [Subsystem σ δ τ]

theorem Dispatch.served (h : s.Dispatch s') : s'.agent.isServed = s.agent.isServed := by
  cases h with
  | taken | looked => rfl
  | worked _ hgains =>
    obtain ⟨new, hgains⟩ := hgains
    exact isServed_of_status (by rw [hgains])

theorem Dispatch.bound (h : s.Dispatch s') :
    s'.agent.dispatcher.bound = s.agent.dispatcher.bound := by
  cases h with
  | taken htake => exact Dispatcher.bound_take htake
  | looked => rfl
  | worked _ _ _ hdispatcher =>
    rcases hdispatcher with ⟨-, hsame⟩ | hfinish
    · exact congrArg Dispatcher.bound hsame
    · exact Dispatcher.bound_finish hfinish

theorem Dispatch.recycling (h : s.Dispatch s') : s'.agent.recycling = s.agent.recycling ∧
    s'.agent.dispatcher.marker = s.agent.dispatcher.marker := by
  cases h with
  | taken htake =>
    obtain ⟨-, ⟨job, rest, -, rfl⟩ | ⟨rest, -, rfl⟩⟩ := Dispatcher.take?_cases htake <;>
      exact ⟨rfl, rfl⟩
  | looked => exact ⟨rfl, rfl⟩
  | @worked job now _ _ hrecycling hdispatcher =>
    refine ⟨hrecycling, ?_⟩
    rcases hdispatcher with ⟨-, hsame⟩ | hfinish
    · exact congrArg Dispatcher.marker hsame
    · obtain ⟨job, -, heq⟩ := Dispatcher.finish?_eq hfinish
      show now.dispatcher.marker = _
      rw [heq]

/-- A controller that has ended stays so. -/
theorem Step.ended (h : s.Step s') (hended : s.agent.isServed = false) : s'.agent.isServed = false := by
  cases h with
  | idle | placed | arrived | looked => exact hended
  | submitted | stopping | recycled =>
    rw [follow_agent]
    exact hended
  | aside _ _ hserved =>
    rw [follow_agent]
    refine eq_false_of_ne_true fun his => ?_
    cases hended.symm.trans (hserved his)
  | dispatched hdispatch => exact hdispatch.served.trans hended

/-- No job that is ahead of the stop marker is lost. -/
theorem Step.bound (h : s.Step s') :
    s.agent.dispatcher.bound <+: s'.agent.dispatcher.bound := by
  cases h with
  | idle | arrived | looked => exact List.prefix_refl _
  | aside hdispatcher =>
    rw [follow_agent, hdispatcher]
  | submitted hsubmit =>
    rw [follow_agent]
    exact Dispatcher.bound_submit hsubmit
  | dispatched hdispatch => rw [hdispatch.bound]
  | placed hplace => exact Dispatcher.bound_place hplace
  | stopping =>
    rw [follow_agent]
    show _ <+: (s.agent.dispatcher.claim .outside).bound
    rw [Dispatcher.bound_claim]
  | recycled =>
    rw [follow_agent]

theorem deliver_ended {a : Agent σ δ τ} (hended : a.isServed = false) (messages : List (Message δ τ)) :
    a.deliver messages = a := by
  unfold deliver
  rw [hended]
  rfl

/-- With the controller gone, no job is asleep. -/
theorem Sound.not_asleep (hs : s.Sound) (hended : s.agent.isServed = false) : s.wait ≠ .asleep := by
  intro hasleep
  obtain ⟨wanted, -, -, hcheck⟩ := hs.asleep hasleep
  cases (Stage.Cell.check_invalid (hs.ended hended).1 wanted).symm.trans hcheck

theorem finish?_isSome {a : Agent σ δ τ} {job : Job} (hmarker : a.dispatcher.marker ≠ .inside)
    (hjob : a.dispatcher.current? = some job) : a.finish?.isSome := by
  unfold Agent.finish?
  rw [Option.isSome_map]
  exact Dispatcher.finish?_isSome hmarker hjob

/-- Any job that runs can go on. -/
theorem Sound.works (hs : s.Sound) (hended : s.agent.isServed = false) {job : Job}
    (hjob : s.agent.dispatcher.current? = some job) : s.dispatch?.isSome := by
  have hfinish : s.agent.finish?.isSome := finish?_isSome hs.winding.marker hjob
  have hcrew : (s.finish? s.agent).isSome := by
    unfold Crew.finish?
    rw [Option.isSome_map]
    exact hfinish
  unfold dispatch?
  rw [hjob]
  cases job with
  | post wanted action =>
    cases wanted with
    | none =>
      have hwork : s.agent.work? (.post none action) = s.agent.finish? :=
        congrArg Agent.finish? (deliver_ended hended _)
      show ((s.agent.work? (.post none action)).map _).isSome
      rw [Option.isSome_map, hwork]
      exact hfinish
    | some wanted =>
      dsimp only
      cases hwait : s.wait with
      | awake => rfl
      | asleep => exact absurd hwait (hs.not_asleep hended)
      | answered reached =>
        cases reached with
        | true =>
          dsimp only
          rw [deliver_ended hended]
          exact hcrew
        | false => exact hcrew
  | release ticket =>
    have hwork : s.agent.work? (.release ticket) = s.agent.finish? := by
      unfold work?
      rw [hended]
      rfl
    show ((s.agent.work? (.release ticket)).map _).isSome
    rw [Option.isSome_map, hwork]
    exact hfinish

/-- The dispatcher can go on until there is nothing left to do. -/
theorem Sound.dispatches (hs : s.Sound) (hended : s.agent.isServed = false) : s.dispatch?.isSome ∨
    s.agent.dispatcher.current? = none ∧ s.agent.dispatcher.queue = [] := by
  cases hjob : s.agent.dispatcher.current? with
  | some job => exact Or.inl (hs.works hended hjob)
  | none =>
    by_cases hqueue : s.agent.dispatcher.queue = []
    · exact Or.inr ⟨rfl, hqueue⟩
    · left
      have hrunning : s.agent.dispatcher.hasEnded = false := by
        by_contra hover
        exact hqueue (hs.winding.stopped (eq_true_of_ne_false hover)).queue
      unfold dispatch?
      rw [hjob]
      show (s.agent.dispatcher.take?.map _).isSome
      rw [Option.isSome_map]
      exact Dispatcher.take?_isSome (Dispatcher.worker_idle hjob hrunning) hqueue

/-- How many of its steps the running job has made: it is taken and may look at the cell once. -/
def steps (s : Crew σ δ τ) : Nat :=
  match s.agent.dispatcher.current? with
  | none => 0
  | some _ => if s.wait = .awake then 1 else 2

theorem steps_none (hnone : s.agent.dispatcher.current? = none) : s.steps = 0 := by
  unfold steps
  rw [hnone]

theorem steps_some {job : Job} (hjob : s.agent.dispatcher.current? = some job) :
    s.steps = if s.wait = .awake then 1 else 2 := by
  unfold steps
  rw [hjob]

theorem steps_le (s : Crew σ δ τ) : s.steps ≤ 2 := by
  unfold steps
  split
  · exact Nat.zero_le 2
  · split_ifs <;> omega

/-- How far the dispatcher has come, with three steps for each job. -/
def progress (s : Crew σ δ τ) : Nat := 3 * s.agent.dispatcher.finished.length + s.steps

theorem finished_of_progress {n : Nat} (h : 3 * n ≤ s.progress) :
    n ≤ s.agent.dispatcher.finished.length := by
  have hle := s.steps_le
  unfold progress at h
  omega

theorem follow_wait (hawake : s.wait ≠ .asleep) (now : Agent σ δ τ) :
    (s.follow now).wait = s.wait := by
  unfold follow
  by_cases hsame : now.controller.cell = s.cell
  · rw [if_pos hsame]
  · rw [if_neg hsame]
    exact if_neg hawake

theorem follow_steps (hawake : s.wait ≠ .asleep)
    (hcurrent : now.dispatcher.current? = s.agent.dispatcher.current?) :
    (s.follow now).steps = s.steps := by
  unfold steps
  rw [follow_agent, follow_wait hawake, hcurrent]

theorem follow_progress (hawake : s.wait ≠ .asleep)
    (hfinished : now.dispatcher.finished = s.agent.dispatcher.finished)
    (hcurrent : now.dispatcher.current? = s.agent.dispatcher.current?) :
    s.progress ≤ (s.follow now).progress := by
  unfold progress
  rw [follow_steps hawake hcurrent, follow_agent, hfinished]

/-- What is left of the queue and of the running job, if each job takes three steps. -/
def toil (s : Crew σ δ τ) : Nat :=
  3 * (s.agent.dispatcher.queue.length + s.agent.dispatcher.current?.toList.length) - s.steps

/-- A step of the dispatcher is one of its job, unless it comes to the stop marker and ends. -/
theorem Sound.forward (hs : s.Sound) (hended : s.agent.isServed = false) (h : s.Dispatch s') :
    s'.toil < s.toil ∧ (s.progress < s'.progress ∨ s'.progress = s.progress ∧
      s.agent.dispatcher.bound = s.agent.dispatcher.finished) := by
  unfold toil progress
  cases h with
  | @taken d htake =>
    obtain ⟨hworker, ⟨job, rest, hqueue, rfl⟩ | ⟨rest, hqueue, rfl⟩⟩ := Dispatcher.take?_cases htake
    · have hnone := Dispatcher.current?_idle hworker
      have hafter := steps_some (s := { s with agent := s.agent.dispatching { s.agent.dispatcher with
        queue := rest, worker := .running job, listening := false } }) rfl
      rw [steps_none hnone, hafter, hqueue, hnone]
      simp only [Agent.dispatching, Dispatcher.current?, List.length_cons, Option.toList_some,
        Option.toList_none, List.length_nil]
      split_ifs <;> omega
    · have hnone := Dispatcher.current?_idle hworker
      have hafter := steps_none (s := { s with agent := s.agent.dispatching { s.agent.dispatcher with
        queue := [], worker := .ended, listening := false } }) rfl
      have hbound : s.agent.dispatcher.bound = s.agent.dispatcher.finished := by
        unfold Dispatcher.bound Dispatcher.ahead
        rw [hnone, hqueue]
        simp [Dispatcher.Item.job?]
      rw [steps_none hnone, hafter, hqueue, hnone]
      refine ⟨?_, Or.inr ⟨rfl, hbound⟩⟩
      simp [Agent.dispatching, Dispatcher.current?]
  | @looked wanted action hjob hawake =>
    have hphase : (Waiter.look { wanted } s.cell).phase = .answered false := by
      rw [Stage.Watch.Waiter.look_awake rfl, Stage.Cell.check_invalid (hs.ended hended).1]
      rfl
    have hafter := steps_some (s := { s with wait := (Waiter.look { wanted } s.cell).phase }) hjob
    rw [if_neg (by rw [hphase]; exact Stage.Watch.Phase.noConfusion)] at hafter
    rw [steps_some hjob, if_pos hawake, hafter, hjob]
    simp only [Option.toList_some, List.length_singleton]
    omega
  | @worked job now hjob _ _ hdispatcher =>
    rcases hdispatcher with ⟨hserved, -⟩ | hfinish
    · cases hended.symm.trans hserved
    · obtain ⟨job, -, heq⟩ := Dispatcher.finish?_eq hfinish
      have hle := s.steps_le
      have hafter := steps_none (s := { s with agent := now, wait := .awake }) (by rw [heq]; rfl)
      rw [hafter, hjob, heq]
      simp only [Dispatcher.current?, Option.toList_some, Option.toList_none, List.length_singleton,
        List.length_nil, List.length_append]
      omega

/-- Nothing sets the dispatcher back. -/
theorem Sound.progress_step (hs : s.Sound) (hended : s.agent.isServed = false) (h : s.Step s') :
    s.progress ≤ s'.progress := by
  have hawake := hs.not_asleep hended
  cases h with
  | idle | arrived | looked => exact Nat.le_refl _
  | aside hdispatcher =>
    exact follow_progress hawake (congrArg _ hdispatcher) (congrArg _ hdispatcher)
  | submitted hsubmit =>
    obtain ⟨-, rfl⟩ := Dispatcher.submit_eq hsubmit
    exact follow_progress hawake rfl rfl
  | dispatched hdispatch =>
    rcases (hs.forward hended hdispatch).2 with hlt | ⟨heq, -⟩
    · exact hlt.le
    · exact heq.ge
  | placed hplace =>
    obtain rfl := Dispatcher.place?_eq hplace
    exact Nat.le_refl _
  | stopping =>
    obtain ⟨-, hcurrent, hfinished⟩ := s.agent.dispatcher.claim_same .outside
    exact follow_progress hawake hfinished hcurrent
  | recycled => exact follow_progress hawake rfl rfl

end ended

/-- The steps of its own bring the dispatcher forward until all jobs are done. -/
theorem Sound.forward_step (hs : s.Sound) (hended : s.agent.isServed = false)
    (hdone : s.agent.dispatcher.finished.length < s.agent.dispatcher.bound.length) :
    s.progress < (s.step (.agent .dispatch)).progress := by
  rcases hs.dispatches hended with hcan | ⟨hnone, hempty⟩
  · obtain ⟨s', hs'⟩ := Option.isSome_iff_exists.mp hcan
    have hstep : s.step (.agent .dispatch) = s' := by
      show s.dispatch?.getD s = s'
      rw [hs']
      rfl
    rw [hstep]
    rcases (hs.forward hended (dispatch?_cases hs')).2 with hlt | ⟨-, hbound⟩
    · exact hlt
    · rw [hbound] at hdone
      exact absurd hdone (Nat.lt_irrefl _)
  · have hbound : s.agent.dispatcher.bound = s.agent.dispatcher.finished := by
      unfold Dispatcher.bound Dispatcher.ahead
      rw [hnone, hempty]
      simp
    rw [hbound] at hdone
    exact absurd hdone (Nat.lt_irrefl _)

def Move.dispatches : Move σ δ τ → Bool
  | agent .dispatch => true
  | _ => false

/-- Jobs that cannot be lost end as soon as the dispatcher has made enough steps, whoever moves in between. -/
theorem Sound.ends (hs : s.Sound) (hended : s.agent.isServed = false) {n : Nat}
    (hn : n ≤ s.agent.dispatcher.bound.length) (moves : List (Move σ δ τ))
    (henough : 3 * n ≤ s.progress + moves.countP Move.dispatches) :
    n ≤ (s.run moves).agent.dispatcher.finished.length := by
  induction moves generalizing s with
  | nil => exact finished_of_progress henough
  | cons move moves ih =>
    have h := s.step_cases move
    refine ih (hs.step move) (h.ended hended) (hn.trans h.bound.length_le) ?_
    have hle := hs.progress_step hended h
    rw [List.countP_cons] at henough
    split at henough
    · next hmove =>
      have hdispatch : move = .agent .dispatch := by
        unfold Move.dispatches at hmove
        split at hmove
        · rfl
        · cases hmove
      by_cases hdone : s.agent.dispatcher.finished.length < s.agent.dispatcher.bound.length
      · have hlt := hs.forward_step hended hdone
        rw [hdispatch]
        omega
      · have hfinished : 3 * s.agent.dispatcher.finished.length ≤ s.progress := Nat.le_add_right _ _
        omega
    · omega

section recycling

/-- A move of the dispatcher or of whoever recycles the agent. -/
def Move.winds : Move σ δ τ → Bool
  | agent .dispatch | agent .proceed | place => true
  | _ => false

/-- How much there is left to do until the agent is recycled. -/
def load (s : Crew σ δ τ) : Nat :=
  s.toil +
    match s.agent.recycling with
    | .awaitingController => 6
    | .awaitingDispatcher => if s.agent.dispatcher.marker = .outside then 5 else 1
    | _ => 0

omit [Subsystem σ δ τ] in
theorem follow_toil (hawake : s.wait ≠ .asleep)
    (hqueue : now.dispatcher.queue = s.agent.dispatcher.queue)
    (hcurrent : now.dispatcher.current? = s.agent.dispatcher.current?) :
    (s.follow now).toil = s.toil := by
  unfold toil
  rw [follow_steps hawake hcurrent, follow_agent, hqueue, hcurrent]

/-- The dispatcher or whoever recycles the agent can make a move that leaves less to do. -/
def Lightens (s : Crew σ δ τ) : Prop :=
  ∃ move s', Move.winds move ∧ s.step? move = some s' ∧ s'.agent.recycling ≠ .unasked ∧
    s'.load < s.load

/-- With the controller gone, the dispatcher is asked to stop. -/
theorem Sound.stops_dispatcher (hs : s.Sound) (hended : s.agent.isServed = false)
    (hrecycling : s.agent.recycling = .awaitingController) : s.Lightens := by
  have hproceed : s.agent.proceed? = some { s.agent with
      controller := { s.agent.controller with cell := s.agent.controller.cell.invalidate }
      dispatcher := s.agent.dispatcher.shutDown
      recycling := .awaitingDispatcher } := by
    unfold proceed?
    rw [hrecycling, hended]
    rfl
  refine ⟨.agent .proceed, _, rfl, congrArg (Option.map s.follow) hproceed, ?_, ?_⟩
  · rw [follow_agent]
    exact Recycling.noConfusion
  · obtain ⟨hqueue, hcurrent, -⟩ := s.agent.dispatcher.claim_same .outside
    have htoil : (s.follow { s.agent with
        controller := { s.agent.controller with cell := s.agent.controller.cell.invalidate }
        dispatcher := s.agent.dispatcher.shutDown
        recycling := .awaitingDispatcher }).toil = s.toil :=
      follow_toil (hs.not_asleep hended) hqueue hcurrent
    unfold load
    rw [htoil, follow_agent, hrecycling]
    dsimp only
    split_ifs <;> omega

/-- With the dispatcher gone as well, the recycling is over. -/
theorem Sound.ends_recycling (hs : s.Sound) (hended : s.agent.isServed = false)
    (hrecycling : s.agent.recycling = .awaitingDispatcher)
    (hover : s.agent.dispatcher.hasEnded) : s.Lightens := by
  have hproceed : s.agent.proceed? = some { s.agent with recycling := .done } := by
    unfold proceed?
    rw [hrecycling, hover]
    rfl
  refine ⟨.agent .proceed, _, rfl, congrArg (Option.map s.follow) hproceed, ?_, ?_⟩
  · rw [follow_agent]
    exact Recycling.noConfusion
  · have htoil : (s.follow { s.agent with recycling := .done }).toil = s.toil :=
      follow_toil (hs.not_asleep hended) rfl rfl
    unfold load
    rw [htoil, follow_agent, hrecycling]
    dsimp only
    split_ifs <;> omega

theorem Sound.goes_on (hs : s.Sound) (hended : s.agent.isServed = false)
    (hrecycling : s.agent.recycling = .awaitingDispatcher) (hcan : s.dispatch?.isSome) :
    s.Lightens := by
  obtain ⟨s', hs'⟩ := Option.isSome_iff_exists.mp hcan
  have h := dispatch?_cases hs'
  refine ⟨.agent .dispatch, s', rfl, hs', ?_, ?_⟩
  · rw [h.recycling.1, hrecycling]
    exact Recycling.noConfusion
  · unfold load
    rw [h.recycling.1, h.recycling.2]
    exact Nat.add_lt_add_right (hs.forward hended h).1 _

/-- A worker with nothing to do waits for the stop marker, and there is room for it. -/
theorem Sound.places_marker (hs : s.Sound) (hrecycling : s.agent.recycling = .awaitingDispatcher)
    (hnone : s.agent.dispatcher.current? = none) (hempty : s.agent.dispatcher.queue = [])
    (hover : ¬ s.agent.dispatcher.hasEnded) : s.Lightens := by
  have hwinding := hs.winding
  rw [hrecycling] at hwinding
  cases hwinding with
  | queued hmarker hqueue =>
    rw [hempty] at hqueue
    cases hqueue
  | halted hstopped => exact absurd hstopped.ended hover
  | waiting hmarker hqueue hrunning =>
    obtain ⟨d, hplace⟩ := Option.isSome_iff_exists.mp
      (Dispatcher.place?_isSome hmarker (Dispatcher.worker_idle hnone hrunning) hempty)
    refine ⟨.place, _, rfl, congrArg (Option.map _) hplace, ?_, ?_⟩
    · show s.agent.recycling ≠ .unasked
      rw [hrecycling]
      exact Recycling.noConfusion
    · obtain ⟨hlength, hcurrent, hplaced⟩ := Dispatcher.place?_same hplace
      have hsteps := steps_none (s := { s with agent := s.agent.dispatching d })
        (hcurrent.trans hnone)
      unfold load toil
      rw [hsteps, steps_none hnone]
      simp only [Agent.dispatching, hlength, hcurrent, hplaced, hrecycling, hmarker, if_true]
      rw [if_neg Dispatcher.Marker.noConfusion]
      omega

/-- As long as the recycling is not over, it can go on or the dispatcher can. -/
theorem Sound.winds (hs : s.Sound) (hended : s.agent.isServed = false)
    (hasked : s.agent.recycling ≠ .unasked) (hdone : s.agent.recycling ≠ .done) : s.Lightens := by
  cases hrecycling : s.agent.recycling with
  | unasked => exact absurd hrecycling hasked
  | done => exact absurd hrecycling hdone
  | awaitingController => exact hs.stops_dispatcher hended hrecycling
  | awaitingDispatcher =>
    by_cases hover : s.agent.dispatcher.hasEnded
    · exact hs.ends_recycling hended hrecycling hover
    · rcases hs.dispatches hended with hcan | ⟨hnone, hempty⟩
      · exact hs.goes_on hended hrecycling hcan
      · exact hs.places_marker hrecycling hnone hempty hover

/-- Whoever recycles the agent can come to an end of it. -/
theorem Sound.recycles (hs : s.Sound) (hended : s.agent.isServed = false)
    (hasked : s.agent.recycling ≠ .unasked) : ∃ moves : List (Move σ δ τ),
      (∀ move ∈ moves, move.winds) ∧ (s.run moves).agent.recycling = .done := by
  induction hload : s.load using Nat.strong_induction_on generalizing s with
  | h n ih =>
    subst hload
    by_cases hdone : s.agent.recycling = .done
    · exact ⟨[], List.forall_mem_nil _, hdone⟩
    · obtain ⟨move, s', hwinds, hstep, hstill, hless⟩ := hs.winds hended hasked hdone
      have heq : s.step move = s' := congrArg (·.getD s) hstep
      have h := s.step_cases move
      have hsound := hs.step move
      rw [heq] at h hsound
      obtain ⟨moves, hmoves, hover⟩ := ih _ hless hsound (h.ended hended) hstill rfl
      refine ⟨move :: moves, List.forall_mem_cons.mpr ⟨hwinds, hmoves⟩, ?_⟩
      show ((s.step move).run moves).agent.recycling = .done
      rw [heq]
      exact hover

end recycling

theorem ended_run (hended : s.agent.isServed = false) (moves : List (Move σ δ τ)) :
    (s.run moves).agent.isServed = false := by
  induction moves generalizing s with
  | nil => exact hended
  | cons move moves ih => exact ih ((s.step_cases move).ended hended)

theorem bound_run (s : Crew σ δ τ) (moves : List (Move σ δ τ)) :
    s.agent.dispatcher.bound <+: (s.run moves).agent.dispatcher.bound := by
  induction moves generalizing s with
  | nil => exact List.prefix_refl _
  | cons move moves ih => exact (s.step_cases move).bound.trans (ih _)

/-- A controller that has ended handles nothing. -/
theorem handle?_ended {a : Agent σ δ τ} (hended : a.isServed = false) : a.handle? = none := by
  have hstatus : a.controller.status ≠ .running := of_decide_eq_false hended
  have hstep : a.controller.step? = none := by
    unfold Controller.step?
    split
    · next hrunning _ => exact absurd hrunning hstatus
    · rfl
  unfold handle?
  rw [hstep]
  rfl

theorem handle_dispatcher (s : Crew σ δ τ) :
    (s.step (.agent .handle)).agent.dispatcher = s.agent.dispatcher := by
  show ((s.agent.handle?.map s.follow).getD s).agent.dispatcher = _
  cases hhandle : s.agent.handle? with
  | none => rfl
  | some now =>
    obtain ⟨⟨message, controller⟩, -, rfl⟩ := Option.map_eq_some_iff.mp hhandle
    show (s.follow _).agent.dispatcher = _
    rw [follow_agent]
    exact Course.bury_dispatcher _

/-- Whoever still waits on the cell can look, and is told that it is over. -/
theorem Sound.told (hs : s.Sound) (hended : s.agent.isServed = false) {n : Nat} {w : Waiter}
    (hw : s.waiters[n]? = some w) : w.phase ≠ .asleep ∧ (w.phase = .awake →
      (s.step? (.look n)).isSome ∧ (s.step (.look n)).watch.told? n = some false) := by
  have hinvalid := (hs.ended hended).1
  refine ⟨(hs.alert.released hinvalid).1 w (List.mem_of_getElem? hw), ?_⟩
  intro hawake
  have hstep : s.step? (.look n) =
      some { s with waiters := s.waiters.modify n fun w => w.look s.cell } := by
    refine if_pos ?_
    rw [hw]
    exact decide_eq_true hawake
  refine ⟨by rw [hstep]; rfl, ?_⟩
  have hwatch : (s.step (.look n)).watch = s.watch.step (.look n) := by
    unfold Crew.step
    rw [hstep]
    rfl
  rw [hwatch, Stage.Watch.told_look hw hawake]
  exact Stage.Cell.check_invalid hinvalid w.wanted

/-- Whenever the controller ends, the stage cell is invalid from then on and nothing is handled any more.
Nobody sleeps on the cell, and all who wait are told that it is over when they look. The dispatcher can make a
step as long as it runs a job or has one queued; whatever else happens, every job that was accepted before
ends within three of its steps. Whoever recycles the agent can go on or waits for a dispatcher that can, and
can come to an end. -/
theorem winds_up {config : Config} {world : σ} {clock : String} {a : Agent σ δ τ}
    (hstart : Agent.start config world clock = .ok a) (moves : List (Move σ δ τ)) :
    let s := ({ agent := a } : Crew σ δ τ).run moves
    s.agent.isServed → (s.step (.agent .handle)).agent.isServed = false → ∀ later,
      let t := (s.step (.agent .handle)).run later
      let d := t.agent.dispatcher
      (t.cell.invalid ∧ t.agent.controller.mailbox = [] ∧ t.step? (.agent .handle) = none) ∧
      (∀ n w, t.waiters[n]? = some w → w.phase ≠ .asleep ∧ (w.phase = .awake →
        (t.step? (.look n)).isSome ∧ (t.step (.look n)).watch.told? n = some false)) ∧
      ((t.step? (.agent .dispatch)).isSome ∨ d.current? = none ∧ d.queue = []) ∧
      (3 * (s.agent.dispatcher.accepted.length - s.agent.dispatcher.finished.length) ≤
        later.countP Move.dispatches → s.agent.dispatcher.accepted <+: d.finished) ∧
      (t.agent.recycling ≠ .unasked →
        (t.agent.recycling = .done ∨ ∃ move, Move.winds move ∧ (t.step? move).isSome) ∧
        ∃ more : List (Move σ δ τ), (∀ move ∈ more, move.winds) ∧
          (t.run more).agent.recycling = .done) := by
  intro s hserved hended later t d
  have hs : s.Sound := (sound_start hstart).run moves
  have he := hs.step (.agent .handle)
  have ht : t.Sound := he.run later
  have hover : t.agent.isServed = false := ended_run hended later
  refine ⟨?_, fun n w => ht.told hover, ht.dispatches hover, ?_, ?_⟩
  · obtain ⟨hinvalid, hempty⟩ := ht.ended hover
    exact ⟨hinvalid, hempty, congrArg (Option.map t.follow) (handle?_ended hover)⟩
  · intro henough
    -- Nobody has asked the dispatcher to stop by then.
    have hunstopped : s.agent.dispatcher.Unstopped := by
      have hwinding := hs.winding
      rcases hs.served hserved with hrecycling | hrecycling
      · rw [hrecycling] at hwinding
        exact hwinding
      · rw [hrecycling] at hwinding
        exact hwinding
    have hbound : s.agent.dispatcher.accepted = (s.step (.agent .handle)).agent.dispatcher.bound := by
      rw [handle_dispatcher, hunstopped.bound hs.jobs]
    have hahead := bound_run (s.step (.agent .handle)) later
    have hcount : s.agent.dispatcher.accepted.length ≤ d.finished.length := by
      refine he.ends hended (congrArg List.length hbound).le later ?_
      unfold progress
      rw [handle_dispatcher]
      omega
    rw [← hbound] at hahead
    have hfinished : d.finished <+: d.bound :=
      (List.prefix_append _ _).trans (List.prefix_append _ _)
    exact List.prefix_of_prefix_length_le hahead hfinished hcount
  · intro hasked
    refine ⟨?_, ht.recycles hover hasked⟩
    by_cases hdone : t.agent.recycling = .done
    · exact Or.inl hdone
    · right
      obtain ⟨move, t', hwinds, hstep, -⟩ := ht.winds hover hasked hdone
      exact ⟨move, hwinds, by rw [hstep]; rfl⟩

/-- A preview is waited for by a job and by somebody else, and a release is queued behind, when the controller
comes to an action that it cannot handle. -/
def crashMoves : List (Move Simulator Simulator.Device Simulator.Session) :=
  [.agent (.submit (.post none (.openCamera 0 0))), .agent .dispatch, .agent .dispatch,
    .agent (.submit (.post none .lock)), .agent .dispatch, .agent .dispatch,
    .agent (.submit (.post (some (.atLeast .previewReady)) (.startPreview none))),
    .agent (.submit (.release 7)), .agent .dispatch, .agent .dispatch,
    .arrive (.of [.previewActive]), .look 0, .agent .handle]

/-- The agent is recycled while the dispatcher goes on with what it has. -/
def recyclingMoves : List (Move Simulator Simulator.Device Simulator.Session) :=
  [.agent .recycle, .agent .dispatch, .agent .proceed, .agent .dispatch, .place, .agent .dispatch,
    .agent .dispatch, .agent .dispatch, .agent .dispatch]

/-- Everyone who was asleep is told that it is over, both jobs end and the dispatcher stops. -/
theorem crashed_winds_up :
    Agent.start {} (Simulator.withDevices ["0"]) "" = .ok Course.simulated ∧
    let s := ({ agent := Course.simulated } : Crew _ _ _).run crashMoves
    let t := (s.step (.agent .handle)).run recyclingMoves
    s.wait = .asleep ∧ s.waiters.map (·.phase) = [.asleep] ∧
      s.agent.isServed ∧ (s.step (.agent .handle)).agent.isServed = false ∧
      t.cell.invalid ∧ (t.step (.look 0)).watch.told? 0 = some false ∧
      s.agent.dispatcher.finished.length = 2 ∧ s.agent.dispatcher.accepted.length = 4 ∧
      s.agent.dispatcher.accepted <+: t.agent.dispatcher.finished ∧
      ∃ more : List (Move Simulator Simulator.Device Simulator.Session),
        (∀ move ∈ more, move.winds) ∧ (t.run more).agent.recycling = .done := by
  have hstart : Agent.start {} (Simulator.withDevices ["0"]) "" = .ok Course.simulated := rfl
  obtain ⟨⟨hinvalid, -, -⟩, htold, -, hfinished, hrecycled⟩ :=
    winds_up hstart crashMoves rfl rfl recyclingMoves
  refine ⟨hstart, rfl, rfl, rfl, rfl, hinvalid, ?_, rfl, rfl, hfinished (by decide), ?_⟩
  · exact ((htold 0 _ rfl).2 rfl).2
  · exact (hrecycled Recycling.noConfusion).2

end Crew

end CameraControl.Agent
