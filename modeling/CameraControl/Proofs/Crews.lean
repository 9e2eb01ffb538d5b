import CameraControl.Agent.Calls
import CameraControl.Agent.Crew
import CameraControl.Proofs.Draining
import CameraControl.Proofs.Posting

/-!
What a move can do to an agent and to all who wait for something. Nobody sleeps on the stage cell who should
have been woken, the dispatcher is stopped only after the controller has ended, and from then on the cell is
invalid. Crews only take smaller steps than agents: whatever an agent can come to, its crew can.
-/
namespace CameraControl.Agent

namespace Crew

open Stage.Watch (Waiter)

variable {σ δ τ : Type}

/-- How far the shutdown of the dispatcher has come. -/
def Winding (recycling : Recycling) (d : Dispatcher Job) : Prop :=
  match recycling with
  | .unasked | .awaitingController => d.Unstopped
  | .awaitingDispatcher => d.Shutting
  | .done => d.Stopped

namespace Winding

variable {recycling : Recycling} {d d' : Dispatcher Job}

theorem submit {job : Job} (h : Winding recycling d) (hsubmit : d.submit job = .ok d') :
    Winding recycling d' := by
  cases recycling with
  | unasked | awaitingController => exact Dispatcher.Unstopped.submit h hsubmit
  | awaitingDispatcher => exact Dispatcher.Shutting.submit h hsubmit
  | done => cases (h.still.1 job).symm.trans hsubmit

theorem take (h : Winding recycling d) (htake : d.take? = some d') : Winding recycling d' := by
  cases recycling with
  | unasked | awaitingController => exact Dispatcher.Unstopped.take h htake
  | awaitingDispatcher => exact Dispatcher.Shutting.take h htake
  | done => cases h.still.2.1.symm.trans htake

theorem finish (h : Winding recycling d) (hfinish : d.finish? = some d') : Winding recycling d' := by
  cases recycling with
  | unasked | awaitingController => exact Dispatcher.Unstopped.finish h hfinish
  | awaitingDispatcher => exact Dispatcher.Shutting.finish h hfinish
  | done => cases h.still.2.2.1.symm.trans hfinish

theorem place (h : Winding recycling d) (hplace : d.place? = some d') : Winding recycling d' := by
  cases recycling with
  | unasked | awaitingController => cases h.place.symm.trans hplace
  | awaitingDispatcher => exact Dispatcher.Shutting.place h hplace
  | done => cases h.still.2.2.2.symm.trans hplace

theorem stopped (h : Winding recycling d) (hended : d.hasEnded) : d.Stopped := by
  cases recycling with
  | unasked | awaitingController => cases (Dispatcher.Unstopped.running h).symm.trans hended
  | awaitingDispatcher => exact Dispatcher.Shutting.stopped h hended
  | done => exact h

/-- No job is held up by a shutdown. -/
theorem marker (h : Winding recycling d) : d.marker ≠ .inside := by
  cases recycling with
  | unasked | awaitingController =>
    rw [Dispatcher.Unstopped.marker h]
    exact Dispatcher.Marker.noConfusion
  | awaitingDispatcher => exact Dispatcher.Shutting.marker h
  | done => exact (Dispatcher.Shutting.halted h).marker

end Winding

/-- Nobody waits in vain, and the dispatcher is stopped only after the controller has ended. -/
structure Sound (s : Crew σ δ τ) : Prop where
  jobs : s.agent.dispatcher.InOrder
  alert : s.watch.Alert
  asleep : s.wait = .asleep → ∃ wanted action,
    s.agent.dispatcher.current? = some (.post (some wanted) action) ∧ s.cell.check wanted = none
  winding : Winding s.agent.recycling s.agent.dispatcher
  served : s.agent.isServed → s.agent.recycling = .unasked ∨ s.agent.recycling = .awaitingController
  ended : s.agent.isServed = false → s.cell.invalid ∧ s.agent.controller.mailbox = []

variable {s s' : Crew σ δ τ} {now : Agent σ δ τ}

theorem follow_agent (s : Crew σ δ τ) (now : Agent σ δ τ) : (s.follow now).agent = now := by
  unfold follow
  split_ifs <;> rfl

theorem follow_cell (s : Crew σ δ τ) (now : Agent σ δ τ) :
    (s.follow now).cell = now.controller.cell := by
  unfold cell
  rw [follow_agent]

/-- Who looks at the cell after it was written to is awake. -/
theorem follow_cases (s : Crew σ δ τ) (now : Agent σ δ τ) :
    now.controller.cell = s.cell ∧ s.follow now = { s with agent := now } ∨
      (s.follow now).wait ≠ .asleep ∧ (s.follow now).waiters = s.waiters.map Waiter.wake := by
  unfold follow
  by_cases hsame : now.controller.cell = s.cell
  · exact Or.inl ⟨hsame, if_pos hsame⟩
  · right
    rw [if_neg hsame]
    refine ⟨?_, rfl⟩
    dsimp only
    split_ifs with hasleep
    · exact Stage.Watch.Phase.noConfusion
    · exact hasleep

theorem follow_alert (hs : s.watch.Alert) (now : Agent σ δ τ) : (s.follow now).watch.Alert := by
  have hcell := s.follow_cell now
  rcases s.follow_cases now with ⟨hsame, heq⟩ | ⟨-, hwaiters⟩
  · have hwatch : (s.follow now).watch = s.watch := by
      unfold watch
      rw [hcell, hsame, heq]
    rw [hwatch]
    exact hs
  · have hwatch : (s.follow now).watch =
        { cell := (s.follow now).cell, waiters := s.watch.waiters.map Waiter.wake } := by
      unfold watch
      rw [hwaiters]
    rw [hwatch]
    exact Stage.Watch.alert_woken _ _

theorem follow_asleep (hasleep : (s.follow now).wait = .asleep) :
    s.wait = .asleep ∧ now.controller.cell = s.cell := by
  rcases s.follow_cases now with ⟨hsame, heq⟩ | ⟨hawake, -⟩
  · rw [heq] at hasleep
    exact ⟨hasleep, hsame⟩
  · exact absurd hasleep hawake

/-- What the dispatcher can do next. -/
inductive Dispatch (s : Crew σ δ τ) : Crew σ δ τ → Prop
  | taken {d : Dispatcher Job} (htake : s.agent.dispatcher.take? = some d) :
      Dispatch s { s with agent := s.agent.dispatching d }
  | looked {wanted : Stage.Set} {action : Action}
      (hjob : s.agent.dispatcher.current? = some (.post (some wanted) action))
      (hawake : s.wait = .awake) :
      Dispatch s { s with wait := (Waiter.look { wanted } s.cell).phase }
  | worked {job : Job} {now : Agent σ δ τ} (hjob : s.agent.dispatcher.current? = some job)
      (hgains : ∃ new : List (Message δ τ), now.controller = { s.agent.controller with
        mailbox := s.agent.controller.mailbox ++ if s.agent.isServed then new else [] })
      (hrecycling : now.recycling = s.agent.recycling)
      (hdispatcher : s.agent.isServed ∧ now.dispatcher = s.agent.dispatcher ∨
        s.agent.dispatcher.finish? = some now.dispatcher) :
      Dispatch s { s with agent := now, wait := .awake }

theorem finish?_dispatch {job : Job} {messages : List (Message δ τ)}
    (hjob : s.agent.dispatcher.current? = some job)
    (hfinish : s.finish? (s.agent.deliver messages) = some s') : s.Dispatch s' := by
  obtain ⟨now, hnow, rfl⟩ := Option.map_eq_some_iff.mp hfinish
  obtain ⟨d, hd, rfl⟩ := deliver_finish?_eq hnow
  refine .worked hjob ⟨messages, ?_⟩ ?_ (Or.inr hd) <;> rw [deliver_eq]

theorem deliver_nil (a : Agent σ δ τ) : a.deliver [] = a := by
  rw [deliver_eq, ite_self, List.append_nil]

theorem dispatch?_cases (hdispatch : s.dispatch? = some s') : s.Dispatch s' := by
  unfold dispatch? at hdispatch
  split at hdispatch
  · obtain ⟨d, htake, rfl⟩ := Option.map_eq_some_iff.mp hdispatch
    exact .taken htake
  · next wanted action hjob =>
    split at hdispatch
    · next hawake =>
      cases hdispatch
      exact .looked hjob hawake
    · cases hdispatch
    · exact finish?_dispatch hjob hdispatch
    · rw [← deliver_nil s.agent] at hdispatch
      exact finish?_dispatch hjob hdispatch
  · next job _ hjob =>
    obtain ⟨now, hwork, rfl⟩ := Option.map_eq_some_iff.mp hdispatch
    obtain ⟨h, hrecycling, hdispatcher⟩ := work?_cases hjob hwork
    exact .worked hjob h.gains hrecycling hdispatcher

/-- What a move can do to a crew. -/
inductive Step (s : Crew σ δ τ) : Crew σ δ τ → Prop
  | idle : Step s s
  /-- The dispatcher is left alone, and only the controller itself can end. -/
  | aside {now : Agent σ δ τ} (hdispatcher : now.dispatcher = s.agent.dispatcher)
      (hrecycling : now.recycling = s.agent.recycling ∨
        s.agent.recycling = .unasked ∧ now.recycling = .awaitingController)
      (hserved : now.isServed → s.agent.isServed)
      (hended : now.isServed = false →
        s.agent.isServed ∧ now.controller.cell.invalid ∧ now.controller.mailbox = [] ∨
        s.agent.isServed = false ∧ (s.cell.invalid → now.controller.cell.invalid) ∧
          now.controller.mailbox = s.agent.controller.mailbox) : Step s (s.follow now)
  | submitted {job : Job} {d : Dispatcher Job} (hsubmit : s.agent.dispatcher.submit job = .ok d) :
      Step s (s.follow (s.agent.dispatching d))
  | dispatched {s' : Crew σ δ τ} (hdispatch : s.Dispatch s') : Step s s'
  | placed {d : Dispatcher Job} (hplace : s.agent.dispatcher.place? = some d) :
      Step s { s with agent := s.agent.dispatching d }
  | stopping (hserved : s.agent.isServed = false) (hawaiting : s.agent.recycling = .awaitingController) :
      Step s (s.follow { s.agent with
        controller := { s.agent.controller with cell := s.agent.controller.cell.invalidate }
        dispatcher := s.agent.dispatcher.shutDown
        recycling := .awaitingDispatcher })
  | recycled (hended : s.agent.dispatcher.hasEnded) (hawaiting : s.agent.recycling = .awaitingDispatcher) :
      Step s (s.follow { s.agent with recycling := .done })
  | arrived (wanted : Stage.Set) : Step s { s with waiters := s.waiters ++ [{ wanted }] }
  | looked (n : Nat) :
      Step s { s with waiters := s.waiters.modify n fun w => w.look s.cell }

/-- What happens beside the threads leaves the mailbox of a controller that has ended empty. -/
theorem aside_step {now : Agent σ δ τ} {new : List (Message δ τ)} (h : s.agent.Aside new now)
    (hrecycling : now.recycling = s.agent.recycling ∨
      s.agent.recycling = .unasked ∧ now.recycling = .awaitingController) : s.Step (s.follow now) := by
  refine .aside h.dispatcher hrecycling (fun his => h.served ▸ his) ?_
  intro hended
  have hwas : s.agent.isServed = false := h.served ▸ hended
  refine Or.inr ⟨hwas, ?_, ?_⟩
  · intro hinvalid
    by_contra hvalid
    exact Bool.false_ne_true ((h.valid (eq_false_of_ne_true hvalid)).symm.trans hinvalid)
  · rw [h.mailbox, hwas]
    exact List.append_nil _

variable [Subsystem σ δ τ]

theorem handle?_step {now : Agent σ δ τ} (hhandle : s.agent.handle? = some now) :
    s.Step (s.follow now) := by
  obtain ⟨⟨message, controller⟩, hstep, rfl⟩ := Option.map_eq_some_iff.mp hhandle
  have hserved : s.agent.isServed := by
    unfold Controller.step? at hstep
    split at hstep
    · next hstatus _ => exact decide_eq_true hstatus
    · cases hstep
  dsimp only [bury]
  split_ifs with his
  · refine .aside rfl (Or.inl rfl) (fun _ => hserved) ?_
    intro hended
    cases hended.symm.trans his
  · exact .aside rfl (Or.inl rfl) (fun _ => hserved) fun _ => Or.inl ⟨hserved, rfl, rfl⟩

theorem agent_step {move : Agent.Move σ δ τ} {now : Agent σ δ τ} (hdispatch : move ≠ .dispatch)
    (hgiveUp : move ≠ .giveUp) (hnow : s.agent.step? move = some now) : s.Step (s.follow now) := by
  cases move with
  | submit job =>
    have hnow : (s.agent.submit job).toOption = some now := hnow
    unfold Agent.submit at hnow
    cases hsubmit : s.agent.dispatcher.submit job with
    | error failure =>
      rw [hsubmit] at hnow
      cases hnow
    | ok d =>
      rw [hsubmit] at hnow
      cases hnow
      exact .submitted hsubmit
  | setExceptionCallback | enroll | addTexture | tick | force =>
    cases hnow
    exact aside_step (.still rfl rfl rfl id rfl rfl rfl) (Or.inl rfl)
  | invalidate =>
    cases hnow
    exact aside_step (.still rfl rfl rfl (fun h => by cases h) rfl rfl rfl) (Or.inl rfl)
  | environment world events =>
    cases hnow
    have haside := deliver_aside
      { s.agent with controller := { s.agent.controller with subsystem := world } }
      (events.map Message.hardware)
    refine aside_step ⟨haside.dispatcher, haside.releasing, haside.served, haside.valid,
      haside.acknowledged, haside.attached, haside.mailbox⟩ (Or.inl ?_)
    unfold environment
    rw [deliver_eq]
  | recycle =>
    cases hnow
    unfold recycle
    split
    · next hunasked =>
      have haside := deliver_aside s.agent [.shutdown]
      exact aside_step ⟨haside.dispatcher, haside.releasing, haside.served, haside.valid,
        haside.acknowledged, haside.attached, haside.mailbox⟩ (Or.inr ⟨hunasked, rfl⟩)
    · exact aside_step (.still rfl rfl rfl id rfl rfl rfl) (Or.inl rfl)
  | handle => exact handle?_step hnow
  | dispatch => exact absurd rfl hdispatch
  | giveUp => exact absurd rfl hgiveUp
  | proceed =>
    have hnow : s.agent.proceed? = some now := hnow
    unfold proceed? at hnow
    split at hnow
    · next hawaiting =>
      split_ifs at hnow with hserved
      cases hnow
      exact .stopping (eq_false_of_ne_true hserved) hawaiting
    · next hawaiting =>
      split_ifs at hnow with hended
      cases hnow
      exact .recycled hended hawaiting
    · cases hnow

theorem step_cases (s : Crew σ δ τ) (move : Move σ δ τ) : s.Step (s.step move) := by
  unfold step
  cases hstep : s.step? move with
  | none => exact .idle
  | some s' =>
    show s.Step s'
    unfold step? at hstep
    split at hstep
    · exact .dispatched (dispatch?_cases hstep)
    · obtain ⟨now, hgive, rfl⟩ := Option.map_eq_some_iff.mp hstep
      unfold giveUp? at hgive
      split_ifs at hgive
      obtain ⟨d, hfinish, rfl⟩ := finish?_eq hgive
      obtain ⟨job, hjob, -⟩ := Dispatcher.finish?_eq hfinish
      refine .dispatched (.worked hjob ⟨[], ?_⟩ rfl (Or.inr hfinish))
      rw [ite_self, List.append_nil]
    · next move hdispatch hgiveUp =>
      obtain ⟨now, hnow, rfl⟩ := Option.map_eq_some_iff.mp hstep
      exact agent_step hdispatch hgiveUp hnow
    · obtain ⟨d, hplace, rfl⟩ := Option.map_eq_some_iff.mp hstep
      exact .placed hplace
    · cases hstep
      exact .arrived _
    · split_ifs at hstep
      cases hstep
      exact .looked _

namespace Sound

omit [Subsystem σ δ τ] in
theorem follow (hs : s.Sound) (hjobs : now.dispatcher.InOrder)
    (hcurrent : now.dispatcher.current? = s.agent.dispatcher.current?)
    (hwinding : Winding now.recycling now.dispatcher)
    (hserved : now.isServed → now.recycling = .unasked ∨ now.recycling = .awaitingController)
    (hended : now.isServed = false → now.controller.cell.invalid ∧ now.controller.mailbox = []) :
    (s.follow now).Sound := by
  have hagent := s.follow_agent now
  have hcell := s.follow_cell now
  constructor
  · rw [hagent]
    exact hjobs
  · exact follow_alert hs.alert now
  · intro hasleep
    obtain ⟨hwas, hsame⟩ := follow_asleep hasleep
    rw [hagent, hcurrent, hcell, hsame]
    exact hs.asleep hwas
  · rw [hagent]
    exact hwinding
  · rw [hagent]
    exact hserved
  · rw [hagent, hcell]
    exact hended

omit [Subsystem σ δ τ] in
theorem dispatch (hs : s.Sound) (h : s.Dispatch s') : s'.Sound := by
  cases h with
  | taken htake =>
    refine ⟨hs.jobs.take htake, hs.alert, ?_, hs.winding.take htake, hs.served, hs.ended⟩
    intro hasleep
    obtain ⟨wanted, action, hjob, -⟩ := hs.asleep hasleep
    cases (Dispatcher.current?_idle (Dispatcher.take?_cases htake).1).symm.trans hjob
  | looked hjob hawake =>
    refine ⟨hs.jobs, hs.alert, ?_, hs.winding, hs.served, hs.ended⟩
    intro hasleep
    rcases Stage.Watch.Waiter.look_asleep hasleep with hbefore | hnone
    · cases hbefore
    · exact ⟨_, _, hjob, hnone⟩
  | @worked job now hjob hgains hrecycling hdispatcher =>
    obtain ⟨new, hgains⟩ := hgains
    have hserved : now.isServed = s.agent.isServed := isServed_of_status (by rw [hgains])
    have hcell : now.controller.cell = s.cell := by
      rw [hgains]
      rfl
    have halert : ({ s with agent := now, wait := .awake } : Crew σ δ τ).watch.Alert := by
      have hwatch : ({ s with agent := now, wait := .awake } : Crew σ δ τ).watch = s.watch := by
        unfold watch
        rw [← hcell]
        rfl
      rw [hwatch]
      exact hs.alert
    have hjobs : now.dispatcher.InOrder ∧ Winding s.agent.recycling now.dispatcher := by
      rcases hdispatcher with ⟨-, hsame⟩ | hfinish
      · rw [hsame]
        exact ⟨hs.jobs, hs.winding⟩
      · exact ⟨hs.jobs.finish hfinish, hs.winding.finish hfinish⟩
    refine ⟨hjobs.1, halert, (fun hasleep => nomatch hasleep), ?_, ?_, ?_⟩
    · exact hrecycling ▸ hjobs.2
    · show now.isServed → now.recycling = _ ∨ now.recycling = _
      rw [hserved, hrecycling]
      exact hs.served
    · show now.isServed = false → now.controller.cell.invalid ∧ now.controller.mailbox = []
      rw [hserved]
      intro hended
      obtain ⟨hinvalid, hempty⟩ := hs.ended hended
      refine ⟨hcell ▸ hinvalid, ?_⟩
      rw [hgains, hempty, hended]
      rfl

theorem step (hs : s.Sound) (move : Move σ δ τ) : (s.step move).Sound := by
  have h := s.step_cases move
  generalize s.step move = s' at h
  cases h with
  | idle => exact hs
  | @aside now hdispatcher hrecycling hserved hended =>
    refine hs.follow (hdispatcher ▸ hs.jobs) (congrArg _ hdispatcher) ?_ ?_ ?_
    · rw [hdispatcher]
      rcases hrecycling with hsame | ⟨hunasked, hasked⟩
      · exact hsame ▸ hs.winding
      · have hwinding := hs.winding
        rw [hunasked] at hwinding
        rw [hasked]
        exact hwinding
    · intro his
      rcases hrecycling with hsame | ⟨-, hasked⟩
      · exact hsame ▸ hs.served (hserved his)
      · exact Or.inr hasked
    · intro hgone
      rcases hended hgone with ⟨-, hinvalid, hempty⟩ | ⟨hwas, hinvalid, hmailbox⟩
      · exact ⟨hinvalid, hempty⟩
      · obtain ⟨hbefore, hempty⟩ := hs.ended hwas
        exact ⟨hinvalid hbefore, hmailbox.trans hempty⟩
  | submitted hsubmit =>
    refine hs.follow (hs.jobs.submit hsubmit) ?_ (hs.winding.submit hsubmit) hs.served hs.ended
    obtain ⟨-, rfl⟩ := Dispatcher.submit_eq hsubmit
    rfl
  | dispatched hdispatch => exact hs.dispatch hdispatch
  | placed hplace =>
    refine ⟨hs.jobs.place hplace, hs.alert, ?_, hs.winding.place hplace, hs.served, hs.ended⟩
    obtain rfl := Dispatcher.place?_eq hplace
    exact hs.asleep
  | stopping hserved hawaiting =>
    have hwinding := hs.winding
    rw [hawaiting] at hwinding
    refine hs.follow (hs.jobs.claim .outside) ?_ (.of_unstopped hwinding) ?_ ?_
    · exact (s.agent.dispatcher.claim_same .outside).2.1
    · intro his
      cases hserved.symm.trans his
    · exact fun _ => ⟨rfl, (hs.ended hserved).2⟩
  | recycled hended hawaiting =>
    have hwinding := hs.winding
    rw [hawaiting] at hwinding
    refine hs.follow hs.jobs rfl (hwinding.stopped hended) ?_ hs.ended
    intro his
    rcases hs.served his with hother | hother <;> cases hawaiting.symm.trans hother
  | arrived wanted =>
    exact ⟨hs.jobs, hs.alert.step (.arrive wanted), hs.asleep, hs.winding, hs.served, hs.ended⟩
  | looked n =>
    exact ⟨hs.jobs, hs.alert.step (.look n), hs.asleep, hs.winding, hs.served, hs.ended⟩

theorem run (hs : s.Sound) (moves : List (Move σ δ τ)) : (s.run moves).Sound := by
  induction moves generalizing s with
  | nil => exact hs
  | cons move moves ih => exact ih (hs.step move)

end Sound

theorem sound_start {config : Config} {world : σ} {clock : String} {a : Agent σ δ τ}
    (hstart : Agent.start config world clock = .ok a) : ({ agent := a } : Crew σ δ τ).Sound := by
  obtain ⟨roster, history, rfl⟩ := Course.start_eq hstart
  refine ⟨Dispatcher.inOrder_new _, ?_, (fun h => nomatch h), Dispatcher.unstopped_new _,
    fun _ => Or.inl rfl, (fun h => nomatch h)⟩
  exact fun _ hw => absurd hw List.not_mem_nil

/-- What the running job does in one move of the agent takes one or two steps of the dispatcher. -/
theorem work?_run {a a' : Agent σ δ τ} {job : Job} (hjob : a.dispatcher.current? = some job)
    (hwork : a.work? job = some a') : ∃ moves : List (Move σ δ τ),
      ({ agent := a } : Crew σ δ τ).run moves = { agent := a' } := by
  have hplain (hdispatch : ({ agent := a } : Crew σ δ τ).dispatch? =
      (a.work? job).map fun agent => { agent }) : ∃ moves : List (Move σ δ τ),
        ({ agent := a } : Crew σ δ τ).run moves = { agent := a' } := by
    refine ⟨[.agent .dispatch], ?_⟩
    show (({ agent := a } : Crew σ δ τ).dispatch?).getD { agent := a } = _
    rw [hdispatch, hwork]
    rfl
  cases job with
  | release ticket =>
    apply hplain
    unfold dispatch?
    rw [hjob]
  | post wanted action =>
    cases wanted with
    | none =>
      apply hplain
      unfold dispatch?
      rw [hjob]
    | some wanted =>
      refine ⟨[.agent .dispatch, .agent .dispatch], ?_⟩
      have hlook : ({ agent := a } : Crew σ δ τ).step (.agent .dispatch) =
          { agent := a, wait := Option.elim (a.controller.cell.check wanted) .asleep .answered } := by
        show (({ agent := a } : Crew σ δ τ).dispatch?).getD { agent := a } = _
        unfold dispatch?
        rw [hjob]
        dsimp only
        rw [Stage.Watch.Waiter.look_awake rfl]
        rfl
      show (({ agent := a } : Crew σ δ τ).step (.agent .dispatch)).step (.agent .dispatch) = _
      rw [hlook]
      show (dispatch? _).getD _ = _
      unfold work? at hwork
      unfold dispatch?
      dsimp only at hwork ⊢
      rw [hjob]
      cases hcheck : a.controller.cell.check wanted with
      | none =>
        rw [hcheck] at hwork
        cases hwork
      | some reached =>
        rw [hcheck] at hwork
        cases reached <;>
        · dsimp only [Option.elim] at hwork ⊢
          unfold Crew.finish?
          rw [hwork]
          rfl

/-- What the agent can do in one move, its crew can do in some. -/
theorem step?_run {a a' : Agent σ δ τ} {move : Agent.Move σ δ τ} (hstep : a.step? move = some a') :
    ∃ moves : List (Move σ δ τ), ({ agent := a } : Crew σ δ τ).run moves = { agent := a' } := by
  by_cases hdispatch : move = .dispatch
  · subst hdispatch
    have hstep : a.dispatch? = some a' := hstep
    unfold Agent.dispatch? at hstep
    split at hstep
    · next d hplace =>
      cases hstep
      refine ⟨[.place], ?_⟩
      show ((a.dispatcher.place?.map _).getD _) = _
      rw [hplace]
      rfl
    · split at hstep
      · next job hjob => exact work?_run hjob hstep
      · next hnone =>
        refine ⟨[.agent .dispatch], ?_⟩
        show (({ agent := a } : Crew σ δ τ).dispatch?).getD { agent := a } = _
        obtain ⟨d, htake, rfl⟩ := Option.map_eq_some_iff.mp hstep
        unfold dispatch?
        rw [hnone]
        dsimp only
        rw [htake]
        rfl
  · refine ⟨[.agent move], ?_⟩
    have hfollow : ({ agent := a } : Crew σ δ τ).follow a' = { agent := a' } := by
      unfold follow
      split <;> rfl
    have hmove : ({ agent := a } : Crew σ δ τ).step? (.agent move) = some { agent := a' } := by
      unfold Crew.step?
      split
      · next heq => exact absurd (Move.agent.inj heq) hdispatch
      · next heq =>
        cases heq
        rw [show a.giveUp? = some a' from hstep]
        rfl
      · next heq =>
        cases heq
        rw [hstep, Option.map_some, hfollow]
      · next heq => cases heq
      · next heq => cases heq
      · next heq => cases heq
    show (({ agent := a } : Crew σ δ τ).step? (.agent move)).getD _ = _
    rw [hmove]
    rfl

/-- Every course of an agent is one of its crew. -/
theorem of_course (s : Course σ δ τ) (moves : List (Agent.Move σ δ τ)) :
    ∃ more : List (Move σ δ τ),
      ({ agent := s.now } : Crew σ δ τ).run more = { agent := (s.run moves).now } := by
  induction moves generalizing s with
  | nil => exact ⟨[], rfl⟩
  | cons move moves ih =>
    obtain ⟨rest, hrest⟩ := ih (s.step move)
    have hnow := s.step_now move
    have hfirst : ∃ first : List (Move σ δ τ),
        ({ agent := s.now } : Crew σ δ τ).run first = { agent := (s.step move).now } := by
      rw [hnow]
      cases hstep : s.now.step? move with
      | none => exact ⟨[], rfl⟩
      | some now => exact step?_run hstep
    obtain ⟨first, hfirst⟩ := hfirst
    refine ⟨first ++ rest, ?_⟩
    unfold Crew.run at hfirst hrest ⊢
    rw [List.foldl_append, hfirst, hrest]
    rfl

end Crew

end CameraControl.Agent
