import CameraControl.Agent
import CameraControl.Proofs.Dispatching
import CameraControl.Proofs.Mailbox
import CameraControl.Proofs.Runs
import CameraControl.Proofs.Waiters

/-!
Courses of an agent: callers and both threads make their moves in any order. A course keeps what the
controller handled and what was delivered to its mailbox, and for every action that the dispatcher posted
which of the accepted calls it comes from. `step_cases` lists what a move can do.
-/
namespace CameraControl.Agent

open Stage.Cell (check_false)

def Job.action : Job → Action
  | post _ action => action
  | release _ => .release

variable {σ δ τ : Type}

theorem isServed_of_status {a a' : Agent σ δ τ}
    (hstatus : a'.controller.status = a.controller.status) : a'.isServed = a.isServed := by
  unfold isServed
  rw [hstatus]

/-- What the mailbox of an agent gained. -/
def joined (a a' : Agent σ δ τ) : List (Message δ τ) :=
  a'.controller.mailbox.drop a.controller.mailbox.length

theorem joined_eq {a a' : Agent σ δ τ} {new : List (Message δ τ)}
    (hmailbox : a'.controller.mailbox = a.controller.mailbox ++ new) : a.joined a' = new := by
  unfold joined
  rw [hmailbox, List.drop_left]

theorem joined_same {a a' : Agent σ δ τ} (hmailbox : a'.controller.mailbox = a.controller.mailbox) :
    a.joined a' = [] := joined_eq (hmailbox.trans (List.append_nil _).symm)

theorem joined_silent {a a' : Agent σ δ τ} (hmailbox : a'.controller.mailbox = a.controller.mailbox) :
    (a.joined a').filterMap (·.action?) = [] := by
  rw [joined_same hmailbox]
  rfl

theorem deliver_eq (a : Agent σ δ τ) (messages : List (Message δ τ)) :
    a.deliver messages = { a with controller := { a.controller with
      mailbox := a.controller.mailbox ++ if a.isServed then messages else [] } } := by
  unfold deliver
  split_ifs
  · rfl
  · rw [List.append_nil]

/-- A controller that has ended has lost its mailbox. -/
theorem bury_cases (a : Agent σ δ τ) : a.isServed ∧ a.bury = a ∨
    a.bury.isServed = false ∧ a.bury.controller.mailbox = [] := by
  unfold bury
  split_ifs with hserved
  · exact Or.inl ⟨hserved, rfl⟩
  · exact Or.inr ⟨eq_false_of_ne_true hserved, rfl⟩

/-- The jobs whose actions were posted, if none was given up. -/
def dispatched (a : Agent σ δ τ) : List Job :=
  a.dispatcher.finished ++ if a.releasing = .unposted then [] else a.dispatcher.current?.toList

/-- What the dispatcher can do next. -/
inductive Dispatch (a : Agent σ δ τ) : Agent σ δ τ → Prop
  | placed {d : Dispatcher Job} (hplace : a.dispatcher.place? = some d) :
      Dispatch a (a.dispatching d)
  | taken {d : Dispatcher Job} (htake : a.dispatcher.take? = some d) : Dispatch a (a.dispatching d)
  | posted {wanted : Option Stage.Set} {action : Action} {d : Dispatcher Job}
      (hjob : a.dispatcher.current? = some (.post wanted action))
      (hreached : ∀ stages, wanted = some stages → a.controller.cell.check stages = some true)
      (hfinish : a.dispatcher.finish? = some d) :
      Dispatch a { a.deliver [.action action] with dispatcher := d, releasing := .unposted }
  | abandoned {wanted : Option Stage.Set} {action : Action} {d : Dispatcher Job}
      (hjob : a.dispatcher.current? = some (.post wanted action))
      (hinvalid : a.controller.cell.invalid) (hfinish : a.dispatcher.finish? = some d) :
      Dispatch a { a with dispatcher := d, releasing := .unposted }
  | releasing {ticket : Ticket} (hjob : a.dispatcher.current? = some (.release ticket))
      (hserved : a.isServed) (hunposted : a.releasing = .unposted) :
      Dispatch a { a.deliver [.action .release] with releasing := .posted }
  | barring {ticket : Ticket} (hjob : a.dispatcher.current? = some (.release ticket))
      (hserved : a.isServed) (hposted : a.releasing = .posted) :
      Dispatch a { a.deliver [.barrier ticket] with releasing := .awaiting }
  | released {ticket : Ticket} {d : Dispatcher Job}
      (hjob : a.dispatcher.current? = some (.release ticket))
      (hover : a.isServed → a.releasing = .awaiting ∧ ticket ∈ a.controller.acknowledged)
      (hfinish : a.dispatcher.finish? = some d) :
      Dispatch a { a with dispatcher := d, releasing := .unposted }

theorem finish?_eq {a a' : Agent σ δ τ} (hfinish : a.finish? = some a') :
    ∃ d, a.dispatcher.finish? = some d ∧ a' = { a with dispatcher := d, releasing := .unposted } := by
  obtain ⟨d, hd, rfl⟩ := Option.map_eq_some_iff.mp hfinish
  exact ⟨d, hd, rfl⟩

theorem deliver_finish?_eq {a a' : Agent σ δ τ} {messages : List (Message δ τ)}
    (hfinish : (a.deliver messages).finish? = some a') : ∃ d, a.dispatcher.finish? = some d ∧
      a' = { a.deliver messages with dispatcher := d, releasing := .unposted } := by
  obtain ⟨d, hd, rfl⟩ := finish?_eq hfinish
  rw [deliver_eq] at hd
  exact ⟨d, hd, rfl⟩

/-- The running job ends, unless it is a release that the controller has still to come past. -/
theorem work?_cases {a a' : Agent σ δ τ} {job : Job} (hjob : a.dispatcher.current? = some job)
    (hwork : a.work? job = some a') : a.Dispatch a' ∧ a'.recycling = a.recycling ∧
      (a.isServed ∧ a'.dispatcher = a.dispatcher ∨
        a.dispatcher.finish? = some a'.dispatcher) := by
  have hdelivered (messages : List (Message δ τ)) :
      (a.deliver messages).recycling = a.recycling ∧
        (a.deliver messages).dispatcher = a.dispatcher := by
    rw [deliver_eq]
    exact ⟨rfl, rfl⟩
  unfold work? at hwork
  split at hwork
  · next action =>
    obtain ⟨d, hfinish, rfl⟩ := deliver_finish?_eq hwork
    refine ⟨.posted hjob (fun stages hwanted => by cases hwanted) hfinish, ?_, Or.inr hfinish⟩
    exact (hdelivered _).1
  · next wanted action =>
    split at hwork
    · next hcheck =>
      obtain ⟨d, hfinish, rfl⟩ := deliver_finish?_eq hwork
      refine ⟨.posted hjob ?_ hfinish, (hdelivered _).1, Or.inr hfinish⟩
      intro stages hwanted
      cases hwanted
      exact hcheck
    · next hcheck =>
      obtain ⟨d, hfinish, rfl⟩ := finish?_eq hwork
      exact ⟨.abandoned hjob (check_false hcheck) hfinish, rfl, Or.inr hfinish⟩
    · cases hwork
  · next ticket =>
    by_cases hserved : a.isServed
    · rw [hserved] at hwork
      split at hwork
      · next hnot => cases hnot
      · split at hwork
        · next hunposted =>
          cases hwork
          exact ⟨.releasing hjob hserved hunposted, (hdelivered _).1,
            Or.inl ⟨hserved, (hdelivered _).2⟩⟩
        · next hposted =>
          cases hwork
          exact ⟨.barring hjob hserved hposted, (hdelivered _).1,
            Or.inl ⟨hserved, (hdelivered _).2⟩⟩
        · next hawaiting =>
          split_ifs at hwork with hacknowledged
          obtain ⟨d, hfinish, rfl⟩ := finish?_eq hwork
          exact ⟨.released hjob (fun _ => ⟨hawaiting, hacknowledged⟩) hfinish, rfl, Or.inr hfinish⟩
    · rw [eq_false_of_ne_true hserved] at hwork
      obtain ⟨d, hfinish, rfl⟩ := finish?_eq hwork
      exact ⟨.released hjob (fun h => absurd h hserved) hfinish, rfl, Or.inr hfinish⟩

theorem dispatch?_cases {a a' : Agent σ δ τ} (hdispatch : a.dispatch? = some a') :
    a.Dispatch a' := by
  unfold dispatch? at hdispatch
  split at hdispatch
  · next d hplace =>
    cases hdispatch
    exact .placed hplace
  · split at hdispatch
    · next job hjob => exact (work?_cases hjob hdispatch).1
    · obtain ⟨d, htake, rfl⟩ := Option.map_eq_some_iff.mp hdispatch
      exact .taken htake

/-- A move that is none of the threads', other than to submit a job. These messages join the mailbox, if the
controller is still there. -/
structure Aside (a : Agent σ δ τ) (new : List (Message δ τ)) (a' : Agent σ δ τ) : Prop where
  dispatcher : a'.dispatcher = a.dispatcher
  releasing : a'.releasing = a.releasing
  served : a'.isServed = a.isServed
  valid : a'.controller.cell.invalid = false → a.controller.cell.invalid = false
  acknowledged : a'.controller.acknowledged = a.controller.acknowledged
  attached : a'.controller.attached = a.controller.attached
  mailbox : a'.controller.mailbox = a.controller.mailbox ++ if a.isServed then new else []

/-- An agent of which no more has changed than what is shared with the controller. -/
theorem Aside.still {a a' : Agent σ δ τ} (hdispatcher : a'.dispatcher = a.dispatcher)
    (hreleasing : a'.releasing = a.releasing) (hserved : a'.isServed = a.isServed)
    (hvalid : a'.controller.cell.invalid = false → a.controller.cell.invalid = false)
    (hacknowledged : a'.controller.acknowledged = a.controller.acknowledged)
    (hattached : a'.controller.attached = a.controller.attached)
    (hmailbox : a'.controller.mailbox = a.controller.mailbox) : a.Aside [] a' :=
  ⟨hdispatcher, hreleasing, hserved, hvalid, hacknowledged, hattached, by simp [hmailbox]⟩

theorem deliver_aside (a : Agent σ δ τ) (new : List (Message δ τ)) : a.Aside new (a.deliver new) := by
  rw [deliver_eq]
  exact ⟨rfl, rfl, rfl, id, rfl, rfl, rfl⟩

/-- The course of an agent, with what the controller handled, the latest first. -/
structure Course (σ δ τ : Type) where
  now : Agent σ δ τ
  past : List (Handled σ δ τ) := []
  /-- All that joined the mailbox, oldest first. -/
  delivered : List (Message δ τ) := []
  /-- The actions that the dispatcher posted, oldest first, with the places of their calls among the accepted
  ones. -/
  posted : List (Action × Nat) := []

namespace Course

def advance (s : Course σ δ τ) (now : Agent σ δ τ) : Course σ δ τ :=
  { s with now, delivered := s.delivered ++ s.now.joined now }

/-- The dispatcher moves on, with the job that was accepted after those that have ended. -/
def dispatchTo (s : Course σ δ τ) (now : Agent σ δ τ) : Course σ δ τ :=
  { s.advance now with posted := s.posted ++
    ((s.now.joined now).filterMap (·.action?)).map (·, s.now.dispatcher.finished.length) }

variable [Subsystem σ δ τ]

def handle (s : Course σ δ τ) : Course σ δ τ :=
  match s.now.handle?, s.now.controller.mailbox with
  | some now, message :: rest =>
    let h : Handled σ δ τ := ⟨{ s.now.controller with mailbox := rest }, message⟩
    { s with
      now
      past := h :: s.past
      delivered := s.delivered ++ h.after.mailbox.drop rest.length }
  | _, _ => s

def step (s : Course σ δ τ) : Move σ δ τ → Course σ δ τ
  | .handle => s.handle
  | .dispatch => s.now.dispatch?.elim s s.dispatchTo
  | move => (s.now.step? move).elim s s.advance

def run (s : Course σ δ τ) (moves : List (Move σ δ τ)) : Course σ δ τ := moves.foldl step s

theorem run_append (s : Course σ δ τ) (moves later : List (Move σ δ τ)) :
    s.run (moves ++ later) = (s.run moves).run later := List.foldl_append

variable {s : Course σ δ τ}

/-- The controller handles the next message, unless it has ended or has none. -/
theorem handle_cases (s : Course σ δ τ) : s.handle = s ∨ ∃ h : Handled σ δ τ,
    s.now.isServed ∧ s.now.controller = (Run.before h s.past).now ∧ s.handle = { s with
      now := { s.now with controller := h.after }.bury
      past := h :: s.past
      delivered := s.delivered ++ h.after.mailbox.drop h.before.mailbox.length } := by
  cases hstatus : s.now.controller.status with
  | running =>
    cases hmailbox : s.now.controller.mailbox with
    | nil =>
      exact Or.inl (by simp only [handle, handle?, Controller.step?, hstatus, hmailbox, Option.map])
    | cons message rest =>
      right
      refine ⟨⟨{ s.now.controller with mailbox := rest }, message⟩, decide_eq_true hstatus, ?_, ?_⟩
      · unfold Run.before
        rw [← hmailbox]
      · simp only [handle, handle?, Handled.after, Controller.step?, hstatus, hmailbox, Option.map]
  | stopped => exact Or.inl (by simp only [handle, handle?, Controller.step?, hstatus, Option.map])
  | crashed failure =>
    exact Or.inl (by simp only [handle, handle?, Controller.step?, hstatus, Option.map])

/-- A course follows the moves of the agent. -/
theorem step_now (s : Course σ δ τ) (move : Move σ δ τ) :
    (s.step move).now = (s.now.step? move).getD s.now := by
  cases move with
  | handle =>
    show s.handle.now = s.now.handle?.getD s.now
    unfold handle
    cases hhandle : s.now.handle? with
    | none => rfl
    | some now =>
      cases hmailbox : s.now.controller.mailbox with
      | nil =>
        unfold handle? Controller.step? at hhandle
        rw [hmailbox] at hhandle
        cases hstatus : s.now.controller.status <;> rw [hstatus] at hhandle <;> cases hhandle
      | cons message rest => rfl
  | dispatch =>
    show (s.now.dispatch?.elim s s.dispatchTo).now = s.now.dispatch?.getD s.now
    cases s.now.dispatch? <;> rfl
  | _ =>
    unfold step
    dsimp only
    cases s.now.step? _ <;> rfl

/-- What a move can do to a course. -/
inductive Step (s : Course σ δ τ) : Move σ δ τ → Course σ δ τ → Prop
  | idle (move : Move σ δ τ) : Step s move s
  | aside {move : Move σ δ τ} {new : List (Message δ τ)} {now : Agent σ δ τ}
      (haside : s.now.Aside new now) (hnew : new.filterMap (·.action?) = [])
      (hstage : now.controller.stage = s.now.controller.stage ∨ ∃ stage, move = .force stage)
      (hinvalid : now.controller.cell.invalid = s.now.controller.cell.invalid ∨ move = .invalidate)
      (hbarriers : new.filterMap (·.barrier?) = []) : Step s move (s.advance now)
  | submitted {job : Job} {d : Dispatcher Job} (hsubmit : s.now.dispatcher.submit job = .ok d) :
      Step s (.submit job) (s.advance (s.now.dispatching d))
  | handled (h : Handled σ δ τ) (hserved : s.now.isServed)
      (hbefore : s.now.controller = (Run.before h s.past).now) :
      Step s .handle { s with
        now := { s.now with controller := h.after }.bury
        past := h :: s.past
        delivered := s.delivered ++ h.after.mailbox.drop h.before.mailbox.length }
  | dispatched {now : Agent σ δ τ} (hdispatch : s.now.Dispatch now) :
      Step s .dispatch (s.dispatchTo now)
  | givenUp {d : Dispatcher Job} (hawaiting : s.now.releasing = .awaiting)
      (hfinish : s.now.dispatcher.finish? = some d) :
      Step s .giveUp (s.advance { s.now with dispatcher := d, releasing := .unposted })
  | stopping (hserved : s.now.isServed = false) :
      Step s .proceed (s.advance { s.now with
        controller := { s.now.controller with cell := s.now.controller.cell.invalidate }
        dispatcher := s.now.dispatcher.shutDown
        recycling := .awaitingDispatcher })

theorem step_cases (s : Course σ δ τ) (move : Move σ δ τ) : s.Step move (s.step move) := by
  cases move with
  | submit job =>
    show s.Step (.submit job) ((s.now.submit job).toOption.elim s s.advance)
    unfold Agent.submit
    cases hsubmit : s.now.dispatcher.submit job with
    | error failure => exact .idle _
    | ok d => exact .submitted hsubmit
  | setExceptionCallback | enroll | addTexture | tick =>
    exact .aside (.still rfl rfl rfl id rfl rfl rfl) rfl (Or.inl rfl) (Or.inl rfl) rfl
  | environment world events =>
    have haside := deliver_aside
      { s.now with controller := { s.now.controller with subsystem := world } }
      (events.map Message.hardware)
    refine .aside ⟨haside.dispatcher, haside.releasing, haside.served, haside.valid,
      haside.acknowledged, haside.attached, haside.mailbox⟩
      (Message.filterMap_action_hardware events) (Or.inl ?_) (Or.inl ?_)
      (Message.filterMap_barrier_hardware events)
    · unfold environment
      rw [deliver_eq]
      rfl
    · unfold environment
      rw [deliver_eq]
  | force stage =>
    exact .aside (.still rfl rfl rfl id rfl rfl rfl) rfl (Or.inr ⟨stage, rfl⟩) (Or.inl rfl) rfl
  | invalidate =>
    exact .aside (.still rfl rfl rfl (fun h => by cases h) rfl rfl rfl) rfl (Or.inl rfl)
      (Or.inr rfl) rfl
  | recycle =>
    show s.Step .recycle (s.advance s.now.recycle)
    unfold recycle
    split
    · have haside := deliver_aside s.now [.shutdown]
      refine .aside ⟨haside.dispatcher, haside.releasing, haside.served, haside.valid,
        haside.acknowledged, haside.attached, haside.mailbox⟩ rfl (Or.inl ?_) (Or.inl ?_) rfl
      · rw [deliver_eq]
        rfl
      · rw [deliver_eq]
    · exact .aside (.still rfl rfl rfl id rfl rfl rfl) rfl (Or.inl rfl) (Or.inl rfl) rfl
  | handle =>
    show s.Step .handle s.handle
    rcases s.handle_cases with hnone | ⟨h, hserved, hbefore, hafter⟩
    · rw [hnone]
      exact .idle _
    · rw [hafter]
      exact .handled h hserved hbefore
  | dispatch =>
    show s.Step .dispatch (s.now.dispatch?.elim s s.dispatchTo)
    cases hdispatch : s.now.dispatch? with
    | none => exact .idle _
    | some now => exact .dispatched (dispatch?_cases hdispatch)
  | giveUp =>
    show s.Step .giveUp (s.now.giveUp?.elim s s.advance)
    cases hgive : s.now.giveUp? with
    | none => exact .idle _
    | some now =>
      unfold giveUp? at hgive
      split_ifs at hgive with hawaiting
      obtain ⟨d, hfinish, rfl⟩ := finish?_eq hgive
      exact .givenUp hawaiting hfinish
  | proceed =>
    show s.Step .proceed (s.now.proceed?.elim s s.advance)
    cases hproceed : s.now.proceed? with
    | none => exact .idle _
    | some now =>
      unfold proceed? at hproceed
      split at hproceed
      · split_ifs at hproceed with hserved
        cases hproceed
        exact .stopping (eq_false_of_ne_true hserved)
      · split_ifs at hproceed with hended
        cases hproceed
        exact .aside (.still rfl rfl rfl id rfl rfl rfl) rfl (Or.inl rfl) (Or.inl rfl) rfl
      · cases hproceed

/-- An invariant of courses is kept by every move. -/
theorem invariant (P : Course σ δ τ → Prop) (Allowed : Move σ δ τ → Prop)
    (hstep : ∀ s move, Allowed move → P s → P (s.step move)) {moves : List (Move σ δ τ)}
    (hmoves : ∀ move ∈ moves, Allowed move) (hs : P s) : P (s.run moves) := by
  induction moves generalizing s with
  | nil => exact hs
  | cons move moves ih =>
    obtain ⟨hmove, hrest⟩ := List.forall_mem_cons.mp hmoves
    exact ih hrest (hstep s move hmove hs)

end Course

end CameraControl.Agent
