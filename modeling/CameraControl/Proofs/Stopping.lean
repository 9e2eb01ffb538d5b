import CameraControl.Proofs.Callers
import CameraControl.Proofs.Draining

/-!
What becomes of accepted jobs when a dispatcher is shut down, by a caller or by one of its own jobs. The stop
marker goes through the queue like a job, and jobs are accepted until the worker comes to it. Those that were
accepted before the marker found its place are run, each once and in order; those that came after it are
lost, though their callers were told that they had been accepted.
-/
namespace CameraControl.Dispatcher

variable {κ : Type} {d d' : Dispatcher κ} {due : List κ} {move : Move κ} {moves : List (Move κ)}

/-- The stop marker is yet to be placed. -/
structure Unmarked (d : Dispatcher κ) : Prop where
  marker : d.marker ≠ .placed
  queue : .stop ∉ d.queue
  running : d.hasEnded = false

/-- The stop marker was placed, and the jobs that are due are those that it does not cut off. -/
structure Marked (due : List κ) (d : Dispatcher κ) : Prop where
  marker : d.marker = .placed
  bound : d.bound = due
  queued : d.hasEnded = false → .stop ∈ d.queue
  emptied : d.hasEnded → d.queue = []

theorem unmarked_new (capacity : Nat) : ({ capacity } : Dispatcher κ).Unmarked :=
  ⟨Marker.noConfusion, List.not_mem_nil, rfl⟩

/-- What comes after the stop marker is cut off. -/
theorem bound_behind (hqueue : .stop ∈ d.queue) (items : List (Item κ)) :
    ({ d with queue := d.queue ++ items } : Dispatcher κ).bound = d.bound := by
  have hcut : (d.queue.takeWhile fun item => item.job?.isSome).length ≠ d.queue.length := by
    intro hlength
    have hwhole := (List.takeWhile_prefix _).eq_of_length hlength
    exact Bool.false_ne_true (List.takeWhile_eq_self_iff.mp hwhole _ hqueue)
  unfold bound ahead
  rw [List.takeWhile_append, if_neg hcut]
  rfl

theorem bound_marked (hqueue : .stop ∉ d.queue) :
    ({ d with queue := d.queue ++ [.stop], marker := .placed } : Dispatcher κ).bound = d.bound := by
  unfold bound ahead
  rw [List.takeWhile_append, takeWhile_unmarked hqueue, if_pos rfl]
  show _ ++ (d.queue ++ []).filterMap Item.job? = _
  rw [List.append_nil]
  rfl

theorem Unmarked.step? (h : d.Unmarked) (hd : d.InOrder) (hstep : d.step? move = some d') :
    d'.Unmarked ∨ move = .place ∧ Marked d.accepted d' := by
  cases step?_stepped hstep with
  | submitted => exact Or.inl ⟨h.marker, by simpa using h.queue, h.running⟩
  | took | ended =>
    obtain ⟨hmarker, hqueue, hrunning⟩ := take?_unmarked h.queue hstep
    exact Or.inl ⟨hmarker ▸ h.marker, hqueue, hrunning⟩
  | listened => exact Or.inl ⟨h.marker, h.queue, h.running⟩
  | finished => exact Or.inl ⟨h.marker, h.queue, rfl⟩
  | asked _ _ hasker => exact Or.inl ⟨hasker, h.queue, h.running⟩
  | ignored => exact Or.inl h
  | placed =>
    refine Or.inr ⟨rfl, rfl, ?_, fun _ => List.mem_concat_self, ?_⟩
    · exact (bound_marked h.queue).trans (bound_unmarked hd h.queue h.running)
    · intro hended
      cases h.running.symm.trans hended

theorem Marked.step? (h : Marked due d) (hstep : d.step? move = some d') : Marked due d' := by
  cases step?_stepped hstep with
  | submitted _ hrunning =>
    have hqueue := h.queued hrunning
    refine ⟨h.marker, (bound_behind hqueue _).trans h.bound, ?_, ?_⟩
    · exact fun _ => List.mem_append_left _ hqueue
    · intro hended
      cases hrunning.symm.trans hended
  | took _ hqueue =>
    have hstop := h.queued (running_of_take? hstep)
    rw [hqueue] at hstop
    exact ⟨h.marker, (bound_take hstep).trans h.bound, fun _ => by simpa using hstop, nofun⟩
  | ended => exact ⟨h.marker, (bound_take hstep).trans h.bound, nofun, fun _ => rfl⟩
  | listened => exact ⟨h.marker, h.bound, h.queued, h.emptied⟩
  | finished hjob =>
    have hqueue := h.queued (running_of_current? hjob)
    exact ⟨h.marker, (bound_finish hstep).trans h.bound, fun _ => hqueue, nofun⟩
  | asked _ hmarker => cases hmarker.symm.trans h.marker
  | ignored => exact h
  | placed _ hmarker =>
    rw [h.marker] at hmarker
    rcases hmarker with hmarker | hmarker <;> cases hmarker

theorem Marked.stopped (h : Marked due d) (hended : d.hasEnded) : d.Stopped :=
  ⟨h.marker, hended, h.emptied hended⟩

/-- When the worker has ended, all that is due has been run. -/
theorem Marked.finished (h : Marked due d) (hended : d.hasEnded) : d.finished = due := by
  have hidle : d.current? = none := by
    by_contra hcurrent
    obtain ⟨job, hjob⟩ := Option.ne_none_iff_exists'.mp hcurrent
    cases (running_of_current? hjob).symm.trans hended
  rw [← h.bound]
  unfold Dispatcher.bound ahead
  rw [hidle, h.emptied hended]
  simp

theorem Stopped.run (h : d.Stopped) (moves : List (Move κ)) : d.run moves = d := by
  refine run_keeps (P := (· = d)) rfl ?_
  rintro _ d' move - rfl hstep
  cases step?_stepped hstep with
  | submitted _ hrunning => cases hrunning.symm.trans h.ended
  | took | ended => cases (running_of_take? hstep).symm.trans h.ended
  | listened hworker => cases (running_of_idle hworker).symm.trans h.ended
  | finished hjob => cases (running_of_current? hjob).symm.trans h.ended
  | asked _ hmarker => cases hmarker.symm.trans h.marker
  | ignored => rfl
  | placed => exact absurd h.marker (place?_marker hstep)

namespace Callers

variable {move : Move κ}

/-- At some point of the run the stop marker was placed, which settled for the rest of it what is due. -/
def Settles (start : Callers κ) (moves : List (Move κ)) : Prop :=
  ∃ earlier later, moves = earlier ++ .place :: later ∧ (start.run earlier).dispatcher.Unmarked ∧
    ((start.run earlier).step .place).dispatcher.marker = .placed ∧
    Marked (start.run earlier).dispatcher.accepted (start.run moves).dispatcher

theorem inOrder_run (capacity : Nat) (moves : List (Move κ)) :
    ((ofCapacity capacity).run moves).dispatcher.InOrder := by
  rw [run_dispatcher]
  exact Dispatcher.run_keeps (inOrder_new capacity) fun _ _ _ _ horder hstep => horder.step? hstep

theorem place_of_inner (hmove : move.inner? = some .place) : move = .place := by
  cases move with
  | place => rfl
  | call job patience | hear turn | giveUp turn | listen | take | finish | shutDown | shutDownInside =>
    cases hmove

/-- The marker is yet to be placed, or a point of the run has settled what is due. -/
theorem unmarked_or_settled (capacity : Nat) (moves : List (Move κ)) :
    ((ofCapacity capacity).run moves).dispatcher.Unmarked ∨ (ofCapacity capacity).Settles moves := by
  -- From the end of the run, since the point in question is fixed once the marker has been placed.
  induction moves using List.reverseRecOn with
  | nil => exact Or.inl (unmarked_new capacity)
  | append_singleton moves move ih =>
    rcases ih with hunmarked | ⟨earlier, later, rfl, hunmarked, hplaced, hmarked⟩
    · rw [run_concat]
      rcases ((ofCapacity capacity).run moves).dispatcher_cases move with
        hsame | ⟨inner, hinner, hstep⟩
      · exact Or.inl (hsame ▸ hunmarked)
      · rcases hunmarked.step? (inOrder_run capacity moves) hstep with hstill | ⟨rfl, hmarked⟩
        · exact Or.inl hstill
        · obtain rfl := place_of_inner hinner
          refine Or.inr ⟨moves, [], rfl, hunmarked, hmarked.marker, ?_⟩
          rw [run_concat]
          exact hmarked
    · refine Or.inr ⟨earlier, later ++ [move], by simp, hunmarked, hplaced, ?_⟩
      rw [run_concat]
      rcases ((ofCapacity capacity).run _).dispatcher_cases move with hsame | ⟨inner, -, hstep⟩
      · rw [hsame]
        exact hmarked
      · exact hmarked.step? hstep

/-- When the worker has ended, the jobs that were run are, each once and in order, those that were accepted
before the stop marker found its place in the queue. So nothing accepted is lost if and only if nothing was
accepted behind the marker. From then on no job is run, and every call is refused. -/
theorem lost_iff_behind_marker (capacity : Nat) (moves : List (Move κ)) :
    let s := (ofCapacity capacity).run moves
    s.dispatcher.hasEnded →
      (∃ earlier later behind, moves = earlier ++ .place :: later ∧
        let t := (ofCapacity capacity).run earlier
        t.dispatcher.marker ≠ .placed ∧ (t.step .place).dispatcher.marker = .placed ∧
          s.answers = t.answers ++ behind ∧ s.dispatcher.finished = granted t.answers ∧
          (s.dispatcher.finished = granted s.answers ↔ granted behind = [])) ∧
      ∀ more, let s' := s.run more
        s'.dispatcher = s.dispatcher ∧ ∀ job patience,
          s'.call job patience =
            { s' with answers := s'.answers ++ [(job, some .dispatchStopped)] } := by
  intro s hended
  rcases unmarked_or_settled capacity moves with
    hunmarked | ⟨earlier, later, hmoves, hunmarked, hplaced, hmarked⟩
  · cases hunmarked.running.symm.trans hended
  have hstopped : s.dispatcher.Stopped := hmarked.stopped hended
  constructor
  · obtain ⟨behind, hbehind⟩ :
        ((ofCapacity capacity : Callers κ).run earlier).answers <+: s.answers := by
      show _ <+: ((ofCapacity capacity).run moves).answers
      rw [hmoves, run_append]
      exact answers_run _ _
    have hfinished : s.dispatcher.finished = granted ((ofCapacity capacity).run earlier).answers :=
      (hmarked.finished hended).trans (informed_run capacity earlier).granted.symm
    refine ⟨earlier, later, behind, hmoves, hunmarked.marker, hplaced, hbehind.symm, hfinished, ?_⟩
    rw [hfinished, ← hbehind, granted_append]
    exact List.self_eq_append_right
  · intro more s'
    have hsame : s'.dispatcher = s.dispatcher :=
      (run_dispatcher s more).trans (hstopped.run _)
    refine ⟨hsame, ?_⟩
    intro job patience
    have hrefused : s'.dispatcher.submit job = .error .dispatchStopped := by
      rw [hsame]
      exact hstopped.still.1 job
    unfold call
    rw [hrefused]

/-- A shutdown from outside, with two jobs in the queue. -/
def orderlyMoves : List (Move Nat) :=
  [.call 0 none, .call 1 none, .shutDown, .place, .take, .finish, .take, .finish, .take]

theorem orderly_loses_nothing : let s := (ofCapacity 4).run orderlyMoves
    s.dispatcher.hasEnded ∧
      (∃ earlier behind, s.answers = ((ofCapacity 4).run earlier).answers ++ behind ∧
        s.dispatcher.finished = granted ((ofCapacity 4).run earlier).answers ∧
        granted behind = []) ∧
      s.dispatcher.finished = [0, 1] ∧
      s.call 2 none = { s with answers := s.answers ++ [(2, some .dispatchStopped)] } := by
  obtain ⟨⟨earlier, later, behind, -, -, -, hbehind, hfinished, hlost⟩, hstopped⟩ :=
    lost_iff_behind_marker 4 orderlyMoves rfl
  exact ⟨rfl, ⟨earlier, behind, hbehind, hfinished, hlost.mp rfl⟩, rfl, (hstopped []).2 2 none⟩

/-- A job shuts the dispatcher down while another one is queued. After that, but before the worker comes to
the stop marker, one more is accepted. -/
def latecomerMoves : List (Move String) :=
  [.call "a" none, .take, .call "s" none, .call "b" none, .finish, .take, .shutDownInside, .place,
    .finish, .take, .call "late" none, .finish, .take]

theorem latecomer_lost : let s := (ofCapacity 4).run latecomerMoves
    s.dispatcher.hasEnded ∧ granted s.answers = ["a", "s", "b", "late"] ∧
      s.dispatcher.finished = ["a", "s", "b"] := ⟨rfl, rfl, rfl⟩

end Callers

end CameraControl.Dispatcher
