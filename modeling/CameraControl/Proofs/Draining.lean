import Mathlib.Data.List.Infix
import Mathlib.Data.List.TakeWhile
import CameraControl.Proofs.Dispatching

/-!
How a dispatcher is drained. A job that stands ahead of the stop marker is never lost: whoever submits or
shuts down adds to the end of the queue only, and the worker comes to all that is ahead of the marker. The
marker finds room as soon as there is nothing else to do.
-/
namespace CameraControl.Dispatcher

variable {κ : Type}

/-- The queued jobs that the worker comes to before the stop marker. -/
def ahead (d : Dispatcher κ) : List κ :=
  (d.queue.takeWhile fun item => item.job?.isSome).filterMap Item.job?

/-- The jobs that have ended, or will if the worker goes on. -/
def bound (d : Dispatcher κ) : List κ := d.finished ++ d.current?.toList ++ d.ahead

/-- The worker has come to the stop marker. -/
structure Stopped (d : Dispatcher κ) : Prop where
  marker : d.marker = .placed
  ended : d.hasEnded
  queue : d.queue = []

/-- A shutdown was asked for from outside: its marker waits for room, is queued or was taken. -/
inductive Shutting (d : Dispatcher κ) : Prop
  | waiting (hmarker : d.marker = .outside) (hqueue : .stop ∉ d.queue) (hrunning : d.hasEnded = false)
  | queued (hmarker : d.marker = .placed) (hqueue : .stop ∈ d.queue) (hrunning : d.hasEnded = false)
  | halted (hstopped : d.Stopped)

variable {d d' : Dispatcher κ} {job : κ}

theorem ahead_append (d : Dispatcher κ) (items : List (Item κ)) :
    d.ahead <+: ({ d with queue := d.queue ++ items } : Dispatcher κ).ahead := by
  have hitems : (d.queue.takeWhile fun item => item.job?.isSome) <+:
      (d.queue ++ items).takeWhile fun item => item.job?.isSome := by
    rw [List.takeWhile_append]
    split_ifs with hall
    · exact (List.takeWhile_prefix _).trans (List.prefix_append _ _)
    · exact List.prefix_refl _
  exact hitems.filterMap _

theorem bound_append (d : Dispatcher κ) (items : List (Item κ)) :
    d.bound <+: ({ d with queue := d.queue ++ items } : Dispatcher κ).bound :=
  (List.prefix_append_right_inj _).mpr (d.ahead_append items)

theorem bound_submit (hsubmit : d.submit job = .ok d') : d.bound <+: d'.bound := by
  obtain ⟨-, rfl⟩ := submit_eq hsubmit
  exact d.bound_append _

theorem bound_place (hplace : d.place? = some d') : d.bound <+: d'.bound := by
  obtain rfl := place?_eq hplace
  exact d.bound_append _

theorem bound_take (htake : d.take? = some d') : d'.bound = d.bound := by
  obtain ⟨hworker, ⟨job, rest, hqueue, rfl⟩ | ⟨rest, hqueue, rfl⟩⟩ := take?_cases htake
  · have hahead : d.ahead = job :: ({ d with queue := rest } : Dispatcher κ).ahead := by
      unfold ahead
      rw [hqueue]
      rfl
    unfold bound
    rw [hahead, current?_idle hworker]
    simp [current?, ahead]
  · have hahead : d.ahead = [] := by
      unfold ahead
      rw [hqueue]
      rfl
    unfold bound
    rw [hahead, current?_idle hworker]
    rfl

theorem bound_finish (hfinish : d.finish? = some d') : d'.bound = d.bound := by
  obtain ⟨job, hjob, rfl⟩ := finish?_eq hfinish
  unfold bound
  rw [hjob]
  simp [current?, ahead]

theorem bound_claim (d : Dispatcher κ) (asker : Marker) : (d.claim asker).bound = d.bound := by
  obtain ⟨marker, heq⟩ := d.claim_eq asker
  rw [heq]
  rfl

/-- As long as the stop marker is not queued, the worker comes to everything. -/
theorem takeWhile_unmarked (hqueue : .stop ∉ d.queue) :
    (d.queue.takeWhile fun item => item.job?.isSome) = d.queue := by
  apply List.takeWhile_eq_self_iff.mpr
  intro item hitem
  cases item with
  | job job => rfl
  | stop => exact absurd hitem hqueue

theorem bound_unmarked (h : d.InOrder) (hqueue : .stop ∉ d.queue) (hrunning : d.hasEnded = false) :
    d.bound = d.accepted := by
  unfold bound ahead
  rw [takeWhile_unmarked hqueue]
  exact h.whole hrunning

/-- Before a shutdown is asked for, no accepted job can be lost. -/
theorem Unstopped.bound (h : d.Unstopped) (hd : d.InOrder) : d.bound = d.accepted :=
  bound_unmarked hd h.queue h.running

theorem running_of_take? (htake : d.take? = some d') : d.hasEnded = false :=
  running_of_idle (take?_cases htake).1

theorem place?_same (hplace : d.place? = some d') : d'.queue.length = d.queue.length + 1 ∧
    d'.current? = d.current? ∧ d'.marker = .placed := by
  obtain rfl := place?_eq hplace
  exact ⟨List.length_append, rfl, rfl⟩

theorem place?_marker (hplace : d.place? = some d') : d.marker ≠ .placed := by
  intro hmarker
  unfold place? at hplace
  rw [hmarker] at hplace
  cases hplace

/-- Nothing can be done any more with a dispatcher that has come to its stop marker. -/
theorem Stopped.still (h : d.Stopped) : (∀ job, d.submit job = .error .dispatchStopped) ∧
    d.take? = none ∧ d.finish? = none ∧ d.place? = none := by
  refine ⟨fun job => if_pos h.ended, ?_, ?_, ?_⟩ <;> by_contra hsome <;>
    obtain ⟨d', hstep⟩ := Option.ne_none_iff_exists'.mp hsome
  · cases (running_of_take? hstep).symm.trans h.ended
  · obtain ⟨job, hjob, -⟩ := finish?_eq hstep
    cases (running_of_current? hjob).symm.trans h.ended
  · exact place?_marker hstep h.marker

namespace Shutting

theorem marker (h : d.Shutting) : d.marker ≠ .inside := by
  cases h with
  | waiting hmarker =>
    rw [hmarker]
    exact Marker.noConfusion
  | queued hmarker =>
    rw [hmarker]
    exact Marker.noConfusion
  | halted hstopped =>
    rw [hstopped.marker]
    exact Marker.noConfusion

theorem stopped (h : d.Shutting) (hended : d.hasEnded) : d.Stopped := by
  cases h with
  | waiting _ _ hrunning => cases hrunning.symm.trans hended
  | queued _ _ hrunning => cases hrunning.symm.trans hended
  | halted hstopped => exact hstopped

theorem submit (h : d.Shutting) (hsubmit : d.submit job = .ok d') : d'.Shutting := by
  obtain ⟨hrunning, rfl⟩ := submit_eq hsubmit
  cases h with
  | waiting hmarker hqueue =>
    refine .waiting hmarker ?_ hrunning
    simpa using hqueue
  | queued hmarker hqueue => exact .queued hmarker (List.mem_append_left _ hqueue) hrunning
  | halted hstopped => cases hrunning.symm.trans hstopped.ended

theorem take (h : d.Shutting) (htake : d.take? = some d') : d'.Shutting := by
  cases h with
  | waiting hmarker hqueue =>
    obtain ⟨hsame, hqueue', hrunning⟩ := take?_unmarked hqueue htake
    exact .waiting (hsame.trans hmarker) hqueue' hrunning
  | queued hmarker hqueue =>
    obtain ⟨-, ⟨next, rest, hitems, rfl⟩ | ⟨rest, hitems, rfl⟩⟩ := take?_cases htake
    · rw [hitems] at hqueue
      exact .queued hmarker (by simpa using hqueue) rfl
    · exact .halted ⟨hmarker, rfl, rfl⟩
  | halted hstopped => cases hstopped.still.2.1.symm.trans htake

theorem finish (h : d.Shutting) (hfinish : d.finish? = some d') : d'.Shutting := by
  cases h with
  | waiting hmarker hqueue =>
    obtain ⟨job, -, rfl⟩ := finish?_eq hfinish
    exact .waiting hmarker hqueue rfl
  | queued hmarker hqueue =>
    obtain ⟨job, -, rfl⟩ := finish?_eq hfinish
    exact .queued hmarker hqueue rfl
  | halted hstopped => cases hstopped.still.2.2.1.symm.trans hfinish

theorem place (h : d.Shutting) (hplace : d.place? = some d') : d'.Shutting := by
  cases h with
  | waiting _ _ hrunning =>
    obtain rfl := place?_eq hplace
    exact .queued rfl List.mem_concat_self hrunning
  | queued hmarker => exact absurd hmarker (place?_marker hplace)
  | halted hstopped => cases hstopped.still.2.2.2.symm.trans hplace

/-- The first shutdown leaves the marker waiting for room. -/
theorem of_unstopped (h : d.Unstopped) : d.shutDown.Shutting := by
  unfold shutDown claim
  rw [if_pos h.marker]
  exact .waiting rfl h.queue h.running

end Shutting

/-- An idle worker with nothing queued leaves room for the marker. -/
theorem place?_isSome (hmarker : d.marker = .outside) (hworker : d.worker = .idle)
    (hqueue : d.queue = []) : d.place?.isSome := by
  unfold place?
  rw [hmarker, if_pos (hasRoom_idle hworker hqueue)]
  rfl

end CameraControl.Dispatcher
