import Mathlib.Tactic.ByContra
import Mathlib.Tactic.SplitIfs
import CameraControl.Dispatcher

/-!
The order of jobs in a dispatcher. Jobs move from the queue to the worker and from there to the finished
ones, so that these three in a row are what was accepted, as long as the worker has not ended. It ends at the
stop marker only, which nobody places before a shutdown.
-/
namespace CameraControl.Dispatcher

variable {κ : Type}

/-- The jobs that have ended, run and wait are those that were accepted, but for some that are lost when the
worker ends. -/
structure InOrder (d : Dispatcher κ) : Prop where
  ahead : d.finished ++ d.current?.toList ++ d.pending <+: d.accepted
  whole : d.hasEnded = false → d.finished ++ d.current?.toList ++ d.pending = d.accepted

/-- No shutdown has been asked for. -/
structure Unstopped (d : Dispatcher κ) : Prop where
  marker : d.marker = .unclaimed
  queue : .stop ∉ d.queue
  running : d.hasEnded = false

variable {d d' : Dispatcher κ} {job : κ}

theorem InOrder.of_whole (h : d.finished ++ d.current?.toList ++ d.pending = d.accepted) :
    d.InOrder := ⟨h ▸ List.prefix_refl _, fun _ => h⟩

theorem inOrder_new (capacity : Nat) : ({ capacity } : Dispatcher κ).InOrder := .of_whole rfl

theorem unstopped_new (capacity : Nat) : ({ capacity } : Dispatcher κ).Unstopped :=
  ⟨rfl, List.not_mem_nil, rfl⟩

section submit

theorem submit_eq (hsubmit : d.submit job = .ok d') : d.hasEnded = false ∧
    d' = { d with queue := d.queue ++ [.job job], accepted := d.accepted ++ [job] } := by
  unfold submit at hsubmit
  split_ifs at hsubmit with hended haccepts
  cases hsubmit
  exact ⟨Bool.not_eq_true _ ▸ hended, rfl⟩

theorem InOrder.submit (h : d.InOrder) (hsubmit : d.submit job = .ok d') : d'.InOrder := by
  obtain ⟨hended, rfl⟩ := submit_eq hsubmit
  apply InOrder.of_whole
  have hpending : (d.queue ++ [Item.job job]).filterMap Item.job? = d.pending ++ [job] :=
    List.filterMap_append
  show d.finished ++ d.current?.toList ++ (d.queue ++ [Item.job job]).filterMap Item.job? = _
  rw [hpending, ← List.append_assoc, h.whole hended]

theorem Unstopped.submit (h : d.Unstopped) (hsubmit : d.submit job = .ok d') : d'.Unstopped := by
  obtain ⟨-, rfl⟩ := submit_eq hsubmit
  refine ⟨h.marker, ?_, h.running⟩
  simpa using h.queue

end submit

theorem running_of_idle (hworker : d.worker = .idle) : d.hasEnded = false := by
  unfold hasEnded
  rw [hworker]

theorem running_of_current? (hjob : d.current? = some job) : d.hasEnded = false := by
  unfold current? at hjob
  unfold hasEnded
  split at hjob
  · next hworker => rw [hworker]
  · cases hjob

/-- A worker that neither runs a job nor has ended is idle. -/
theorem worker_idle (hcurrent : d.current? = none) (hended : d.hasEnded = false) :
    d.worker = .idle := by
  cases hworker : d.worker with
  | idle => rfl
  | running job =>
    unfold current? at hcurrent
    rw [hworker] at hcurrent
    cases hcurrent
  | ended =>
    unfold hasEnded at hended
    rw [hworker] at hended
    cases hended

section take

/-- The worker takes a job, or the stop marker and ends. -/
theorem take?_cases (htake : d.take? = some d') :
    d.worker = .idle ∧ ((∃ job rest, d.queue = .job job :: rest ∧
        d' = { d with queue := rest, worker := .running job, listening := false }) ∨
      (∃ rest, d.queue = .stop :: rest ∧
        d' = { d with queue := [], worker := .ended, listening := false })) := by
  unfold take? at htake
  split at htake
  · next job rest hworker hqueue =>
    cases htake
    exact ⟨hworker, Or.inl ⟨job, rest, hqueue, rfl⟩⟩
  · next rest hworker hqueue =>
    cases htake
    exact ⟨hworker, Or.inr ⟨rest, hqueue, rfl⟩⟩
  · cases htake

theorem current?_idle (hworker : d.worker = .idle) : d.current? = none := by
  unfold current?
  rw [hworker]

theorem worker_ne_idle (hrunning : d.current?.isSome) : d.worker ≠ .idle := by
  intro hworker
  rw [current?_idle hworker] at hrunning
  cases hrunning

theorem take?_isSome (hworker : d.worker = .idle) (hqueue : d.queue ≠ []) : d.take?.isSome := by
  unfold take?
  rw [hworker]
  cases hitems : d.queue with
  | nil => exact absurd hitems hqueue
  | cons item rest => cases item <;> rfl

theorem InOrder.take (h : d.InOrder) (htake : d.take? = some d') : d'.InOrder := by
  obtain ⟨hworker, ⟨job, rest, hqueue, rfl⟩ | ⟨rest, hqueue, rfl⟩⟩ := take?_cases htake
  · have hpending : d.pending = job :: rest.filterMap Item.job? := by
      unfold pending
      rw [hqueue]
      rfl
    have hwhole := h.whole (running_of_idle hworker)
    rw [current?_idle hworker, hpending] at hwhole
    apply InOrder.of_whole
    simpa [current?, pending] using hwhole
  · refine ⟨?_, fun hended => by cases hended⟩
    have hahead : d.finished <+: d.accepted :=
      ((List.prefix_append _ _).trans (List.prefix_append _ _)).trans h.ahead
    simpa [current?, pending] using hahead

/-- Where no stop marker is queued, the worker takes a job. -/
theorem take?_unmarked (hqueue : .stop ∉ d.queue) (htake : d.take? = some d') :
    d'.marker = d.marker ∧ .stop ∉ d'.queue ∧ d'.hasEnded = false := by
  obtain ⟨-, ⟨job, rest, hitems, rfl⟩ | ⟨rest, hitems, rfl⟩⟩ := take?_cases htake
  · rw [hitems] at hqueue
    exact ⟨rfl, fun hrest => hqueue (List.mem_cons_of_mem _ hrest), rfl⟩
  · rw [hitems] at hqueue
    exact absurd List.mem_cons_self hqueue

theorem Unstopped.take (h : d.Unstopped) (htake : d.take? = some d') : d'.Unstopped := by
  obtain ⟨hmarker, hqueue, hrunning⟩ := take?_unmarked h.queue htake
  exact ⟨hmarker.trans h.marker, hqueue, hrunning⟩

end take

section listen

theorem worker_of_isIdle (hidle : d.isIdle) : d.worker = .idle := by
  unfold isIdle at hidle
  split at hidle
  · next hworker => exact hworker
  · cases hidle

/-- The idle worker comes to wait, and changes nothing else. -/
theorem listen?_eq (hlisten : d.listen? = some d') :
    d.worker = .idle ∧ d.queue = [] ∧ d' = { d with listening := true } := by
  unfold listen? at hlisten
  split_ifs at hlisten with hwaits
  obtain ⟨hidle, hempty⟩ := Bool.and_eq_true_iff.mp hwaits
  exact ⟨worker_of_isIdle hidle, List.isEmpty_iff.mp hempty, (Option.some.inj hlisten).symm⟩

theorem InOrder.listen (h : d.InOrder) (hlisten : d.listen? = some d') : d'.InOrder := by
  obtain ⟨-, -, rfl⟩ := listen?_eq hlisten
  exact ⟨h.ahead, h.whole⟩

theorem Unstopped.listen (h : d.Unstopped) (hlisten : d.listen? = some d') : d'.Unstopped := by
  obtain ⟨-, -, rfl⟩ := listen?_eq hlisten
  exact ⟨h.marker, h.queue, h.running⟩

end listen

section finish

theorem finish?_eq (hfinish : d.finish? = some d') : ∃ job, d.current? = some job ∧
    d' = { d with worker := .idle, finished := d.finished ++ [job] } := by
  unfold finish? at hfinish
  split at hfinish
  · cases hfinish
  · next job hworker _ =>
    cases hfinish
    refine ⟨job, ?_, rfl⟩
    unfold current?
    rw [hworker]
  · cases hfinish

theorem finish?_isSome (hmarker : d.marker ≠ .inside) (hjob : d.current? = some job) :
    d.finish?.isSome := by
  unfold current? at hjob
  split at hjob
  · next running hworker =>
    unfold finish?
    rw [hworker]
    cases hplace : d.marker with
    | inside => exact absurd hplace hmarker
    | unclaimed | outside | placed => rfl
  · cases hjob

theorem InOrder.finish (h : d.InOrder) (hfinish : d.finish? = some d') : d'.InOrder := by
  obtain ⟨job, hjob, rfl⟩ := finish?_eq hfinish
  have hwhole := h.whole (running_of_current? hjob)
  rw [hjob] at hwhole
  apply InOrder.of_whole
  simpa [current?, pending] using hwhole

theorem Unstopped.finish (h : d.Unstopped) (hfinish : d.finish? = some d') : d'.Unstopped := by
  obtain ⟨job, -, rfl⟩ := finish?_eq hfinish
  exact ⟨h.marker, h.queue, rfl⟩

end finish

/-- An idle worker with nothing queued leaves room, whatever the capacity. -/
theorem hasRoom_idle (hworker : d.worker = .idle) (hqueue : d.queue = []) : d.hasRoom := by
  unfold hasRoom isIdle
  rw [hworker, hqueue]
  split
  · rfl
  · next hcapacity => exact decide_eq_true (Nat.pos_of_ne_zero hcapacity)

theorem place?_eq (hplace : d.place? = some d') :
    d' = { d with queue := d.queue ++ [.stop], marker := .placed } := by
  unfold place? at hplace
  split at hplace
  · split_ifs at hplace with hroom
    exact (Option.some.inj hplace).symm
  · split_ifs at hplace with hroom
    exact (Option.some.inj hplace).symm
  · cases hplace

theorem InOrder.place (h : d.InOrder) (hplace : d.place? = some d') : d'.InOrder := by
  have hpending : (d.queue ++ [Item.stop]).filterMap Item.job? = d.pending := by
    rw [List.filterMap_append]
    exact List.append_nil _
  obtain rfl := place?_eq hplace
  refine ⟨?_, fun hended => ?_⟩
  · show d.finished ++ d.current?.toList ++ (d.queue ++ [Item.stop]).filterMap _ <+: d.accepted
    rw [hpending]
    exact h.ahead
  · show d.finished ++ d.current?.toList ++ (d.queue ++ [Item.stop]).filterMap _ = d.accepted
    rw [hpending]
    exact h.whole hended

/-- Asking for a shutdown changes nothing but the marker. -/
theorem claim_eq (d : Dispatcher κ) (asker : Marker) :
    ∃ marker, d.claim asker = { d with marker } := by
  unfold claim
  split_ifs
  · exact ⟨_, rfl⟩
  · exact ⟨d.marker, rfl⟩

theorem claim_same (d : Dispatcher κ) (asker : Marker) : (d.claim asker).queue = d.queue ∧
    (d.claim asker).current? = d.current? ∧ (d.claim asker).finished = d.finished := by
  obtain ⟨marker, heq⟩ := d.claim_eq asker
  rw [heq]
  exact ⟨rfl, rfl, rfl⟩

theorem InOrder.claim (h : d.InOrder) (asker : Marker) : (d.claim asker).InOrder := by
  obtain ⟨marker, heq⟩ := d.claim_eq asker
  rw [heq]
  exact ⟨h.ahead, h.whole⟩

theorem Unstopped.place (h : d.Unstopped) : d.place? = none := by
  unfold place?
  rw [h.marker]

/-- A job that runs can end. -/
theorem Unstopped.finish?_isSome (h : d.Unstopped) (hjob : d.current? = some job) :
    d.finish?.isSome := by
  refine Dispatcher.finish?_isSome ?_ hjob
  rw [h.marker]
  exact Marker.noConfusion

/-- A worker that runs nothing and has nothing to take has nothing queued. -/
theorem Unstopped.queue_eq_nil (h : d.Unstopped) (hidle : d.current? = none)
    (htake : d.take? = none) : d.queue = [] := by
  by_contra hqueue
  have hsome := take?_isSome (worker_idle hidle h.running) hqueue
  rw [htake] at hsome
  cases hsome

end CameraControl.Dispatcher
