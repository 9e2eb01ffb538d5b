import CameraControl.Proofs.Stopping

/-!
A job that shuts down the dispatcher it runs on. Its stop marker needs room in a queue that nobody empties
meanwhile, since only the worker does and the worker runs the job. There is room if nothing was submitted
since the job began. But jobs are still accepted, from the job itself or from other callers, and if these have
filled the queue the job waits for ever, and everything behind it with it.
-/
namespace CameraControl.Dispatcher

variable {κ : Type} {capacity : Nat} {d d' : Dispatcher κ} {move : Move κ} {moves : List (Move κ)}

/-- A stop marker that waits inside is that of a job that runs. -/
def Attended (d : Dispatcher κ) : Prop := d.marker = .inside → d.current?.isSome

/-- The running job has asked for the shutdown, and its stop marker waits for room. -/
structure Closing (capacity : Nat) (d : Dispatcher κ) : Prop where
  marker : d.marker = .inside
  running : d.current?.isSome
  queue : .stop ∉ d.queue
  within : d.Within capacity

/-- A job whose stop marker waits does not end. -/
theorem finish?_inside (hmarker : d.marker = .inside) : d.finish? = none := by
  unfold finish?
  rw [hmarker]

/-- Once a shutdown was asked for, asking again is in vain. -/
theorem claim_taken (hmarker : d.marker ≠ .unclaimed) (asker : Marker) : d.claim asker = d :=
  if_neg hmarker

theorem Attended.step? (h : d.Attended) (hstep : d.step? move = some d') : d'.Attended := by
  intro hinside
  cases move with
  | submit job =>
    obtain ⟨-, rfl⟩ := submit_eq (submit_of_step? hstep)
    exact h hinside
  | listen =>
    obtain ⟨-, -, rfl⟩ := listen?_eq hstep
    exact h hinside
  | take =>
    obtain ⟨hworker, ⟨job, rest, -, rfl⟩ | ⟨rest, -, rfl⟩⟩ := take?_cases hstep
    · rfl
    · exact absurd hworker (worker_ne_idle (h hinside))
  | finish =>
    obtain ⟨job, -, rfl⟩ := finish?_eq hstep
    cases (finish?_inside (d := d) hinside).symm.trans hstep
  | shutDown =>
    obtain rfl := Option.some.inj hstep
    by_cases hmarker : d.marker = .unclaimed
    · have hclaimed : d.shutDown = { d with marker := .outside } := if_pos hmarker
      rw [hclaimed] at hinside
      cases hinside
    · have hsame : d.shutDown = d := claim_taken hmarker .outside
      rw [hsame] at hinside ⊢
      exact h hinside
  | shutDownInside =>
    have hrunning : d.current?.isSome := by
      by_contra hnone
      cases (if_neg hnone).symm.trans hstep
    rw [inside_of_step? hstep]
    exact (d.claim_same .inside).2.1 ▸ hrunning
  | place =>
    obtain rfl := place?_eq hstep
    cases hinside

namespace Closing

/-- While the running job waits, nothing happens that does not take room in the queue. -/
theorem step? (h : Closing capacity d) (hstep : d.step? move = some d') : d' = d ∨ d.hasRoom := by
  have hbusy : d.worker ≠ .idle := worker_ne_idle h.running
  have htaken : d.marker ≠ .unclaimed := by
    rw [h.marker]
    exact Marker.noConfusion
  cases move with
  | submit job => exact Or.inr (submit_room (submit_of_step? hstep))
  | listen => exact absurd ((listen?_eq hstep).1) hbusy
  | take => exact absurd (take?_cases hstep).1 hbusy
  | finish => cases (finish?_inside h.marker).symm.trans hstep
  | shutDown =>
    obtain rfl := Option.some.inj hstep
    exact Or.inl (claim_taken htaken .outside)
  | shutDownInside =>
    rw [inside_of_step? hstep]
    exact Or.inl (claim_taken htaken .inside)
  | place => exact Or.inr (place?_room hstep).1

/-- With no room, everything stays as it is. -/
theorem run_full (h : Closing capacity d) (hfull : ¬ d.hasRoom) (moves : List (Move κ)) :
    d.run moves = d := by
  refine run_keeps (P := (· = d)) rfl ?_
  rintro _ d' move - rfl hstep
  exact (h.step? hstep).resolve_right hfull

/-- With room, the marker is placed, and the job can end. -/
theorem place_finish (h : Closing capacity d) (hroom : d.hasRoom) : ∃ job, d.current? = some job ∧
    (d.step .place).marker = .placed ∧
    (d.step .place).step .finish = { d with
      queue := d.queue ++ [.stop], marker := .placed, worker := .idle, finished := d.finished ++ [job] } := by
  obtain ⟨job, hjob⟩ := Option.isSome_iff_exists.mp h.running
  have hplaced : d.step .place = { d with queue := d.queue ++ [.stop], marker := .placed } := by
    have hplace : d.place? = some { d with queue := d.queue ++ [.stop], marker := .placed } := by
      unfold place?
      rw [h.marker]
      exact if_pos hroom
    exact congrArg (Option.getD · d) hplace
  refine ⟨job, hjob, by rw [hplaced], ?_⟩
  have hworker : d.worker = .running job := by
    unfold current? at hjob
    split at hjob
    · next hworker => rw [hworker, Option.some.inj hjob]
    · cases hjob
  rw [hplaced]
  unfold step Dispatcher.step? finish?
  dsimp only
  rw [hworker]
  rfl

end Closing

/-- Where nothing is submitted, the queue only fills up with the stop marker. -/
theorem room_run (hroom : d.queue.length < capacity) (hmoves : ∀ move ∈ moves, move.job? = none) :
    (d.run moves).queue.length < capacity ∨ (d.run moves).marker = .placed := by
  refine run_keeps (P := fun d => d.queue.length < capacity ∨ d.marker = .placed) (Or.inl hroom) ?_
  intro d d' move hmove hd hstep
  cases step?_stepped hstep with
  | submitted => cases hmoves _ hmove
  | took _ hqueue =>
    rw [hqueue] at hd
    exact hd.imp_left (Nat.lt_of_succ_lt ·)
  | ended => exact hd.imp_left (Nat.lt_of_le_of_lt (Nat.zero_le _) ·)
  | listened | finished | ignored => exact hd
  | asked _ hmarker =>
    refine Or.inl (hd.resolve_right fun hplaced => ?_)
    cases hmarker.symm.trans hplaced
  | placed => exact Or.inr rfl

namespace Callers

/-- The stop marker that waits can still be placed. -/
def CanPlace (s : Callers κ) : Prop := ∃ more, (s.run more).dispatcher.marker = .placed

theorem closing_run (capacity : Nat) (moves : List (Move κ))
    (hmarker : ((ofCapacity capacity).run moves).dispatcher.marker = .inside) :
    Closing capacity ((ofCapacity capacity).run moves).dispatcher := by
  have hkept : ((ofCapacity capacity).run moves).dispatcher.Attended ∧
      ((ofCapacity capacity).run moves).dispatcher.Within capacity := by
    rw [run_dispatcher]
    refine Dispatcher.run_keeps (P := fun d => d.Attended ∧ d.Within capacity)
      ⟨nofun, within_new capacity⟩ ?_
    rintro d d' move - ⟨hattended, hwithin⟩ hstep
    exact ⟨hattended.step? hstep, hwithin.stepped (Dispatcher.step?_stepped hstep)⟩
  rcases unmarked_or_settled capacity moves with hunmarked | ⟨_, _, _, _, _, hmarked⟩
  · exact ⟨hmarker, hkept.1 hmarker, hunmarked.queue, hkept.2⟩
  · cases hmarker.symm.trans hmarked.marker

/-- There is room if nothing was submitted since the worker took something. -/
theorem room_since_take (capacity : Nat) (hcapacity : 1 ≤ capacity) {before during : List (Move κ)}
    (htake : ((ofCapacity capacity).run before).dispatcher.take?.isSome)
    (hquiet : ∀ job patience, .call job patience ∉ during) :
    let d := ((ofCapacity capacity).run (before ++ .take :: during)).dispatcher
    d.queue.length < capacity ∨ d.marker = .placed := by
  have hwithin : ((ofCapacity capacity).run before).dispatcher.Within capacity := by
    rw [run_dispatcher]
    exact Dispatcher.run_keeps (within_new capacity) fun _ _ _ _ hwithin hstep =>
      hwithin.stepped (Dispatcher.step?_stepped hstep)
  obtain ⟨d, hd⟩ := Option.isSome_iff_exists.mp htake
  have htaken : (((ofCapacity capacity).run before).step .take).dispatcher = d := by
    rw [step_dispatcher]
    exact congrArg (Option.getD · _) hd
  have hroom : d.queue.length < capacity := by
    have hlength := hwithin.queue
    rw [Nat.max_eq_left hcapacity] at hlength
    obtain ⟨-, ⟨job, rest, hqueue, rfl⟩ | ⟨rest, -, rfl⟩⟩ := take?_cases hd
    · rw [hqueue] at hlength
      exact hlength
    · exact hcapacity
  rw [run_append]
  show (((((ofCapacity capacity).run before).step .take).run during).dispatcher.queue.length < capacity ∨
    ((((ofCapacity capacity).run before).step .take).run during).dispatcher.marker = .placed)
  rw [run_dispatcher, htaken]
  apply room_run hroom
  intro inner hinner
  obtain ⟨move, hmove, hof⟩ := List.mem_filterMap.mp hinner
  cases move with
  | call job patience => exact absurd hmove (hquiet job patience)
  | hear | giveUp => cases hof
  | listen | take | finish | shutDown | shutDownInside | place =>
    cases hof
    rfl

/-- A job has asked for the shutdown of the dispatcher that it runs on, and its stop marker waits. It can be
placed if and only if the queue is not full, and then the job can end. If the queue is full, nothing changes
any more, and every call is refused. The queue is not full if nothing was submitted since the worker last took
something from it. -/
theorem own_marker_placed_iff_room (capacity : Nat) (hcapacity : 1 ≤ capacity) (moves : List (Move κ)) :
    let s := (ofCapacity capacity).run moves
    s.dispatcher.marker = .inside →
      (s.CanPlace ↔ s.dispatcher.pending.length ≠ capacity) ∧
      (s.dispatcher.pending.length ≠ capacity → ∃ job, s.dispatcher.current? = some job ∧
        let t := (s.step .place).step .finish
        t.dispatcher.current? = none ∧ t.dispatcher.finished = s.dispatcher.finished ++ [job]) ∧
      (s.dispatcher.pending.length = capacity → ∀ more, let s' := s.run more
        s'.dispatcher = s.dispatcher ∧ ∀ job patience,
          s'.call job patience =
            { s' with answers := s'.answers ++ [(job, some (.queueFull capacity))] }) ∧
      ∀ before during, moves = before ++ .take :: during →
        ((ofCapacity capacity).run before).dispatcher.take?.isSome →
        (∀ job patience, .call job patience ∉ during) → s.dispatcher.pending.length ≠ capacity := by
  intro s hmarker
  have hclosing : Closing capacity s.dispatcher := closing_run capacity moves hmarker
  have hroom : s.dispatcher.hasRoom ↔ s.dispatcher.pending.length ≠ capacity :=
    hclosing.within.hasRoom_iff hcapacity hclosing.queue
  have hstuck (hfull : s.dispatcher.pending.length = capacity) (more : List (Move κ)) :
      (s.run more).dispatcher = s.dispatcher := by
    rw [run_dispatcher]
    exact hclosing.run_full (fun h => hroom.mp h hfull) _
  have hplace : (s.step .place).dispatcher = s.dispatcher.step .place := step_dispatcher s .place
  refine ⟨⟨?_, ?_⟩, ?_, ?_, ?_⟩
  · rintro ⟨more, hplaced⟩ hfull
    rw [hstuck hfull more, hmarker] at hplaced
    cases hplaced
  · intro hfree
    obtain ⟨job, -, hplaced, -⟩ := hclosing.place_finish (hroom.mpr hfree)
    exact ⟨[.place], (congrArg Dispatcher.marker hplace).trans hplaced⟩
  · intro hfree
    obtain ⟨job, hjob, -, hfinish⟩ := hclosing.place_finish (hroom.mpr hfree)
    have hended : ((s.step .place).step .finish).dispatcher = _ :=
      (step_dispatcher (s.step .place) .finish).trans ((congrArg (·.step .finish) hplace).trans hfinish)
    refine ⟨job, hjob, ?_⟩
    dsimp only
    rw [hended]
    exact ⟨rfl, rfl⟩
  · intro hfull more s'
    have hsame : s'.dispatcher = s.dispatcher := hstuck hfull more
    obtain ⟨job, hjob⟩ := Option.isSome_iff_exists.mp hclosing.running
    refine ⟨hsame, fun new patience => ?_⟩
    have hrefused : s'.dispatcher.submit new = .error (.queueFull capacity) := by
      rw [hsame, hclosing.within.submit_full hcapacity hclosing.queue (running_of_current? hjob), if_pos hfull]
    unfold call
    rw [hrefused]
  · intro before during hmoves htake hquiet
    rw [pending_length hclosing.queue]
    have hsince := room_since_take capacity hcapacity htake hquiet
    dsimp only at hsince
    rw [← hmoves] at hsince
    rcases hsince with hlt | hplaced
    · exact Nat.ne_of_lt hlt
    · cases hmarker.symm.trans hplaced

/-- With room for one job, a job submits another one and then shuts the dispatcher down. -/
def crampedMoves : List (Move Nat) := [.call 0 none, .take, .call 1 none, .shutDownInside]

/-- The marker of that shutdown never finds room. -/
theorem cramped_never_placed : let s := (ofCapacity 1).run crampedMoves
    s.dispatcher.marker = .inside ∧ ¬ s.CanPlace := by
  refine ⟨rfl, ?_⟩
  rintro ⟨more, hplaced⟩
  have hclosing : Closing 1 ((ofCapacity 1).run crampedMoves).dispatcher := closing_run 1 crampedMoves rfl
  rw [run_dispatcher, hclosing.run_full (by decide)] at hplaced
  cases hplaced

/-- Such a job waits for ever, keeps the other one from being run, and has further ones refused. Had it not
submitted anything, its marker would have found room, and it would have ended. -/
theorem cramped_stuck : let s := (ofCapacity 1).run crampedMoves
    let alone : Callers Nat := (ofCapacity 1).run [.call 0 none, .take, .shutDownInside]
    1 ≤ 1 ∧ s.dispatcher.marker = .inside ∧ s.dispatcher.pending.length = 1 ∧
      (∀ more, (s.run more).dispatcher = s.dispatcher) ∧
      s.call 2 none = { s with answers := s.answers ++ [(2, some (.queueFull 1))] } ∧
      alone.dispatcher.marker = .inside ∧ alone.CanPlace ∧
      ((alone.step .place).step .finish).dispatcher.finished = [0] := by
  obtain ⟨-, -, hstuck, -⟩ := own_marker_placed_iff_room 1 (Nat.le_refl 1) crampedMoves rfl
  obtain ⟨hplaced, hended, -, hquiet⟩ :=
    own_marker_placed_iff_room 1 (Nat.le_refl 1) [.call 0 none, .take, .shutDownInside] rfl
  have hroom := hquiet [.call 0 none] [.shutDownInside] rfl rfl (by simp)
  obtain ⟨job, hjob, -, hfinished⟩ := hended hroom
  cases hjob
  exact ⟨Nat.le_refl 1, rfl, rfl, fun more => (hstuck rfl more).1, (hstuck rfl []).2 2 none, rfl,
    hplaced.mpr hroom, hfinished⟩

end Callers

end CameraControl.Dispatcher
