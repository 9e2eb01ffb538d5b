import CameraControl.Dispatcher.Callers
import CameraControl.Dispatcher.Gated
import CameraControl.Proofs.Dispatching

/-!
A dispatcher under any number of callers. Its own moves keep jobs in order and the queue within its capacity;
what callers learn, and when they stop waiting, is nothing to the dispatcher. So before a shutdown no accepted
job is lost, and a call is refused exactly if the queue is full.
-/
namespace CameraControl.Dispatcher

variable {κ : Type}

/-- The job that the move submits. -/
def Move.job? : Move κ → Option κ
  | submit job => some job
  | _ => none

/-- The move asks for a shutdown. -/
def Move.stops : Move κ → Bool
  | shutDown | shutDownInside => true
  | _ => false

/-- What a move does where it is possible. -/
inductive Stepped (d : Dispatcher κ) : Move κ → Dispatcher κ → Prop
  | submitted {job : κ} (hroom : d.hasRoom) (hrunning : d.hasEnded = false) :
      Stepped d (.submit job)
        { d with queue := d.queue ++ [.job job], accepted := d.accepted ++ [job] }
  | took {job : κ} {rest : List (Item κ)} (hworker : d.worker = .idle)
      (hqueue : d.queue = .job job :: rest) :
      Stepped d .take { d with queue := rest, worker := .running job, listening := false }
  | ended {rest : List (Item κ)} (hworker : d.worker = .idle) (hqueue : d.queue = .stop :: rest) :
      Stepped d .take { d with queue := [], worker := .ended, listening := false }
  | listened (hworker : d.worker = .idle) : Stepped d .listen { d with listening := true }
  | finished {job : κ} (hjob : d.current? = some job) :
      Stepped d .finish { d with worker := .idle, finished := d.finished ++ [job] }
  | asked {move : Move κ} {asker : Marker} (hmove : move.stops) (hmarker : d.marker = .unclaimed)
      (hasker : asker ≠ .placed) : Stepped d move { d with marker := asker }
  | ignored {move : Move κ} (hmove : move.stops) : Stepped d move d
  | placed (hroom : d.hasRoom) (hmarker : d.marker = .outside ∨ d.marker = .inside) :
      Stepped d .place { d with queue := d.queue ++ [.stop], marker := .placed }

/-- The queue holds no more than it may, where capacity zero has room for what is handed over. -/
structure Within (capacity : Nat) (d : Dispatcher κ) : Prop where
  queue : d.queue.length ≤ max capacity 1
  capacity : d.capacity = capacity

variable {d d' : Dispatcher κ} {job : κ} {move : Move κ} {moves : List (Move κ)}

section moves

theorem submit_of_step? (hstep : d.step? (.submit job) = some d') : d.submit job = .ok d' := by
  change (d.submit job).toOption = some d' at hstep
  cases hsubmit : d.submit job with
  | ok next =>
    rw [hsubmit] at hstep
    exact congrArg Except.ok (Option.some.inj hstep)
  | error failure =>
    rw [hsubmit] at hstep
    cases hstep

theorem inside_of_step? (hstep : d.step? .shutDownInside = some d') : d' = d.shutDownInside := by
  change (if d.current?.isSome then some d.shutDownInside else none) = some d' at hstep
  split_ifs at hstep
  exact (Option.some.inj hstep).symm

theorem submit_room (hsubmit : d.submit job = .ok d') : d.hasRoom := by
  unfold submit at hsubmit
  split_ifs at hsubmit with hended haccepts
  exact (Bool.and_eq_true_iff.mp haccepts).1

theorem place?_room (hplace : d.place? = some d') :
    d.hasRoom ∧ (d.marker = .outside ∨ d.marker = .inside) := by
  unfold place? at hplace
  split at hplace
  · next hmarker =>
    split_ifs at hplace with hroom
    exact ⟨hroom, Or.inl hmarker⟩
  · next hmarker =>
    split_ifs at hplace with hroom
    exact ⟨hroom, Or.inr hmarker⟩
  · cases hplace

theorem claim_stepped (hmove : move.stops) {asker : Marker} (hasker : asker ≠ .placed) :
    Stepped d move (d.claim asker) := by
  unfold claim
  split_ifs with hmarker
  · exact .asked hmove hmarker hasker
  · exact .ignored hmove

theorem step?_stepped (hstep : d.step? move = some d') : Stepped d move d' := by
  cases move with
  | submit job =>
    have hsubmit := submit_of_step? hstep
    obtain ⟨hrunning, rfl⟩ := submit_eq hsubmit
    exact .submitted (submit_room hsubmit) hrunning
  | listen =>
    obtain ⟨hworker, -, rfl⟩ := listen?_eq hstep
    exact .listened hworker
  | take =>
    obtain ⟨hworker, ⟨job, rest, hqueue, rfl⟩ | ⟨rest, hqueue, rfl⟩⟩ := take?_cases hstep
    · exact .took hworker hqueue
    · exact .ended hworker hqueue
  | finish =>
    obtain ⟨job, hjob, rfl⟩ := finish?_eq hstep
    exact .finished hjob
  | shutDown =>
    obtain rfl := Option.some.inj hstep
    exact claim_stepped rfl Marker.noConfusion
  | shutDownInside =>
    obtain rfl := inside_of_step? hstep
    exact claim_stepped rfl Marker.noConfusion
  | place =>
    obtain ⟨hroom, hmarker⟩ := place?_room hstep
    obtain rfl := place?_eq hstep
    exact .placed hroom hmarker

theorem step_cases (d : Dispatcher κ) (move : Move κ) :
    d.step move = d ∨ d.step? move = some (d.step move) := by
  unfold step
  cases d.step? move with
  | none => exact Or.inl rfl
  | some d' => exact Or.inr rfl

/-- What every possible move keeps, a run keeps. -/
theorem run_keeps {P : Dispatcher κ → Prop} (h : P d)
    (hstep : ∀ d d' : Dispatcher κ, ∀ move ∈ moves, P d → d.step? move = some d' → P d') :
    P (d.run moves) := by
  refine List.foldlRecOn moves step h ?_
  intro d hd move hmove
  rcases d.step_cases move with hsame | hnext
  · rw [hsame]
    exact hd
  · exact hstep d _ move hmove hd hnext

theorem InOrder.step? (h : d.InOrder) (hstep : d.step? move = some d') : d'.InOrder := by
  cases move with
  | submit job => exact h.submit (submit_of_step? hstep)
  | listen => exact h.listen hstep
  | take => exact h.take hstep
  | finish => exact h.finish hstep
  | shutDown =>
    obtain rfl := Option.some.inj hstep
    exact h.claim .outside
  | shutDownInside =>
    obtain rfl := inside_of_step? hstep
    exact h.claim .inside
  | place => exact h.place hstep

theorem Unstopped.step? (h : d.Unstopped) (hmove : move.stops = false)
    (hstep : d.step? move = some d') : d'.Unstopped := by
  cases move with
  | submit job => exact h.submit (submit_of_step? hstep)
  | listen => exact h.listen hstep
  | take => exact h.take hstep
  | finish => exact h.finish hstep
  | place => cases h.place.symm.trans hstep
  | shutDown | shutDownInside => cases hmove

/-- A move adds its job to the accepted ones, and forgets none that has ended. -/
theorem Stepped.books (h : Stepped d move d') :
    d'.accepted = d.accepted ++ move.job?.toList ∧ d.finished <+: d'.finished := by
  have hstops : move.stops → d.accepted = d.accepted ++ move.job?.toList := by
    intro hmove
    cases move with
    | shutDown | shutDownInside => exact (List.append_nil _).symm
    | submit job | listen | take | finish | place => cases hmove
  cases h with
  | submitted => exact ⟨rfl, List.prefix_refl _⟩
  | listened | took | ended | placed => exact ⟨(List.append_nil _).symm, List.prefix_refl _⟩
  | finished => exact ⟨(List.append_nil _).symm, List.prefix_append _ _⟩
  | asked hmove | ignored hmove => exact ⟨hstops hmove, List.prefix_refl _⟩

end moves

section capacity

variable {capacity : Nat}

theorem within_new (capacity : Nat) : ({ capacity } : Dispatcher κ).Within capacity :=
  ⟨Nat.zero_le _, rfl⟩

theorem Within.room (h : d.Within capacity) (hroom : d.hasRoom) :
    d.queue.length + 1 ≤ max capacity 1 := by
  unfold hasRoom at hroom
  rw [h.capacity] at hroom
  split_ifs at hroom with hzero
  · have hempty : d.queue = [] := List.isEmpty_iff.mp (Bool.and_eq_true_iff.mp hroom).2
    rw [hempty]
    exact Nat.le_max_right _ _
  · exact Nat.le_trans (Nat.succ_le_of_lt (of_decide_eq_true hroom)) (Nat.le_max_left _ _)

theorem Within.stepped (h : d.Within capacity) (hstep : Stepped d move d') : d'.Within capacity := by
  cases hstep with
  | submitted hroom | placed hroom => exact ⟨List.length_append ▸ h.room hroom, h.capacity⟩
  | took _ hqueue =>
    have hlength := h.queue
    rw [hqueue] at hlength
    exact ⟨Nat.le_trans (Nat.le_succ _) hlength, h.capacity⟩
  | ended => exact ⟨Nat.zero_le _, h.capacity⟩
  | listened | finished | asked | ignored => exact ⟨h.queue, h.capacity⟩

/-- Without a stop marker, whatever is queued is a job. -/
theorem pending_length (hqueue : .stop ∉ d.queue) : d.pending.length = d.queue.length := by
  apply List.filterMap_length_eq_length.mpr
  intro item hitem
  cases item with
  | job job => rfl
  | stop => exact absurd hitem hqueue

theorem Within.capacity_ne_zero (h : d.Within capacity) (hcapacity : 1 ≤ capacity) :
    d.capacity ≠ 0 := by
  rw [h.capacity]
  exact Nat.one_le_iff_ne_zero.mp hcapacity

/-- As long as no stop marker is queued, there is room for as many jobs as the capacity says. -/
theorem Within.hasRoom_iff (h : d.Within capacity) (hcapacity : 1 ≤ capacity)
    (hqueue : .stop ∉ d.queue) : d.hasRoom ↔ d.pending.length ≠ capacity := by
  have hlength := h.queue
  rw [Nat.max_eq_left hcapacity] at hlength
  unfold hasRoom
  rw [if_neg (h.capacity_ne_zero hcapacity), h.capacity, pending_length hqueue, decide_eq_true_iff]
  omega

/-- Where the queue may hold anything, room in it is all that a job needs. -/
theorem Within.accepts_eq (h : d.Within capacity) (hcapacity : 1 ≤ capacity) :
    d.accepts = d.hasRoom := by
  unfold accepts
  rw [decide_eq_true (h.capacity_ne_zero hcapacity)]
  exact Bool.and_true _

/-- A job is refused exactly if the queue is full. -/
theorem Within.submit_full (h : d.Within capacity) (hcapacity : 1 ≤ capacity) (hqueue : .stop ∉ d.queue)
    (hrunning : d.hasEnded = false) (job : κ) : d.submit job =
      if d.pending.length = capacity then .error (.queueFull capacity)
      else .ok { d with queue := d.queue ++ [.job job], accepted := d.accepted ++ [job] } := by
  unfold Dispatcher.submit
  rw [hrunning, if_neg Bool.false_ne_true, h.accepts_eq hcapacity, h.capacity]
  split_ifs with hroom hfull hfull
  · exact absurd hfull ((h.hasRoom_iff hcapacity hqueue).mp hroom)
  · rfl
  · rfl
  · exact absurd ((h.hasRoom_iff hcapacity hqueue).mpr hfull) hroom

/-- A run without a shutdown keeps jobs in order and the queue within its capacity. -/
theorem unstopped_run (capacity : Nat) (hmoves : ∀ move ∈ moves, move.stops = false) :
    let d : Dispatcher κ := ({ capacity } : Dispatcher κ).run moves
    d.InOrder ∧ d.Unstopped ∧ d.Within capacity := by
  refine run_keeps (P := fun d => d.InOrder ∧ d.Unstopped ∧ d.Within capacity)
    ⟨inOrder_new capacity, unstopped_new capacity, within_new capacity⟩ ?_
  rintro d d' move hmove ⟨horder, hunstopped, hwithin⟩ hstep
  exact ⟨horder.step? hstep, hunstopped.step? (hmoves move hmove) hstep,
    hwithin.stepped (step?_stepped hstep)⟩

end capacity

namespace Callers

variable {s s' : Callers κ} {move : Move κ}

/-- What the dispatcher has of a move of its callers. -/
def Move.inner? : Move κ → Option (Dispatcher.Move κ)
  | call job _ => some (.submit job)
  | hear _ | giveUp _ => none
  | listen => some .listen
  | take => some .take
  | finish => some .finish
  | shutDown => some .shutDown
  | shutDownInside => some .shutDownInside
  | place => some .place

def Move.stops (move : Move κ) : Bool := move.inner?.any Dispatcher.Move.stops

def Move.isGivingUp : Move κ → Bool
  | giveUp _ => true
  | _ => false

/-- What callers know agrees with the dispatcher. -/
structure Informed (s : Callers κ) : Prop where
  granted : granted s.answers = s.dispatcher.accepted
  waits : ∀ wait ∈ s.waits, s.dispatcher.accepted[wait.turn]? = some wait.job
  ends : ∀ wait failure, (wait, failure) ∈ s.ends →
    s.dispatcher.accepted[wait.turn]? = some wait.job ∧
      (failure = none ∧ wait.turn < s.dispatcher.finished.length ∨
        failure = some (.timeout wait.ms wait.description))

/-- What a move of the callers does where it is possible. -/
inductive Stepped (s : Callers κ) : Move κ → Callers κ → Prop
  | granted {job : κ} {patience : Option (Nat × String)} {d : Dispatcher κ} {waits : List (Wait κ)}
      (hsubmit : s.dispatcher.submit job = .ok d)
      (hwaits : ∀ wait ∈ waits, wait.turn = s.dispatcher.accepted.length ∧ wait.job = job) :
      Stepped s (.call job patience)
        { s with
          dispatcher := d, answers := s.answers ++ [(job, none)], waits := s.waits ++ waits }
  | refused {job : κ} {patience : Option (Nat × String)} {failure : Failure}
      (hsubmit : s.dispatcher.submit job = .error failure) :
      Stepped s (.call job patience) { s with answers := s.answers ++ [(job, some failure)] }
  | waited {move : Move κ} {wait : Wait κ} {failure : Option Failure} (hmove : move.inner? = none)
      (hwait : wait ∈ s.waits)
      (hfailure : failure = none ∧ wait.turn < s.dispatcher.finished.length ∨
        failure = some (.timeout wait.ms wait.description)) :
      Stepped s move (s.endWait wait failure)
  | moved {move : Move κ} {inner : Dispatcher.Move κ} {d : Dispatcher κ}
      (hmove : move.inner? = some inner) (hjob : inner.job? = none)
      (hstep : s.dispatcher.step? inner = some d) : Stepped s move (s.follow d)

theorem call_stepped (s : Callers κ) (job : κ) (patience : Option (Nat × String)) :
    Stepped s (.call job patience) (s.call job patience) := by
  unfold call
  cases hsubmit : s.dispatcher.submit job with
  | error failure => exact .refused hsubmit
  | ok d =>
    refine .granted hsubmit ?_
    intro wait hwait
    obtain ⟨asked, -, rfl⟩ := Option.map_eq_some_iff.mp (Option.mem_toList.mp hwait)
    exact ⟨rfl, rfl⟩

theorem waiting?_some {turn : Nat} {wait : Wait κ} (hwait : s.waiting? turn = some wait) :
    wait ∈ s.waits ∧ wait.turn = turn :=
  ⟨List.mem_of_find?_eq_some hwait, of_decide_eq_true (List.find?_some hwait :)⟩

theorem moved_of_map {inner : Dispatcher.Move κ} (hmove : move.inner? = some inner)
    (hjob : inner.job? = none) (hstep : (s.dispatcher.step? inner).map s.follow = some s') :
    Stepped s move s' := by
  obtain ⟨d, hd, rfl⟩ := Option.map_eq_some_iff.mp hstep
  exact .moved hmove hjob hd

theorem step?_stepped (hstep : s.step? move = some s') : Stepped s move s' := by
  cases move with
  | call job patience =>
    obtain rfl := Option.some.inj hstep
    exact s.call_stepped job patience
  | hear turn =>
    change s.hear? turn = some s' at hstep
    unfold hear? at hstep
    split_ifs at hstep with hended
    obtain ⟨wait, hwait, rfl⟩ := Option.map_eq_some_iff.mp hstep
    obtain ⟨hmem, rfl⟩ := waiting?_some hwait
    exact .waited rfl hmem (Or.inl ⟨rfl, hended⟩)
  | giveUp turn =>
    obtain ⟨wait, hwait, rfl⟩ := Option.map_eq_some_iff.mp hstep
    exact .waited rfl (waiting?_some hwait).1 (Or.inr rfl)
  | listen | take | finish | shutDown | shutDownInside | place => exact moved_of_map rfl rfl hstep

theorem step_cases (s : Callers κ) (move : Move κ) :
    s.step move = s ∨ Stepped s move (s.step move) := by
  unfold step
  cases hstep : s.step? move with
  | none => exact Or.inl rfl
  | some s' => exact Or.inr (step?_stepped hstep)

theorem call_dispatcher (s : Callers κ) (job : κ) (patience : Option (Nat × String)) :
    (s.call job patience).dispatcher = s.dispatcher.step (.submit job) := by
  unfold call Dispatcher.step Dispatcher.step?
  dsimp only
  cases s.dispatcher.submit job with
  | error failure => rfl
  | ok d => rfl

theorem move_dispatcher (s : Callers κ) (inner : Dispatcher.Move κ) :
    (((s.dispatcher.step? inner).map s.follow).getD s).dispatcher = s.dispatcher.step inner := by
  unfold Dispatcher.step
  cases s.dispatcher.step? inner with
  | none => rfl
  | some d => rfl

/-- The dispatcher does not notice how waits end. -/
theorem step_unnoticed (hmove : move.inner? = none) : (s.step move).dispatcher = s.dispatcher := by
  rcases s.step_cases move with hsame | hstep
  · rw [hsame]
  · generalize s.step move = s' at hstep
    cases hstep with
    | waited => rfl
    | granted | refused => cases hmove
    | moved hinner => cases hinner.symm.trans hmove

theorem step_dispatcher (s : Callers κ) (move : Move κ) :
    (s.step move).dispatcher = (move.inner?.map s.dispatcher.step).getD s.dispatcher := by
  cases move with
  | call job patience => exact s.call_dispatcher job patience
  | hear turn | giveUp turn => exact step_unnoticed rfl
  | listen => exact s.move_dispatcher .listen
  | take => exact s.move_dispatcher .take
  | finish => exact s.move_dispatcher .finish
  | shutDown => exact s.move_dispatcher .shutDown
  | shutDownInside => exact s.move_dispatcher .shutDownInside
  | place => exact s.move_dispatcher .place

theorem dispatcher_cases (s : Callers κ) (move : Move κ) :
    (s.step move).dispatcher = s.dispatcher ∨ ∃ inner, move.inner? = some inner ∧
      s.dispatcher.step? inner = some (s.step move).dispatcher := by
  rw [step_dispatcher]
  cases move.inner? with
  | none => exact Or.inl rfl
  | some inner => exact (s.dispatcher.step_cases inner).imp_right fun hstep => ⟨inner, rfl, hstep⟩

/-- A dispatcher goes through the run as it would if nobody waited. -/
theorem run_dispatcher (s : Callers κ) (moves : List (Move κ)) :
    (s.run moves).dispatcher = s.dispatcher.run (moves.filterMap Move.inner?) := by
  induction moves generalizing s with
  | nil => rfl
  | cons move moves ih =>
    refine (ih (s.step move)).trans ?_
    rw [step_dispatcher, List.filterMap_cons]
    cases move.inner? with
    | none => rfl
    | some inner => rfl

/-- Whether anyone has given up makes no difference to the dispatcher. -/
theorem run_without_giving_up (s : Callers κ) (moves : List (Move κ)) :
    (s.run (moves.filter (!·.isGivingUp))).dispatcher = (s.run moves).dispatcher := by
  rw [run_dispatcher, run_dispatcher, List.filterMap_filter]
  congr 2
  funext move
  cases move <;> rfl

theorem granted_append (answers answers' : List (κ × Option Failure)) :
    granted (answers ++ answers') = granted answers ++ granted answers' := by
  unfold granted
  rw [List.filter_append, List.map_append]

theorem getElem?_extended {jobs jobs' : List κ} {turn : Nat} {job : κ} (hextended : jobs <+: jobs')
    (hjob : jobs[turn]? = some job) : jobs'[turn]? = some job := by
  obtain ⟨rest, rfl⟩ := hextended
  obtain ⟨hturn, -⟩ := List.getElem?_eq_some_iff.mp hjob
  rwa [List.getElem?_append_left hturn]

theorem Informed.stepped (h : s.Informed) (hstep : Stepped s move s') : s'.Informed := by
  cases hstep with
  | @granted job patience d waits hsubmit hwaits =>
    obtain ⟨-, rfl⟩ := submit_eq hsubmit
    have hextended : s.dispatcher.accepted <+: s.dispatcher.accepted ++ [job] := List.prefix_append _ _
    refine ⟨?_, ?_, ?_⟩
    · rw [granted_append, h.granted]
      rfl
    · intro wait hwait
      rcases List.mem_append.mp hwait with hold | hnew
      · exact getElem?_extended hextended (h.waits wait hold)
      · obtain ⟨hturn, hjob⟩ := hwaits wait hnew
        rw [hturn, hjob]
        exact List.getElem?_concat_length
    · intro wait failure hend
      exact (h.ends wait failure hend).imp_left (getElem?_extended hextended)
  | refused =>
    refine ⟨?_, h.waits, h.ends⟩
    rw [granted_append, h.granted]
    exact List.append_nil _
  | waited _ hwait hfailure =>
    refine ⟨h.granted, fun wait hmem => h.waits wait (List.mem_filter.mp hmem).1, ?_⟩
    intro wait failure hend
    rcases List.mem_append.mp hend with hold | hnew
    · exact h.ends wait failure hold
    · cases List.mem_singleton.mp hnew
      exact ⟨h.waits _ hwait, hfailure⟩
  | @moved _ inner d _ hjob hinner =>
    obtain ⟨haccepted, hfinished⟩ := (Dispatcher.step?_stepped hinner).books
    rw [hjob] at haccepted
    have hsame : d.accepted = s.dispatcher.accepted := haccepted.trans (List.append_nil _)
    refine ⟨h.granted.trans hsame.symm, ?_, ?_⟩
    · intro wait hwait
      exact (congrArg (·[wait.turn]?) hsame).trans (h.waits wait hwait)
    · intro wait failure hend
      obtain ⟨hjob, hfailure⟩ := h.ends wait failure hend
      refine ⟨(congrArg (·[wait.turn]?) hsame).trans hjob, hfailure.imp_left ?_⟩
      exact fun hheard => ⟨hheard.1, Nat.lt_of_lt_of_le hheard.2 hfinished.length_le⟩

theorem run_append (s : Callers κ) (moves moves' : List (Move κ)) :
    s.run (moves ++ moves') = (s.run moves).run moves' := List.foldl_append

theorem run_concat (s : Callers κ) (moves : List (Move κ)) (move : Move κ) :
    s.run (moves ++ [move]) = (s.run moves).step move := s.run_append moves [move]

/-- What every possible move keeps, a run keeps. -/
theorem run_keeps {P : Callers κ → Prop} (h : P s) (moves : List (Move κ))
    (hstep : ∀ s s' : Callers κ, ∀ move, P s → Stepped s move s' → P s') : P (s.run moves) := by
  refine List.foldlRecOn moves step h ?_
  intro s hs move _
  rcases s.step_cases move with hsame | hnext
  · rw [hsame]
    exact hs
  · exact hstep s _ move hs hnext

theorem informed_run (capacity : Nat) (moves : List (Move κ)) :
    ((ofCapacity capacity).run moves).Informed := by
  refine run_keeps ⟨rfl, ?_, ?_⟩ moves fun _ _ _ => Informed.stepped
  · intro wait hwait
    cases hwait
  · intro wait failure hend
    cases hend

/-- No answer is taken back. -/
theorem answers_run (s : Callers κ) (moves : List (Move κ)) :
    s.answers <+: (s.run moves).answers := by
  refine run_keeps (P := fun next => s.answers <+: next.answers) (List.prefix_refl _) moves ?_
  intro next next' move hnext hstep
  refine hnext.trans ?_
  cases hstep with
  | granted | refused => exact List.prefix_append _ _
  | waited | moved => exact List.prefix_refl _

/-- Before a shutdown, the jobs that have ended, run and wait are in this order those of the calls that were
accepted. No more of them wait than the queue may hold, and a call is refused exactly if that many do; it
then changes nothing. No giving up changes anything for the jobs, and the job of a wait that is over, however
it ended, is where it was. -/
theorem accepted_run_in_turn (capacity : Nat) (hcapacity : 1 ≤ capacity) (moves : List (Move κ))
    (hmoves : ∀ move ∈ moves, move.stops = false) :
    let s := (ofCapacity capacity).run moves
    let d := s.dispatcher
    d.finished ++ d.current?.toList ++ d.pending = granted s.answers ∧
      d.pending.length ≤ capacity ∧
      (∀ job patience,
        if d.pending.length = capacity then
          s.call job patience = { s with answers := s.answers ++ [(job, some (.queueFull capacity))] }
        else (s.call job patience).answers = s.answers ++ [(job, none)] ∧
          (s.call job patience).dispatcher.pending = d.pending ++ [job]) ∧
      ((ofCapacity capacity).run (moves.filter (!·.isGivingUp))).dispatcher = d ∧
      ∀ wait failure, (wait, failure) ∈ s.ends →
        (d.finished ++ d.current?.toList ++ d.pending)[wait.turn]? = some wait.job ∧
          (failure = none ∧ d.finished[wait.turn]? = some wait.job ∨
            failure = some (.timeout wait.ms wait.description)) := by
  intro s d
  have hd : d = ({ capacity } : Dispatcher κ).run (moves.filterMap Move.inner?) :=
    run_dispatcher (ofCapacity capacity) moves
  obtain ⟨horder, hunstopped, hwithin⟩ : d.InOrder ∧ d.Unstopped ∧ d.Within capacity := by
    rw [hd]
    apply unstopped_run
    intro inner hinner
    obtain ⟨move, hmove, hof⟩ := List.mem_filterMap.mp hinner
    have hstops := hmoves move hmove
    unfold Move.stops at hstops
    rw [hof] at hstops
    exact hstops
  have hinformed : s.Informed := informed_run capacity moves
  have hwhole : d.finished ++ d.current?.toList ++ d.pending = s.dispatcher.accepted :=
    horder.whole hunstopped.running
  refine ⟨hwhole.trans hinformed.granted.symm, ?_, ?_, run_without_giving_up _ moves, ?_⟩
  · rw [pending_length hunstopped.queue]
    exact Nat.max_eq_left hcapacity ▸ hwithin.queue
  · intro job patience
    have hsubmit : s.dispatcher.submit job = _ :=
      hwithin.submit_full hcapacity hunstopped.queue hunstopped.running job
    have hpending : (d.queue ++ [Item.job job]).filterMap Item.job? = d.pending ++ [job] :=
      List.filterMap_append
    unfold call
    rw [hsubmit]
    split_ifs with hfull
    · rfl
    · exact ⟨rfl, hpending⟩
  · intro wait failure hend
    obtain ⟨hjob, hfailure⟩ := hinformed.ends wait failure hend
    rw [hwhole]
    refine ⟨hjob, hfailure.imp_left ?_⟩
    rintro ⟨rfl, hturn⟩
    refine ⟨rfl, ?_⟩
    rwa [← hwhole, List.append_assoc, List.getElem?_append_left hturn] at hjob

/-- While a job runs, the next one is soon no longer waited for, and for a third there is no room. Then the
first job ends, its caller hears of it, and there is room for one more. -/
def crowdedMoves : List (Move Nat) :=
  [.call 0 (some (50, "quick job")), .take, .call 1 (some (20, "slow job")), .call 2 none, .giveUp 1,
    .finish, .hear 0, .take, .call 3 none]

theorem crowded_in_turn : let s := (ofCapacity 1).run crowdedMoves
    (∀ move ∈ crowdedMoves, move.stops = false) ∧
      s.answers = [(0, none), (1, none), (2, some (.queueFull 1)), (3, none)] ∧
      s.ends =
        [(⟨1, 1, 20, "slow job"⟩, some (.timeout 20 "slow job")), (⟨0, 0, 50, "quick job"⟩, none)] ∧
      s.dispatcher.finished = [0] ∧
      s.dispatcher.finished ++ s.dispatcher.current?.toList ++ s.dispatcher.pending = [0, 1, 3] ∧
      s.call 4 none = { s with answers := s.answers ++ [(4, some (.queueFull 1))] } := by
  have hmoves : ∀ move ∈ crowdedMoves, move.stops = false := by decide
  obtain ⟨horder, -, hcalls, -⟩ := accepted_run_in_turn 1 (Nat.le_refl 1) crowdedMoves hmoves
  have hfull : ((ofCapacity 1).run crowdedMoves).dispatcher.pending.length = 1 := rfl
  have hrefused := hcalls 4 none
  rw [if_pos hfull] at hrefused
  exact ⟨hmoves, rfl, rfl, rfl, horder, hrefused⟩

end Callers

end CameraControl.Dispatcher
