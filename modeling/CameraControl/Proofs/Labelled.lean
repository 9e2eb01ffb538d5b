import CameraControl.Dispatcher.Gated
import CameraControl.Proofs.Callers
import CameraControl.Proofs.Draining

/-!
Labelled jobs. Whatever is asked of a dispatcher that runs them, and however far its worker goes each time,
comes down to moves that its callers and its worker could make one by one. So what holds in every run of a
dispatcher under callers holds of it, too. And its worker goes as far as it can: every move takes from what is
left to do, which is never more than the number of moves that `settle` allows for.
-/
namespace CameraControl.Dispatcher

section

variable {κ : Type} {d d' d'' : Dispatcher κ}

/-- The dispatcher can go from one state to the other by moves of its own. -/
def Leads (d d' : Dispatcher κ) : Prop := ∃ moves, d' = d.run moves

theorem Leads.refl (d : Dispatcher κ) : d.Leads d := ⟨[], rfl⟩

theorem Leads.trans (h : d.Leads d') (h' : d'.Leads d'') : d.Leads d'' := by
  obtain ⟨moves, rfl⟩ := h
  obtain ⟨moves', rfl⟩ := h'
  exact ⟨moves ++ moves', List.foldl_append.symm⟩

theorem Leads.of_step (d : Dispatcher κ) (move : Move κ) : d.Leads (d.step move) := ⟨[move], rfl⟩

theorem Leads.of_step? (move : Move κ) (hstep : d.step? move = some d') : d.Leads d' :=
  ⟨[move], (congrArg (·.getD d) hstep).symm⟩

/-- The move as callers make it, none of whom waits. -/
def Move.called : Move κ → Callers.Move κ
  | submit job => .call job none
  | listen => .listen
  | take => .take
  | finish => .finish
  | shutDown => .shutDown
  | shutDownInside => .shutDownInside
  | place => .place

theorem Move.called_inner? (move : Move κ) : move.called.inner? = some move := by
  cases move <;> rfl

/-- Callers can bring about all that a dispatcher can do. -/
theorem Leads.called (h : d.Leads d') : ∃ moves,
    (({ dispatcher := d } : Callers κ).run moves).dispatcher = d' := by
  obtain ⟨moves, rfl⟩ := h
  have hsome : Callers.Move.inner? ∘ Move.called = (some : Move κ → _) := funext Move.called_inner?
  have hinner : (moves.map Move.called).filterMap Callers.Move.inner? = moves := by
    rw [List.filterMap_map, hsome, List.filterMap_some]
  exact ⟨moves.map Move.called, by rw [Callers.run_dispatcher, hinner]⟩

end

namespace Gated

variable {g g' : Gated} {job : Job}

theorem map_leads {next : Dispatcher Job → Gated} (move : Move Job)
    (hnext : ∀ d, (next d).dispatcher = d)
    (hstep : (g.dispatcher.step? move).map next = some g') : g.dispatcher.Leads g'.dispatcher := by
  obtain ⟨d, hd, rfl⟩ := Option.map_eq_some_iff.mp hstep
  rw [hnext]
  exact Leads.of_step? move hd

theorem work?_leads (hjob : g.dispatcher.current? = some job) (hwork : g.work? job = some g') :
    g.dispatcher.Leads g'.dispatcher := by
  unfold work? at hwork
  split at hwork
  · exact map_leads .finish (fun _ => rfl) hwork
  · split_ifs at hwork
    exact map_leads .finish (fun _ => rfl) hwork
  · split_ifs at hwork
    · exact map_leads .finish (fun _ => rfl) hwork
    · obtain rfl := Option.some.inj hwork
      refine Leads.of_step? .shutDownInside ?_
      show (if g.dispatcher.current?.isSome then _ else none) = _
      rw [hjob]
      rfl

theorem next?_leads (hnext : g.next? = some g') : g.dispatcher.Leads g'.dispatcher := by
  unfold next? at hnext
  split at hnext
  · next d hplace =>
    obtain rfl := Option.some.inj hnext
    exact Leads.of_step? .place hplace
  · split at hnext
    · next job hjob => exact work?_leads hjob hnext
    · split at hnext
      · next d htake =>
        obtain rfl := Option.some.inj hnext
        exact Leads.of_step? .take htake
      · split_ifs at hnext
        exact map_leads .listen (fun _ => rfl) hnext

theorem go_leads (g : Gated) (n : Nat) : g.dispatcher.Leads (g.go n).dispatcher := by
  induction n generalizing g with
  | zero => exact Leads.refl _
  | succ n ih =>
    unfold go
    split
    · next g' hnext => exact (next?_leads hnext).trans (ih g')
    · exact Leads.refl _

theorem settle_leads (g : Gated) : g.dispatcher.Leads g.settle.dispatcher := g.go_leads _

theorem submit_leads (hsubmit : g.submit job = .ok g') : g.dispatcher.Leads g'.dispatcher := by
  unfold submit at hsubmit
  cases hd : g.dispatcher.submit job with
  | error failure =>
    rw [hd] at hsubmit
    cases hsubmit
  | ok d =>
    rw [hd] at hsubmit
    cases hsubmit
    refine (Leads.of_step? (.submit job) ?_).trans (settle_leads _)
    exact congrArg Except.toOption hd

section settle

/-- How many moves an item may take from when it is taken. -/
def cost : Item Job → Nat
  | .job _ => 3
  | .stop => 1

def totalCost : List (Item Job) → Nat
  | [] => 0
  | item :: rest => cost item + totalCost rest

/-- The worker waits, and there is nothing for it to take. -/
def isResting (g : Gated) : Bool :=
  g.dispatcher.isIdle && g.dispatcher.queue.isEmpty && g.dispatcher.listening

/-- What is left of the running job, which may have to ask for a shutdown before it ends. -/
def unfinished (g : Gated) : Nat :=
  match g.dispatcher.current? with
  | none => 0
  | some _ => if g.asked then 1 else 2

/-- What comes when all jobs have ended: the stop marker is placed and taken, or the worker waits. -/
def ending (g : Gated) : Nat :=
  match g.dispatcher.marker with
  | .unclaimed => if g.isResting then 2 else 3
  | .outside | .inside => 3
  | .placed => if g.isResting then 0 else 1

/-- A bound on the moves that are left. -/
def toil (g : Gated) : Nat := totalCost g.dispatcher.queue + g.unfinished + g.ending

theorem totalCost_le (items : List (Item Job)) : totalCost items ≤ 3 * items.length := by
  induction items with
  | nil => exact Nat.le_refl 0
  | cons item items ih =>
    have hitem : cost item ≤ 3 := by
      cases item
      · exact Nat.le_refl 3
      · decide
    rw [List.length_cons]
    unfold totalCost
    omega

theorem totalCost_marked (items : List (Item Job)) :
    totalCost (items ++ [.stop]) = totalCost items + 1 := by
  induction items with
  | nil => rfl
  | cons item items ih =>
    rw [List.cons_append]
    unfold totalCost
    omega

theorem unfinished_le (g : Gated) : g.unfinished ≤ 2 := by
  unfold unfinished
  split
  · omega
  · split <;> omega

theorem toil_le (g : Gated) : g.toil ≤ 3 * g.dispatcher.queue.length + 5 := by
  have hsum := totalCost_le g.dispatcher.queue
  have hunfinished := g.unfinished_le
  have hending : g.ending ≤ 3 := by
    unfold ending
    split
    · split <;> omega
    · omega
    · omega
    · split <;> omega
  unfold toil
  omega

variable {d : Dispatcher Job}

/-- The worker does not rest while it runs something or has something to take. -/
theorem isResting_false (hbusy : g.dispatcher.worker ≠ .idle ∨ g.dispatcher.queue ≠ []) :
    g.isResting = false := by
  by_contra hresting
  obtain ⟨hwaits, -⟩ := Bool.and_eq_true_iff.mp (eq_true_of_ne_false hresting)
  obtain ⟨hidle, hempty⟩ := Bool.and_eq_true_iff.mp hwaits
  rcases hbusy with hworker | hqueue
  · exact hworker (worker_of_isIdle hidle)
  · exact hqueue (List.isEmpty_iff.mp hempty)

/-- Where the worker does not rest, what comes in the end is as far away as it can be. -/
theorem ending_le (hmarker : g'.dispatcher.marker = g.dispatcher.marker)
    (hresting : g.isResting = false) : g'.ending ≤ g.ending := by
  unfold ending
  rw [hmarker, hresting]
  cases g.dispatcher.marker <;> dsimp only
  · split <;> decide
  · exact Nat.le_refl 3
  · exact Nat.le_refl 3
  · split <;> decide

/-- Less is left to do when less is left of the jobs, and the end comes no later. -/
theorem toil_lt (hjobs : totalCost g'.dispatcher.queue + g'.unfinished <
      totalCost g.dispatcher.queue + g.unfinished)
    (hending : g'.ending ≤ g.ending) : g'.toil < g.toil := by
  unfold toil
  omega

theorem place_toil (hplace : g.dispatcher.place? = some d) :
    toil { g with dispatcher := d } < g.toil := by
  obtain ⟨-, hmarker⟩ := place?_room hplace
  have hbefore : g.ending = 3 := by
    unfold ending
    rcases hmarker with hmarker | hmarker <;> rw [hmarker]
  have hafter : ending { g with dispatcher := d } ≤ 1 := by
    unfold ending
    dsimp only
    rw [(place?_same hplace).2.2]
    dsimp only
    split <;> omega
  have hqueue : totalCost d.queue = totalCost g.dispatcher.queue + 1 := by
    obtain rfl := place?_eq hplace
    exact totalCost_marked _
  have hunfinished : unfinished { g with dispatcher := d } = g.unfinished := by
    unfold unfinished
    dsimp only
    rw [(place?_same hplace).2.1]
  unfold toil
  dsimp only
  omega

theorem take_toil (htake : g.dispatcher.take? = some d) : toil { g with dispatcher := d } < g.toil := by
  obtain ⟨-, ⟨job, rest, hqueue, hd⟩ | ⟨rest, hqueue, hd⟩⟩ := take?_cases htake
  · have hbusy : g.dispatcher.queue ≠ [] := hqueue ▸ List.cons_ne_nil _ _
    refine toil_lt ?_ (ending_le (hd ▸ rfl) (isResting_false (Or.inr hbusy)))
    have hunfinished := unfinished_le { g with dispatcher := d }
    have hrest : totalCost g.dispatcher.queue = 3 + totalCost d.queue := by
      rw [hqueue, hd]
      rfl
    dsimp only
    omega
  · have hbusy : g.dispatcher.queue ≠ [] := hqueue ▸ List.cons_ne_nil _ _
    refine toil_lt ?_ (ending_le (hd ▸ rfl) (isResting_false (Or.inr hbusy)))
    have hstop : 1 ≤ totalCost g.dispatcher.queue := by
      rw [hqueue]
      exact Nat.le_add_right 1 _
    have hnothing : totalCost d.queue + unfinished { g with dispatcher := d } = 0 := by
      rw [hd]
      rfl
    dsimp only
    omega

theorem unfinished_pos (hjob : g.dispatcher.current? = some job) : 1 ≤ g.unfinished := by
  unfold unfinished
  rw [hjob]
  dsimp only
  split <;> omega

theorem finish_toil (hfinish : g.dispatcher.finish? = some d) (asked : Bool) :
    toil { g with dispatcher := d, asked } < g.toil := by
  obtain ⟨job, hjob, rfl⟩ := finish?_eq hfinish
  refine toil_lt ?_ (ending_le rfl (isResting_false (Or.inl (worker_ne_idle (hjob ▸ rfl)))))
  exact Nat.add_lt_add_left (unfinished_pos hjob) _

/-- A job that has made its shutdown call is nearer to its end. -/
theorem ask_toil (hjob : g.dispatcher.current? = some job) (hasked : g.asked = false) :
    toil { g with dispatcher := g.dispatcher.shutDownInside, asked := true } < g.toil := by
  obtain ⟨hqueue, hcurrent, -⟩ := g.dispatcher.claim_same .inside
  have hresting : g.isResting = false := isResting_false (Or.inl (worker_ne_idle (hjob ▸ rfl)))
  refine toil_lt ?_ ?_
  · have hbefore : g.unfinished = 2 := by
      unfold unfinished
      rw [hjob, hasked]
      rfl
    have hafter : unfinished { g with dispatcher := g.dispatcher.shutDownInside, asked := true } = 1 := by
      unfold unfinished shutDownInside
      dsimp only
      rw [hcurrent, hjob]
      rfl
    rw [hbefore, hafter]
    unfold shutDownInside
    dsimp only
    rw [hqueue]
    omega
  · by_cases hmarker : g.dispatcher.marker = .unclaimed
    · have hclaimed : g.dispatcher.shutDownInside = { g.dispatcher with marker := .inside } :=
        if_pos hmarker
      unfold ending
      rw [hclaimed, hmarker, hresting]
      exact Nat.le_refl 3
    · have hsame : g.dispatcher.shutDownInside = g.dispatcher := if_neg hmarker
      exact ending_le (congrArg Dispatcher.marker hsame) hresting

theorem listen_toil (hplace : g.dispatcher.place? = none) (hlistening : g.dispatcher.listening = false)
    (hlisten : g.dispatcher.listen? = some d) : toil { g with dispatcher := d } < g.toil := by
  obtain ⟨hworker, hqueue, rfl⟩ := listen?_eq hlisten
  have hbefore : g.isResting = false := by
    unfold isResting
    rw [hlistening, Bool.and_false]
  have hafter : isResting { g with dispatcher := { g.dispatcher with listening := true } } := by
    unfold isResting isIdle
    dsimp only
    rw [hworker, hqueue]
    rfl
  apply Nat.add_lt_add_left
  unfold ending
  rw [hbefore, hafter]
  dsimp only
  cases hmarker : g.dispatcher.marker with
  | unclaimed | placed => decide
  | outside | inside =>
    -- The marker would have been placed.
    unfold place? at hplace
    rw [hmarker, if_pos (hasRoom_idle hworker hqueue)] at hplace
    cases hplace

theorem work?_toil (hjob : g.dispatcher.current? = some job) (hwork : g.work? job = some g') :
    g'.toil < g.toil := by
  have hfinished {asked : Bool} (hmap : (g.dispatcher.finish?.map fun d =>
      { g with dispatcher := d, asked }) = some g') : g'.toil < g.toil := by
    obtain ⟨d, hfinish, rfl⟩ := Option.map_eq_some_iff.mp hmap
    exact finish_toil hfinish asked
  unfold work? at hwork
  split at hwork
  · exact hfinished hwork
  · split_ifs at hwork
    exact hfinished hwork
  · split_ifs at hwork with hasked
    · exact hfinished hwork
    · obtain rfl := Option.some.inj hwork
      exact ask_toil hjob (eq_false_of_ne_true hasked)

theorem next?_toil (hnext : g.next? = some g') : g'.toil < g.toil := by
  unfold next? at hnext
  split at hnext
  · next d hplace =>
    obtain rfl := Option.some.inj hnext
    exact place_toil hplace
  · next hplace =>
    split at hnext
    · next job hjob => exact work?_toil hjob hnext
    · split at hnext
      · next d htake =>
        obtain rfl := Option.some.inj hnext
        exact take_toil htake
      · split_ifs at hnext with hlistening
        obtain ⟨d, hlisten, rfl⟩ := Option.map_eq_some_iff.mp hnext
        exact listen_toil hplace (eq_false_of_ne_true hlistening) hlisten

theorem go_rests (g : Gated) (n : Nat) (hn : g.toil ≤ n) : (g.go n).next? = none := by
  induction n generalizing g with
  | zero =>
    by_contra hsome
    obtain ⟨g', hnext⟩ := Option.ne_none_iff_exists'.mp hsome
    exact Nat.not_lt_zero _ (Nat.lt_of_lt_of_le (next?_toil hnext) hn)
  | succ n ih =>
    unfold go
    split
    · next g' hnext => exact ih g' (Nat.le_of_lt_succ (Nat.lt_of_lt_of_le (next?_toil hnext) hn))
    · next hnone => exact hnone

/-- When a dispatcher of labelled jobs has settled, its worker cannot go on. -/
theorem settle_rests (g : Gated) : g.settle.next? = none := g.go_rests _ g.toil_le

end settle

/-- What can be asked of a dispatcher of labelled jobs. -/
inductive Request
  | run (label : String)
  | runGated (label : String)
  | runClosing (label : String)
  | runAndWait (label : String) (ms : Nat)
  | openGate
  | shutDown
deriving DecidableEq, Repr

/-- A request that is refused leaves everything as it was. -/
def serve (g : Gated) : Request → Gated
  | .run label => (g.run label).toOption.getD g
  | .runGated label => (g.runGated label).toOption.getD g
  | .runClosing label => (g.runClosing label).toOption.getD g
  | .runAndWait label ms => ((g.runAndWait label ms).toOption.map (·.1)).getD g
  | .openGate => g.openGate?.getD g
  | .shutDown => g.shutDown

theorem served_leads {outcome : Except Failure Gated}
    (hserved : ∀ g', outcome = .ok g' → g.dispatcher.Leads g'.dispatcher) :
    g.dispatcher.Leads (outcome.toOption.getD g).dispatcher := by
  cases outcome with
  | error failure => exact Leads.refl _
  | ok g' => exact hserved g' rfl

theorem serve_leads (g : Gated) (request : Request) :
    g.dispatcher.Leads (g.serve request).dispatcher := by
  have hrun (label : String) : g.dispatcher.Leads (g.serve (.run label)).dispatcher :=
    served_leads fun _ => submit_leads
  cases request with
  | run label => exact hrun label
  | runGated label =>
    exact served_leads fun _ =>
      submit_leads (g := { g with closed := g.closed ++ [g.gates], gates := g.gates + 1 })
  | runClosing label => exact served_leads fun _ => submit_leads
  | runAndWait label ms =>
    have hsame : g.serve (.runAndWait label ms) = g.serve (.run label) := by
      show ((g.runAndWait label ms).toOption.map (·.1)).getD g = (g.run label).toOption.getD g
      unfold runAndWait
      cases g.run label with
      | error failure => rfl
      | ok g' => rfl
    rw [hsame]
    exact hrun label
  | openGate =>
    show g.dispatcher.Leads (g.openGate?.getD g).dispatcher
    unfold openGate?
    split
    · exact Leads.refl _
    · exact settle_leads _
  | shutDown =>
    have hopened := settle_leads { g with closed := [] }
    exact (hopened.trans (Leads.of_step _ .shutDown)).trans (settle_leads _)

/-- Every run of a dispatcher of labelled jobs is one of a dispatcher under callers. -/
theorem served_as_called (capacity : Nat) (requests : List Request) : ∃ moves,
    ((Callers.ofCapacity capacity).run moves).dispatcher =
      (requests.foldl serve (ofCapacity capacity)).dispatcher := by
  have hnew : ({ capacity } : Dispatcher Job).Leads (ofCapacity capacity).dispatcher := Leads.refl _
  have hleads := List.foldlRecOn
    (motive := fun g => ({ capacity } : Dispatcher Job).Leads g.dispatcher) requests serve hnew
    fun g hg request _ => hg.trans (g.serve_leads request)
  exact hleads.called

end Gated

end CameraControl.Dispatcher
