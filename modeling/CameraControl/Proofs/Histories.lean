import CameraControl.Proofs.Reporting

/-!
What the history holds. At every point of a run it is the newest of the actions that were handled since the
last opening, which counts too; an opening that is rejected or fails is no exception. The text that a report
shows for it names the camera and has the time and the kind of each of these actions, oldest first, the one
that is being handled included.
-/
namespace CameraControl

/-- The newest entries, newest first, up to one that is an opening; all of them if none is. -/
def sinceOpening : List (String × Action.Kind) → List (String × Action.Kind)
  | [] => []
  | entry :: older => if entry.2.isOpening then [entry] else entry :: sinceOpening older

/-- A history that holds the newest of some entries since an opening. The entries are given newest first. -/
def History.ofEntries (size : Nat) (entries : List (String × Action.Kind)) : History :=
  { History.ofSize size with entries := ((sinceOpening entries).take (max size 1)).reverse }

theorem History.ofEntries_nil (size : Nat) : History.ofEntries size [] = History.ofSize size := by
  unfold ofEntries sinceOpening
  rw [List.take_nil]
  rfl

/-- Dropping the oldest of more entries than there is room for. -/
theorem History.evict {α : Type} (n : Nat) (entries : List α) :
    (if (entries.take (n + 1)).reverse.length = n + 1 then (entries.take (n + 1)).reverse.drop 1
      else (entries.take (n + 1)).reverse) = (entries.take n).reverse := by
  rw [List.length_reverse, List.length_take]
  split_ifs with hfull
  · rw [List.drop_reverse, List.length_take, hfull, List.take_take, Nat.add_sub_cancel,
      Nat.min_eq_left (Nat.le_succ n)]
  · have hfits : entries.length ≤ n := by omega
    rw [List.take_of_length_le hfits, List.take_of_length_le (Nat.le_succ_of_le hfits)]

theorem History.record_ofEntries (size : Nat) (entries : List (String × Action.Kind)) (time : String)
    (kind : Action.Kind) :
    (History.ofEntries size entries).record time kind = History.ofEntries size ((time, kind) :: entries) := by
  obtain ⟨n, hn⟩ : ∃ n, max size 1 = n + 1 := ⟨max size 1 - 1, by omega⟩
  unfold record ofEntries ofSize
  rw [hn]
  dsimp only
  by_cases hopening : kind.isOpening
  · have hfresh : sinceOpening ((time, kind) :: entries) = [(time, kind)] := if_pos hopening
    have hroom : ([] : List (String × Action.Kind)).length ≠ n + 1 := (Nat.succ_ne_zero n).symm
    rw [hfresh, if_pos hopening, if_neg hroom, List.take_succ_cons, List.take_nil]
    rfl
  · have hlonger : sinceOpening ((time, kind) :: entries) = (time, kind) :: sinceOpening entries :=
      if_neg hopening
    rw [hlonger, if_neg hopening, evict, List.take_succ_cons, List.reverse_cons]

variable {ε σ δ τ : Type}

namespace Handled

/-- An action with what the clock showed when it was handled. -/
def dated? (h : Handled σ δ τ) : Option (String × Action.Kind) :=
  match h.message with
  | .action action => some (h.before.clock, action.kind)
  | _ => none

variable {h : Handled σ δ τ} {past : List (Handled σ δ τ)} {size : Nat}

theorem noted_history (hpast : h.before.history = .ofEntries size (past.filterMap (·.dated?))) :
    (h.before.noted h.message).history = .ofEntries size ((h :: past).filterMap (·.dated?)) := by
  rcases h with ⟨c, message⟩
  cases message with
  | action action =>
    show c.history.record c.clock action.kind = _
    rw [show c.history = _ from hpast, History.record_ofEntries]
    rfl
  | _ => exact hpast

variable [Subsystem σ δ τ]

theorem after_history (hpast : h.before.history = .ofEntries size (past.filterMap (·.dated?))) :
    h.after.history = .ofEntries size ((h :: past).filterMap (·.dated?)) :=
  (h.before.handle_tells h.message).history.trans (noted_history hpast)

/-- What was reported on openings comes after what was reported before. If it shows the history, it shows it with
the message that was handled. -/
theorem outcomes_show : h.after.outcomes = h.before.outcomes ++ h.outcomes ∧
    ∀ report ∈ h.outcomes, report.Shows (h.before.noted h.message).history := by
  obtain ⟨new, hnew, -, hshows⟩ := (h.before.handle_tells h.message).reports
  have hnoted : (h.before.noted h.message).reports = h.before.reports := by cases h.message <;> rfl
  have hafter : h.after.outcomes =
      h.before.outcomes ++ (new.map (·.report)).filter (·.opener?.isSome) := by
    unfold Controller.outcomes after
    rw [hnew, hnoted, List.map_append, List.filter_append]
  refine ⟨hafter.trans (congrArg _ (outcomes_eq hafter).symm), ?_⟩
  intro report hreport
  rw [outcomes_eq hafter] at hreport
  obtain ⟨reported, hreported, rfl⟩ := List.mem_map.mp (List.mem_of_mem_filter hreport)
  exact hshows reported hreported

end Handled

namespace Run

variable [Subsystem σ δ τ]

/-- The history is what the handled actions make of it, and all reports on openings came with a message. -/
structure Chronicled (size : Nat) (r : Run σ δ τ) : Prop where
  history : r.now.history = .ofEntries size (r.past.filterMap (·.dated?))
  outcomes : r.now.outcomes = r.past.reverse.flatMap (·.outcomes)

theorem Chronicled.handle {size : Nat} {h : Handled σ δ τ} {past : List (Handled σ δ τ)}
    (hr : (before h past).Chronicled size) : Chronicled size ⟨h.after, h :: past⟩ := by
  refine ⟨Handled.after_history hr.history, ?_⟩
  have hbefore : h.before.outcomes = past.reverse.flatMap (·.outcomes) := hr.outcomes
  show h.after.outcomes = _
  rw [Handled.outcomes_show.1, hbefore, List.reverse_cons, List.flatMap_append, List.flatMap_singleton]

variable [Spontaneous ε σ δ τ]

/-- The history holds, in the order in which they were handled, as many of the newest actions since the last
opening as there is room for. Openings that fail, or come while a camera is open, are reported with a text of
what it held then, one action after the other. -/
theorem history_chronicled (world : σ) (roster : Roster) (historySize : Nat) (moves : List (Move ε)) :
    let r := (start world roster historySize).run moves
    r.now.history.entries =
        ((sinceOpening (r.past.filterMap (·.dated?))).take (max historySize 1)).reverse ∧
      r.now.outcomes = r.past.reverse.flatMap (·.outcomes) ∧
      ∀ h past, (h :: past) <:+ r.past → ∀ report ∈ h.outcomes, ∀ index info,
        report.info? = some (index, info) →
          let held := ((sinceOpening ((h :: past).filterMap (·.dated?))).take (max historySize 1)).reverse
          info = "camera " ++ toString index ++ " history: [" ++
            ", ".intercalate (held.map fun (time, kind) => time ++ " " ++ kind.name) ++ "]" := by
  intro r
  have hstart : Chronicled historySize (start world roster historySize : Run σ δ τ) :=
    ⟨(History.ofEntries_nil historySize).symm, rfl⟩
  obtain ⟨hnow, hpast⟩ : r.Chronicled historySize ∧ r.Throughout (Chronicled historySize) := by
    refine invariant (Chronicled historySize) (fun _ => True) ?_ (fun h past hr => hr.handle)
      (fun move (_ : move ∈ moves) => trivial) hstart rfl
    intro r move _ hr
    cases move <;> exact ⟨hr.history, hr.outcomes⟩
  refine ⟨congrArg History.entries hnow.history, hnow.outcomes, ?_⟩
  intro h past hsuffix report hreport index info hinfo
  rw [Handled.outcomes_show.2 report hreport index info hinfo,
    Handled.noted_history (hpast h past hsuffix).history]
  rfl

/-- With a history of two actions, a camera is asked for while one is open, and the open one has an error after
two more actions. -/
def grumblingMoves : List Simulator.Move :=
  [.tick "9:00", .ask (.openCamera 0 0), .handle, .handle, .ask (.querySettings 5), .handle,
    .tick "9:01", .ask (.reconnect 1 1), .handle, .ask (.querySettings 6), .handle,
    .tick "9:02", .ask .cancelAutoFocus, .handle, .stir (.deviceError 3), .handle]

theorem grumbling_chronicled :
    let r := (start (Simulator.withDevices ["0", "1"]) (Roster.empty.update ["0", "1"]) 2).run grumblingMoves
    r.now.history.entries = [("9:01", .querySettings), ("9:02", .cancelAutoFocus)] ∧
      (∃ h past info, (h :: past) <:+ r.past ∧ Report.openFailed 0 0 info ∈ h.outcomes ∧
        info = "camera 0 history: [9:01 query_settings, 9:02 cancel_auto_focus]") ∧
      ∃ h past info, (h :: past) <:+ r.past ∧ Report.alreadyOpen 1 1 info ∈ h.outcomes ∧
        info = "camera 1 history: [9:01 reconnect]" := by
  intro r
  obtain ⟨hhistory, -, hshown⟩ := history_chronicled (Simulator.withDevices ["0", "1"])
    (Roster.empty.update ["0", "1"]) 2 grumblingMoves
  have hrejected : r.past.drop 3 <:+ r.past := List.drop_suffix 3 r.past
  refine ⟨hhistory, ⟨_, _, _, List.suffix_refl _, List.mem_singleton_self _, ?_⟩,
    _, _, _, hrejected, List.mem_singleton_self _, ?_⟩
  · exact hshown _ _ (List.suffix_refl _) _ (List.mem_singleton_self _) 0 _ rfl
  · exact hshown _ _ hrejected _ (List.mem_singleton_self _) 1 _ rfl

end Run

end CameraControl
