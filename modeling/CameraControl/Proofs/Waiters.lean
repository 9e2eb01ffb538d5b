import Mathlib.Tactic.ByContra
import CameraControl.Stage.Watch

/-!
What waiters on a stage cell are told. A waiter looks, falls asleep and is woken in steps of its own, and the
cell may be written to any number of times in between. Still a waiter is told only what holds when it looks,
and none sleeps through a stage that it waits for: whoever is asleep has seen the last write.
-/
namespace CameraControl.Stage

namespace Cell

/-- What a waiter is told. -/
theorem check_cases (cell : Cell) (stages : Set) :
    cell.invalid ∧ cell.check stages = some false ∨ cell.invalid = false ∧
      (cell.stage ∈ stages ∧ cell.check stages = some true ∨
        cell.stage ∉ stages ∧ cell.check stages = none) := by
  unfold check
  by_cases hinvalid : cell.invalid
  · exact Or.inl ⟨hinvalid, if_pos hinvalid⟩
  · right
    refine ⟨eq_false_of_ne_true hinvalid, ?_⟩
    rw [if_neg hinvalid]
    by_cases hstage : cell.stage ∈ stages
    · exact Or.inl ⟨hstage, if_pos hstage⟩
    · exact Or.inr ⟨hstage, if_neg hstage⟩

theorem check_true {cell : Cell} {stages : Set} (hcheck : cell.check stages = some true) :
    cell.invalid = false ∧ cell.stage ∈ stages := by
  rcases check_cases cell stages with ⟨-, hfalse⟩ | ⟨hvalid, ⟨hstage, -⟩ | ⟨-, hnone⟩⟩
  · cases hcheck.symm.trans hfalse
  · exact ⟨hvalid, hstage⟩
  · cases hcheck.symm.trans hnone

theorem check_false {cell : Cell} {stages : Set} (hcheck : cell.check stages = some false) :
    cell.invalid := by
  rcases check_cases cell stages with ⟨hinvalid, -⟩ | ⟨-, ⟨-, htrue⟩ | ⟨-, hnone⟩⟩
  · exact hinvalid
  · cases hcheck.symm.trans htrue
  · cases hcheck.symm.trans hnone

theorem check_none {cell : Cell} {stages : Set} (hcheck : cell.check stages = none) :
    cell.invalid = false ∧ cell.stage ∉ stages := by
  rcases check_cases cell stages with ⟨-, hfalse⟩ | ⟨hvalid, ⟨-, htrue⟩ | ⟨hstage, -⟩⟩
  · cases hcheck.symm.trans hfalse
  · cases hcheck.symm.trans htrue
  · exact ⟨hvalid, hstage⟩

theorem check_invalid {cell : Cell} (hinvalid : cell.invalid) (stages : Set) :
    cell.check stages = some false := if_pos hinvalid

end Cell

namespace Watch

namespace Waiter

variable {w : Waiter} {cell : Cell} {reached : Bool}

theorem wake_cases (w : Waiter) :
    w.phase = .asleep ∧ w.wake = { w with phase := .awake } ∨ w.phase ≠ .asleep ∧ w.wake = w := by
  unfold wake
  by_cases hasleep : w.phase = .asleep
  · exact Or.inl ⟨hasleep, if_pos hasleep⟩
  · exact Or.inr ⟨hasleep, if_neg hasleep⟩

theorem wake_awake (w : Waiter) : w.wake.phase ≠ .asleep := by
  rcases w.wake_cases with ⟨-, hwake⟩ | ⟨hphase, hwake⟩
  · rw [hwake]
    exact Phase.noConfusion
  · rw [hwake]
    exact hphase

theorem wake_answered : w.wake.phase = .answered reached ↔ w.phase = .answered reached := by
  rcases w.wake_cases with ⟨hasleep, hwake⟩ | ⟨-, hwake⟩
  · rw [hwake, hasleep]
    exact ⟨Phase.noConfusion, Phase.noConfusion⟩
  · rw [hwake]

theorem look_still (hphase : w.phase ≠ .awake) : w.look cell = w := if_neg hphase

theorem look_awake (hphase : w.phase = .awake) : w.look cell =
    { w with phase := (cell.check w.wanted).elim .asleep .answered } := by
  unfold look
  rw [if_pos hphase]
  cases cell.check w.wanted <;> rfl

/-- Whoever is asleep after a look has been told nothing, or was asleep before. -/
theorem look_asleep (hasleep : (w.look cell).phase = .asleep) :
    w.phase = .asleep ∨ cell.check w.wanted = none := by
  by_cases hawake : w.phase = .awake
  · rw [look_awake hawake] at hasleep
    right
    cases hcheck : cell.check w.wanted with
    | none => rfl
    | some reached =>
      rw [hcheck] at hasleep
      cases hasleep
  · rw [look_still hawake] at hasleep
    exact Or.inl hasleep

/-- A wait that is over after a look was over before, or the look has ended it. -/
theorem look_answered (hanswered : (w.look cell).phase = .answered reached) :
    w.phase = .answered reached ∨ w.phase = .awake ∧ cell.check w.wanted = some reached := by
  by_cases hawake : w.phase = .awake
  · rw [look_awake hawake] at hanswered
    right
    cases hcheck : cell.check w.wanted with
    | none =>
      rw [hcheck] at hanswered
      cases hanswered
    | some told =>
      rw [hcheck] at hanswered
      cases hanswered
      exact ⟨hawake, rfl⟩
  · rw [look_still hawake] at hanswered
    exact Or.inl hanswered

theorem look_wanted (w : Waiter) (cell : Cell) : (w.look cell).wanted = w.wanted := by
  by_cases hawake : w.phase = .awake
  · rw [look_awake hawake]
  · rw [look_still hawake]

end Waiter

/-- A cell in some stage, with nobody waiting. -/
def unattended (stage : Stage) : Watch := { cell := { stage } }

/-- What a waiter was told, if its wait is over. -/
def told? (s : Watch) (n : Nat) : Option Bool := s.answers[n]?.join

variable {s : Watch} {n : Nat} {w : Waiter} {reached : Bool}

theorem told?_eq : s.told? n = some reached ↔
    ∃ w, s.waiters[n]? = some w ∧ w.phase = .answered reached := by
  unfold told? answers
  rw [List.getElem?_map]
  cases s.waiters[n]? with
  | none => simp
  | some w =>
    rcases w with ⟨wanted, phase⟩
    cases phase <;> simp

/-- What a move makes of a waiter. -/
theorem step_waiter (hw : s.waiters[n]? = some w) (move : Move) :
    ∃ w', (s.step move).waiters[n]? = some w' ∧
      (w' = w ∨ w' = w.wake ∨ move = .look n ∧ w' = w.look s.cell) := by
  have hwoken : (s.waiters.map Waiter.wake)[n]? = some w.wake := by
    rw [List.getElem?_map, hw]
    rfl
  cases move with
  | set stage => exact ⟨w.wake, hwoken, Or.inr (Or.inl rfl)⟩
  | invalidate => exact ⟨w.wake, hwoken, Or.inr (Or.inl rfl)⟩
  | arrive wanted =>
    refine ⟨w, ?_, Or.inl rfl⟩
    show (s.waiters ++ [{ wanted := wanted }])[n]? = some w
    rw [List.getElem?_append_left (List.getElem?_eq_some_iff.mp hw).1, hw]
  | look m =>
    show ∃ w', (s.waiters.modify m _)[n]? = some w' ∧ _
    rw [List.getElem?_modify, hw]
    by_cases heq : m = n
    · subst heq
      exact ⟨w.look s.cell, by simp, Or.inr (Or.inr ⟨rfl, rfl⟩)⟩
    · exact ⟨w, by simp [heq], Or.inl rfl⟩

/-- A waiter comes with the first of its moves, awake. -/
theorem step_new (hw : s.waiters[n]? = none) {move : Move}
    (hw' : (s.step move).waiters[n]? = some w) : w.phase = .awake := by
  cases move with
  | set stage =>
    have hnone : (s.waiters.map Waiter.wake)[n]? = none := by rw [List.getElem?_map, hw]; rfl
    cases hnone.symm.trans hw'
  | invalidate =>
    have hnone : (s.waiters.map Waiter.wake)[n]? = none := by rw [List.getElem?_map, hw]; rfl
    cases hnone.symm.trans hw'
  | arrive wanted =>
    have hle : s.waiters.length ≤ n := List.getElem?_eq_none_iff.mp hw
    have hw' : (s.waiters ++ [{ wanted := wanted }])[n]? = some w := hw'
    rw [List.getElem?_append_right hle] at hw'
    rw [List.mem_singleton.mp (List.mem_of_getElem? hw')]
  | look m =>
    have hnone : (s.step (.look m)).waiters[n]? = none := by
      show (s.waiters.modify m _)[n]? = none
      rw [List.getElem?_modify, hw]
      rfl
    cases hnone.symm.trans hw'

/-- A wait ends by a look of the waiter, with what holds then. -/
theorem told_step {move : Move} (htold : (s.step move).told? n = some reached) :
    s.told? n = some reached ∨ move = .look n ∧ ∃ w, s.waiters[n]? = some w ∧
      w.phase = .awake ∧ s.cell.check w.wanted = some reached := by
  obtain ⟨w', hw', hanswered⟩ := told?_eq.mp htold
  cases hw : s.waiters[n]? with
  | none =>
    rw [step_new hw hw'] at hanswered
    cases hanswered
  | some w =>
    obtain ⟨w'', hw'', hcases⟩ := step_waiter hw move
    cases hw'.symm.trans hw''
    rcases hcases with rfl | rfl | ⟨rfl, rfl⟩
    · exact Or.inl (told?_eq.mpr ⟨_, hw, hanswered⟩)
    · exact Or.inl (told?_eq.mpr ⟨_, hw, Waiter.wake_answered.mp hanswered⟩)
    · rcases Waiter.look_answered hanswered with hbefore | ⟨hawake, hcheck⟩
      · exact Or.inl (told?_eq.mpr ⟨_, hw, hbefore⟩)
      · exact Or.inr ⟨rfl, w, rfl, hawake, hcheck⟩

/-- A wait that is over stays over. -/
theorem told_kept (htold : s.told? n = some reached) (move : Move) :
    (s.step move).told? n = some reached := by
  obtain ⟨w, hw, hanswered⟩ := told?_eq.mp htold
  obtain ⟨w', hw', hcases⟩ := step_waiter hw move
  refine told?_eq.mpr ⟨w', hw', ?_⟩
  rcases hcases with rfl | rfl | ⟨-, rfl⟩
  · exact hanswered
  · exact Waiter.wake_answered.mpr hanswered
  · rw [Waiter.look_still (by rw [hanswered]; exact Phase.noConfusion)]
    exact hanswered

/-- Whoever is asleep would be told nothing if woken: no wake-up is lost. -/
def Alert (s : Watch) : Prop := ∀ w ∈ s.waiters, w.phase = .asleep → s.cell.check w.wanted = none

/-- Writing to the cell wakes everyone. -/
theorem alert_woken (s : Watch) (cell : Cell) : Alert { cell, waiters := s.waiters.map Waiter.wake } := by
  intro w hw hasleep
  obtain ⟨sleeper, -, rfl⟩ := List.mem_map.mp hw
  exact absurd hasleep sleeper.wake_awake

theorem Alert.step (hs : s.Alert) (move : Move) : (s.step move).Alert := by
  cases move with
  | set stage => exact alert_woken s _
  | invalidate => exact alert_woken s _
  | arrive wanted =>
    intro w hw hasleep
    rcases List.mem_append.mp hw with hold | hnew
    · exact hs w hold hasleep
    · rw [List.mem_singleton.mp hnew] at hasleep
      cases hasleep
  | look m =>
    intro w hw hasleep
    obtain ⟨k, hk⟩ := List.mem_iff_getElem?.mp hw
    cases hold : s.waiters[k]? with
    | none =>
      rw [step_new hold hk] at hasleep
      cases hasleep
    | some sleeper =>
      have hsleeper : sleeper ∈ s.waiters := List.mem_of_getElem? hold
      obtain ⟨w', hw', hcases⟩ := step_waiter hold (.look m)
      cases hk.symm.trans hw'
      rcases hcases with rfl | rfl | ⟨-, rfl⟩
      · exact hs _ hsleeper hasleep
      · exact absurd hasleep sleeper.wake_awake
      · rw [Waiter.look_wanted]
        rcases Waiter.look_asleep hasleep with hbefore | hnone
        · exact hs _ hsleeper hbefore
        · exact hnone

theorem Alert.run (hs : s.Alert) (moves : List Move) : (s.run moves).Alert := by
  induction moves generalizing s with
  | nil => exact hs
  | cons move moves ih => exact ih (hs.step move)

theorem alert_unattended (stage : Stage) : (unattended stage).Alert :=
  fun _ hw => absurd hw List.not_mem_nil

/-- A cell stays invalid, whatever is set. -/
theorem invalid_step (hinvalid : s.cell.invalid) (move : Move) : (s.step move).cell.invalid := by
  cases move with
  | invalidate => rfl
  | set | arrive | look => exact hinvalid

theorem invalid_run (hinvalid : s.cell.invalid) (moves : List Move) : (s.run moves).cell.invalid := by
  induction moves generalizing s with
  | nil => exact hinvalid
  | cons move moves ih => exact ih (invalid_step hinvalid move)

theorem invalid_kept (s : Watch) {move : Move} (hmove : move ≠ .invalidate) :
    (s.step move).cell.invalid = s.cell.invalid := by
  cases move with
  | invalidate => exact absurd rfl hmove
  | set | arrive | look => rfl

/-- Nothing but its invalidation makes a cell invalid. -/
theorem invalid_iff (hvalid : s.cell.invalid = false) (moves : List Move) :
    (s.run moves).cell.invalid ↔ .invalidate ∈ moves := by
  induction moves generalizing s with
  | nil =>
    show s.cell.invalid ↔ _
    simp [hvalid]
  | cons move moves ih =>
    show ((s.step move).run moves).cell.invalid ↔ _
    by_cases hmove : move = .invalidate
    · subst hmove
      exact ⟨fun _ => List.mem_cons_self, fun _ => invalid_run (s := s.step .invalidate) rfl moves⟩
    · rw [ih ((s.invalid_kept hmove).trans hvalid), List.mem_cons, or_iff_right (Ne.symm hmove)]

/-- A waiter that is awake is told what a look at the cell says. -/
theorem told_look (hw : s.waiters[n]? = some w) (hawake : w.phase = .awake) :
    (s.step (.look n)).told? n = s.cell.check w.wanted := by
  have hlook : (s.step (.look n)).waiters[n]? = some (w.look s.cell) := by
    show (s.waiters.modify n _)[n]? = _
    simp [hw]
  unfold told? answers
  rw [List.getElem?_map, hlook, Waiter.look_awake hawake]
  cases s.cell.check w.wanted <;> rfl

/-- With an invalid cell nobody is asleep, and whoever looks has been told something. -/
theorem Alert.released (hs : s.Alert) (hinvalid : s.cell.invalid) :
    (∀ w ∈ s.waiters, w.phase ≠ .asleep) ∧
      ∀ n < s.waiters.length, (s.step (.look n)).told? n ≠ none := by
  have hawake : ∀ w ∈ s.waiters, w.phase ≠ .asleep := by
    intro w hw hasleep
    cases (Cell.check_invalid hinvalid w.wanted).symm.trans (hs w hw hasleep)
  refine ⟨hawake, ?_⟩
  intro n hn hnone
  have hw : s.waiters[n]? = some s.waiters[n] := List.getElem?_eq_getElem hn
  cases hphase : s.waiters[n].phase with
  | awake =>
    rw [told_look hw hphase, Cell.check_invalid hinvalid] at hnone
    cases hnone
  | asleep => exact hawake _ (List.getElem_mem hn) hphase
  | answered reached =>
    cases hnone.symm.trans (told_kept (told?_eq.mpr ⟨_, hw, hphase⟩) (.look n))

/-- After an invalidation no wait ends with success. -/
theorem told_invalid (hinvalid : s.cell.invalid) (moves : List Move)
    (htold : (s.run moves).told? n = some reached) : s.told? n = some reached ∨ reached = false := by
  induction moves generalizing s with
  | nil => exact Or.inl htold
  | cons move moves ih =>
    rcases ih (invalid_step hinvalid move) htold with hbefore | hfalse
    · rcases told_step hbefore with hsame | ⟨-, w, -, -, hcheck⟩
      · exact Or.inl hsame
      · rw [Cell.check_invalid hinvalid] at hcheck
        exact Or.inr (Option.some.inj hcheck).symm
    · exact Or.inr hfalse

/-- Waits end by a look of the waiter only: with success iff the cell is valid and in a wanted stage at that
moment, with failure iff it was invalidated before. No wake-up is lost, as whoever is asleep waits for a stage
that a valid cell is not in. Once the cell was invalidated, all waits that are not over end with failure as
soon as the waiter looks, and nobody who could do so is asleep, whatever is set and whoever comes later. -/
theorem told_what_holds (stage : Stage) (moves : List Move) :
    let s := (unattended stage).run moves
    (∀ move n reached, (s.step move).told? n = some reached → s.told? n = some reached ∨
      move = .look n ∧ ∃ w, s.waiters[n]? = some w ∧ w.phase = .awake) ∧
    (∀ n w, s.waiters[n]? = some w → w.phase = .awake →
      ((s.step (.look n)).told? n = some true ↔ s.cell.invalid = false ∧ s.cell.stage ∈ w.wanted) ∧
      ((s.step (.look n)).told? n = some false ↔ .invalidate ∈ moves)) ∧
    (∀ w ∈ s.waiters, w.phase = .asleep → s.cell.invalid = false ∧ s.cell.stage ∉ w.wanted) ∧
    (.invalidate ∈ moves → ∀ later,
      (∀ w ∈ (s.run later).waiters, w.phase ≠ .asleep) ∧
      (∀ n < (s.run later).waiters.length, ((s.run later).step (.look n)).told? n ≠ none) ∧
      ∀ n reached, (s.run later).told? n = some reached →
        s.told? n = some reached ∨ reached = false) := by
  intro s
  have hs : s.Alert := (alert_unattended stage).run moves
  have hinvalid : s.cell.invalid ↔ .invalidate ∈ moves := invalid_iff rfl moves
  refine ⟨?_, ?_, ?_, ?_⟩
  · intro move n reached htold
    rcases told_step htold with hbefore | ⟨hmove, w, hw, hawake, -⟩
    · exact Or.inl hbefore
    · exact Or.inr ⟨hmove, w, hw, hawake⟩
  · intro n w hw hawake
    rw [told_look hw hawake]
    constructor
    · refine ⟨Cell.check_true, ?_⟩
      rintro ⟨hvalid, hstage⟩
      rcases s.cell.check_cases w.wanted with ⟨hgone, -⟩ | ⟨-, ⟨-, htrue⟩ | ⟨hother, -⟩⟩
      · cases hvalid.symm.trans hgone
      · exact htrue
      · exact absurd hstage hother
    · refine ⟨fun hfalse => hinvalid.mp (Cell.check_false hfalse), fun hgone => ?_⟩
      exact Cell.check_invalid (hinvalid.mpr hgone) w.wanted
  · intro w hw hasleep
    exact Cell.check_none (hs w hw hasleep)
  · intro hgone later
    have hgone := hinvalid.mpr hgone
    obtain ⟨hawake, hreleased⟩ := (hs.run later).released (invalid_run hgone later)
    exact ⟨hawake, hreleased, fun n reached => told_invalid hgone later⟩

/-- A waiter for a preview is woken in vain, sleeps again and is woken by the end of the cell. -/
def dashedMoves : List Move :=
  [.arrive (.of [.previewActive]), .look 0, .set .unconfigured, .look 0, .invalidate]

/-- The preview comes too late for it, and for one that comes later. -/
theorem dashed_told_nothing_else :
    let s := (unattended .unopened).run dashedMoves
    s.told? 0 = none ∧ .invalidate ∈ dashedMoves ∧
    let later := [.set .previewActive, .arrive (.of [.previewActive]), .look 0, .look 1]
    (s.run later).cell.stage = .previewActive ∧
      (s.run later).told? 0 = some false ∧ (s.run later).told? 1 = some false ∧
      ∀ n reached, (s.run later).told? n = some reached → s.told? n = some reached ∨ reached = false := by
  have hgone : .invalidate ∈ dashedMoves := by decide
  have htold := (told_what_holds .unopened dashedMoves).2.2.2 hgone
  exact ⟨rfl, hgone, rfl, rfl, rfl, (htold _).2.2⟩

end Watch

end CameraControl.Stage
