import CameraControl.Proofs.FocusCallbacks
import CameraControl.Proofs.Streaming
import CameraControl.Proofs.Submissions

/-!
Trigger captures in the simulator. Each one that is accepted has one result posted, under a number of its own,
and nothing else that the controller does or the simulator does by itself posts such a result. So the results
that wait in the mailbox differ, and the last of them is that of the latest trigger.
-/
namespace CameraControl

namespace Event

variable {δ τ : Type}

/-- The result of a capture that was to lock the focus. -/
def isTriggerResult : Event δ τ → Bool
  | completed .focusTrigger _ _ | captureFailed .focusTrigger _ _ => true
  | _ => false

/-- The number of the frame that the event is about. -/
def number : Event δ τ → Nat
  | completed _ number _ | captureFailed _ number _ => number
  | _ => 0

/-- The number of the frame, if the event is the result of one. -/
def frame? : Event δ τ → Option Nat
  | completed _ number _ | captureFailed _ number _ => some number
  | _ => none

variable {event : Event δ τ}

theorem number_of_frame? {number : Nat} (h : event.frame? = some number) : event.number = number := by
  cases event with
  | completed | captureFailed => exact Option.some.inj h
  | _ => cases h

theorem frame?_of_isTriggerResult (h : event.isTriggerResult) : event.frame?.isSome := by
  cases event with
  | completed | captureFailed => rfl
  | _ => cases h

end Event

def Message.triggerResult? {δ τ : Type} : Message δ τ → Option (Event δ τ)
  | hardware event => if event.isTriggerResult then some event else none
  | _ => none

theorem filterMap_triggerResult {δ τ : Type} (events : List (Event δ τ)) :
    (events.map Message.hardware).filterMap (·.triggerResult?) = events.filter (·.isTriggerResult) := by
  rw [List.filterMap_map]
  exact congrFun List.filterMap_eq_filter events

/-- The trigger results that wait in the mailbox, the next one first. -/
def Controller.results {σ δ τ : Type} (c : Controller σ δ τ) : List (Event δ τ) :=
  c.mailbox.filterMap (·.triggerResult?)

/-- What was posted in answer to the trigger captures that the message had submitted. -/
def Handled.answers {σ δ τ : Type} [Subsystem σ δ τ] (h : Handled σ δ τ) : List (Event δ τ) :=
  h.triggers.flatMap (·.posted)

namespace Simulator

/-- An exchange comes to a trigger result if it is a trigger capture that is accepted, and then to one with a
number above `low` and up to `high`. -/
structure Yields (low : Nat) (x : Exchange Device Session) (high : Nat) : Prop where
  other : x.isTrigger = false → x.posted.filter (·.isTriggerResult) = []
  refused : x.isTrigger → x.fault.isSome → x.posted = []
  accepted : x.isTrigger → x.fault = none → ∃ event, x.posted = [event] ∧ event.isTriggerResult ∧
    low < event.number ∧ event.number ≤ high

variable (s : Simulator)

theorem result_frame (listener : Listener) : (s.result listener).1.frame = s.frame + 1 := by
  unfold result
  dsimp only
  split_ifs <;> rfl

theorem result_frame? (listener : Listener) : (s.result listener).2.frame? = some (s.frame + 1) := by
  unfold result
  dsimp only
  split_ifs <;> rfl

theorem result_isTriggerResult (listener : Listener) :
    (s.result listener).2.isTriggerResult = (listener = .focusTrigger : Bool) := by
  unfold result
  dsimp only
  split_ifs <;> cases listener <;> rfl

/-- Only captures take frames. -/
theorem answer_frameless {q : Call Device Session} (hq : ∀ session request listener,
    q ≠ .capture session request listener) : (s.answer q).world.frame = s.frame ∧
      (s.answer q).posted.filterMap (·.frame?) = [] := by
  cases q with
  | openDevice id =>
    show (s.openFor id).world.frame = _ ∧ (s.openFor id).posted.filterMap _ = _
    unfold openFor
    dsimp only
    split_ifs <;> exact ⟨rfl, rfl⟩
  | closeDevice device =>
    show (s.closeDevice device).world.frame = _ ∧ (s.closeDevice device).posted.filterMap _ = _
    unfold closeDevice
    dsimp only
    split_ifs <;> exact ⟨rfl, rfl⟩
  | createSession device surfaces =>
    show (s.createSession device surfaces).world.frame = _ ∧
      (s.createSession device surfaces).posted.filterMap _ = _
    unfold createSession
    dsimp only
    split_ifs <;> exact ⟨rfl, rfl⟩
  | setRepeating session request listener =>
    show (s.setRepeating session request listener).world.frame = _ ∧
      (s.setRepeating session request listener).posted.filterMap _ = _
    unfold setRepeating
    dsimp only
    split_ifs <;> exact ⟨rfl, rfl⟩
  | stopRepeating session =>
    show (s.stopRepeating session).world.frame = _ ∧ (s.stopRepeating session).posted.filterMap _ = _
    unfold stopRepeating
    split_ifs <;> exact ⟨rfl, rfl⟩
  | capture session request listener => exact absurd rfl (hq session request listener)
  | abortCaptures session =>
    show (s.abortCaptures session).world.frame = _ ∧ (s.abortCaptures session).posted.filterMap _ = _
    unfold abortCaptures
    dsimp only
    split_ifs <;> exact ⟨rfl, rfl⟩

/-- Where there are no results of frames there are none of triggers. -/
theorem resultless_of_frameless {events : List (Event Device Session)}
    (hframeless : events.filterMap (·.frame?) = []) : events.filter (·.isTriggerResult) = [] := by
  rw [List.filter_eq_nil_iff]
  intro event hevent hresult
  have hsome := Event.frame?_of_isTriggerResult hresult
  rw [List.filterMap_eq_nil_iff.mp hframeless event hevent] at hsome
  cases hsome

/-- A capture is refused, or has the next result. -/
theorem capture_result (session : Session) (request : Request) (listener : Listener) :
    (s.capture session request listener).fault.isSome ∧
        (s.capture session request listener).world.frame = s.frame ∧
        (s.capture session request listener).posted = [] ∨
      (s.capture session request listener).fault = none ∧
        (s.capture session request listener).world.frame = s.frame + 1 ∧
        ∃ event, (s.capture session request listener).posted = [event] ∧
          event.isTriggerResult = (listener = .focusTrigger : Bool) ∧
          event.frame? = some (s.frame + 1) := by
  unfold capture
  split_ifs
  · exact Or.inl ⟨rfl, rfl, rfl⟩
  · exact Or.inr ⟨rfl, result_frame _ listener, _, rfl, result_isTriggerResult _ listener,
      result_frame? _ listener⟩
  · exact Or.inl ⟨rfl, rfl, rfl⟩

/-- What the simulator does by itself takes no frame, but when it is to emit one. -/
theorem stir_frameless {stimulus : Stimulus} (hstimulus : stimulus ≠ .frame) :
    (Spontaneous.stir s stimulus).1.frame = s.frame ∧
      (Spontaneous.stir s stimulus).2.filterMap (·.frame?) = [] := by
  cases stimulus with
  | frame => exact absurd rfl hstimulus
  | arm op =>
    show (s.arm op).frame = _ ∧ _
    unfold arm
    split_ifs <;> exact ⟨rfl, rfl⟩
  | deviceError code =>
    refine ⟨rfl, ?_⟩
    show (s.emitDeviceError code).filterMap _ = []
    unfold emitDeviceError
    split_ifs <;> rfl
  | disconnect =>
    constructor
    · show ((s.openDevice.map s.removeDevice).getD s).frame = s.frame
      cases s.openDevice <;> rfl
    · show (if s.linked then [Event.disconnected] else []).filterMap _ = []
      split_ifs <;> rfl
  | setLens lens | addDevice id characteristics | removeDevice id => exact ⟨rfl, rfl⟩

theorem answer_yields (q : Call Device Session) :
    s.frame ≤ (s.answer q).world.frame ∧
      Yields s.frame ⟨q, (s.answer q).fault, (s.answer q).posted⟩ (s.answer q).world.frame := by
  by_cases hq : ∃ session request listener, q = .capture session request listener
  · obtain ⟨session, request, listener, rfl⟩ := hq
    have htrigger (x : Exchange Device Session) (hx : x.call = .capture session request listener) :
        x.isTrigger = (listener = .focusTrigger : Bool) := by
      unfold Exchange.isTrigger
      rw [hx]
      cases listener <;> rfl
    rcases s.capture_result session request listener with
      ⟨hfault, hframe, hposted⟩ | ⟨hfault, hframe, event, hposted, hresult, hnext⟩
    · refine ⟨Nat.le_of_eq hframe.symm, fun _ => ?_, fun _ _ => hposted, fun _ hnone => ?_⟩
      · exact congrArg (List.filter _) hposted
      · have hnone' : (s.capture session request listener).fault = none := hnone
        rw [hnone'] at hfault
        cases hfault
    · refine ⟨?_, fun hother => ?_, fun _ hsome => ?_, fun htrigger' _ => ?_⟩
      · exact hframe ▸ Nat.le_succ _
      · rw [htrigger _ rfl, ← hresult] at hother
        show (s.capture session request listener).posted.filter _ = []
        rw [hposted]
        simp [hother]
      · have hsome' : (s.capture session request listener).fault.isSome := hsome
        rw [hfault] at hsome'
        cases hsome'
      · rw [htrigger _ rfl, ← hresult] at htrigger'
        have hnumber := Event.number_of_frame? hnext
        refine ⟨event, hposted, htrigger', ?_, ?_⟩
        · rw [hnumber]
          exact Nat.lt_succ_self _
        · exact Nat.le_of_eq (hnumber.trans hframe.symm)
  · have hother (x : Exchange Device Session) (hx : x.call = q) : ¬ x.isTrigger := by
      unfold Exchange.isTrigger
      rw [hx]
      split
      · next session request => exact absurd ⟨session, request, _, rfl⟩ hq
      · exact Bool.false_ne_true
    obtain ⟨hframe, hposted⟩ := s.answer_frameless fun session request listener heq =>
      hq ⟨session, request, listener, heq⟩
    exact ⟨Nat.le_of_eq hframe.symm, fun _ => resultless_of_frameless hposted, fun htrigger => absurd htrigger (hother _ rfl),
      fun htrigger => absurd htrigger (hother _ rfl)⟩

theorem draft_frame (device : Device) (template : Template) :
    (s.draft device template).1.frame = s.frame := by
  unfold draft
  split_ifs <;> rfl

variable {s}

theorem Yields.widen {low low' high high' : Nat} {x : Exchange Device Session} (h : Yields low x high)
    (hlow : low' ≤ low) (hhigh : high ≤ high') : Yields low' x high' := by
  refine ⟨h.other, h.refused, fun htrigger hfault => ?_⟩
  obtain ⟨event, hposted, hresult, hafter, hbefore⟩ := h.accepted htrigger hfault
  exact ⟨event, hposted, hresult, Nat.lt_of_le_of_lt hlow hafter, Nat.le_trans hbefore hhigh⟩

theorem talk_yields {s' : Simulator} {xs : List (Exchange Device Session)} (h : Talk s xs s') :
    s.frame ≤ s'.frame ∧ ∀ x ∈ xs, Yields s.frame x s'.frame := by
  induction h with
  | done => exact ⟨Nat.le_refl _, List.forall_mem_nil _⟩
  | @draft s' xs device template h ih =>
    have hframe : (Subsystem.draft s' device template).1.frame = s'.frame :=
      draft_frame s' device template
    rw [hframe]
    exact ih
  | @call s' xs q h ih =>
    obtain ⟨hle, hyields⟩ := ih
    obtain ⟨hle', hlast⟩ := s'.answer_yields q
    refine ⟨Nat.le_trans hle hle', ?_⟩
    intro x hx
    rcases List.mem_append.mp hx with hx | hx
    · exact (hyields x hx).widen (Nat.le_refl _) hle'
    · rw [List.mem_singleton.mp hx]
      exact hlast.widen hle (Nat.le_refl _)

/-- What a talk had posted is what its trigger captures had posted, as far as trigger results go. -/
theorem results_of_triggers {low high : Nat} {xs : List (Exchange Device Session)}
    (hxs : ∀ x ∈ xs, Yields low x high) :
    (xs.flatMap (·.posted)).filter (·.isTriggerResult) =
      (xs.filter (·.isTrigger)).flatMap (·.posted) := by
  induction xs with
  | nil => rfl
  | cons x xs ih =>
    obtain ⟨hx, hrest⟩ := List.forall_mem_cons.mp hxs
    rw [List.flatMap_cons, List.filter_append, ih hrest]
    cases htrigger : x.isTrigger with
    | false =>
      rw [hx.other htrigger, List.filter_cons_of_neg (by rw [htrigger]; decide), List.nil_append]
    | true =>
      have hposted : x.posted.filter (·.isTriggerResult) = x.posted := by
        cases hfault : x.fault with
        | none =>
          obtain ⟨event, hposted, hresult, -⟩ := hx.accepted htrigger hfault
          rw [hposted]
          exact List.filter_cons_of_pos hresult
        | some fault => rw [hx.refused htrigger (by rw [hfault]; rfl), List.filter_nil]
      rw [hposted, List.filter_cons_of_pos htrigger, List.flatMap_cons]

/-- What repeats is watched for the state of the lens. -/
def Watched (s : Simulator) : Prop :=
  ∀ generation listener, s.repeating = some (generation, listener) → listener = .lensState

theorem watched_silent (hnone : s.repeating = none) : s.Watched := by
  intro generation listener hsome
  cases hnone.symm.trans hsome

theorem Watched.keep {s' : Simulator} (hs : s.Watched) (hsame : s'.repeating = s.repeating) :
    s'.Watched := by
  intro generation listener hsome
  exact hs generation listener (hsame.symm.trans hsome)

theorem answer_watched {q : Call Device Session} (hs : s.Watched)
    (hq : ∀ x ∈ q.submission?, x.repeats → x.listener = .lensState) : (s.answer q).world.Watched := by
  cases q with
  | openDevice id => exact hs.keep (openFor_repeating s id)
  | closeDevice device =>
    rcases closeDevice_stops s device with ⟨hnone, -⟩ | hunmoved
    · exact watched_silent hnone
    · exact hs.keep hunmoved.repeating
  | createSession device surfaces => exact hs.keep (createSession_unmoved s device surfaces).repeating
  | setRepeating session request listener =>
    rcases setRepeating_repeats s session request listener with ⟨-, hrepeating⟩ | ⟨-, -, hunmoved⟩
    · intro generation listener' hsome
      cases hrepeating.symm.trans hsome
      exact hq _ rfl rfl
    · exact hs.keep hunmoved.repeating
  | stopRepeating session =>
    rcases stopRepeating_stops s session with ⟨-, hnone⟩ | ⟨-, -, hunmoved⟩
    · exact watched_silent hnone
    · exact hs.keep hunmoved.repeating
  | capture session request listener => exact hs.keep (capture_unmoved s session request listener).repeating
  | abortCaptures session =>
    show (s.abortCaptures session).world.Watched
    unfold abortCaptures
    dsimp only
    split_ifs
    · exact hs.keep rfl
    · exact watched_silent rfl
    · exact hs.keep rfl

theorem talk_watched {s' : Simulator} {xs : List (Exchange Device Session)} (h : Talk s xs s')
    (hs : s.Watched)
    (hxs : ∀ x ∈ xs.filterMap (·.call.submission?), x.repeats → x.listener = .lensState) :
    s'.Watched := by
  induction h with
  | done => exact hs
  | @draft s' xs device template h ih => exact (ih hxs).keep (draft_unmoved s' device template).repeating
  | @call s' xs q h ih =>
    rw [List.filterMap_append] at hxs
    refine answer_watched (ih fun x hx => hxs x (List.mem_append_left _ hx)) fun x hx => ?_
    refine hxs x (List.mem_append_right _ (List.mem_filterMap.mpr ⟨_, List.mem_singleton_self _, hx⟩))

/-- What the simulator does by itself comes to no trigger result. -/
theorem stir_watched (stimulus : Stimulus) (hs : s.Watched) :
    (Spontaneous.stir s stimulus).1.Watched ∧ s.frame ≤ (Spontaneous.stir s stimulus).1.frame ∧
      (Spontaneous.stir s stimulus).2.filter (·.isTriggerResult) = [] := by
  by_cases hstimulus : stimulus = .frame
  · subst hstimulus
    show s.emitFrame.1.Watched ∧ s.frame ≤ s.emitFrame.1.frame ∧ s.emitFrame.2.filter _ = []
    unfold emitFrame
    split
    · next generation listener hrepeating =>
      cases hs generation listener hrepeating
      split_ifs
      · refine ⟨hs.keep (result_unmoved s .lensState).repeating, ?_, ?_⟩
        · exact result_frame s .lensState ▸ Nat.le_succ _
        · exact List.filter_cons_of_neg (by rw [result_isTriggerResult]; decide)
      · exact ⟨hs, Nat.le_refl _, rfl⟩
    · exact ⟨hs, Nat.le_refl _, rfl⟩
  · obtain ⟨hframe, hposted⟩ := s.stir_frameless hstimulus
    refine ⟨?_, Nat.le_of_eq hframe.symm, resultless_of_frameless hposted⟩
    cases stimulus with
    | frame => exact absurd rfl hstimulus
    | arm op =>
      show (s.arm op).Watched
      unfold arm
      split_ifs
      · exact hs
      · exact hs.keep rfl
    | disconnect => exact watched_silent rfl
    | _ => exact hs.keep rfl

end Simulator

/-- Requests that repeat are watched for the state of the lens. -/
theorem Sketch.Step.repeats {δ τ : Type} {isOpen : Bool} {k k' : Sketch} {message : Message δ τ}
    (h : k.Step isOpen message k') : ∃ new, k'.submitted = k.submitted ++ new ∧
      ∀ x ∈ new, x.repeats → x.listener = .lensState := by
  cases h with
  | still | released => exact ⟨[], (List.append_nil _).symm, List.forall_mem_nil _⟩
  | applied again hdraft harray hagain =>
    refine ⟨again, rfl, ?_⟩
    intro x hx hrepeats
    rw [hagain x hx]
  | started => exact ⟨_, rfl, List.forall_mem_singleton.mpr fun _ => rfl⟩
  | focusing | unlocking => exact ⟨_, rfl, List.forall_mem_singleton.mpr nofun⟩

theorem Handled.submissions_watched {σ δ τ : Type} [Subsystem σ δ τ] {h : Handled σ δ τ}
    {past : List (Handled σ δ τ)} (ht : Run.Tenured ⟨h.before, past⟩) :
    ∀ x ∈ h.submissions, x.repeats → x.listener = .lensState := by
  cases hdelivered : h.message.delivered? with
  | none =>
    obtain ⟨new, hnew, hrepeats⟩ := (h.before.recorded.handle_sketch ht.layered hdelivered).repeats
    have hsame : h.submissions = new := hnew
    rw [hsame]
    exact hrepeats
  | some device =>
    have hnone : h.submissions = [] := by
      rcases opened_sketch (opened_of_delivered hdelivered) with
        ⟨callback, camera, draft, -, -, hsketch⟩ | ⟨-, hsketch⟩
      · exact congrArg Sketch.submitted hsketch
      · exact congrArg Sketch.submitted hsketch
    rw [hnone]
    exact List.forall_mem_nil _

end CameraControl
