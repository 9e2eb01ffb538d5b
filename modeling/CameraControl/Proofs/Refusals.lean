import CameraControl.Proofs.StaleSessions

/-!
Calls that a simulator refuses. Either there is no such device or session any more, or the refusal was armed.
It makes no difference to the cameras: nothing is posted, and nothing changes but that the call may be on
record and that an armed refusal, always of that very call, is used up.
-/
namespace CameraControl

/-- Calls are refused in this way because of what they name, and not because a refusal was armed. -/
def Fault.isGenuine : Fault → Bool
  | disconnected _ | sessionClosed => true
  | _ => false

namespace Simulator

/-- The operation that can be armed to have this refused. -/
def Use.operation? : Use → Option Operation
  | call (.openDevice _) => some .openDevice
  | call (.createSession _ _) => some .createSession
  | call (.setRepeating _ _ _) => some .setRepeating
  | call (.stopRepeating _) => some .stopRepeating
  | call (.capture _ _ _) => some .capture
  | call (.abortCaptures _) => some .abortCaptures
  | draft _ _ => some .createDraft
  | _ => none

/-- Why this use is refused, if it is. -/
def fault? (s : Simulator) : Use → Option Fault
  | .call q => (s.answer q).fault
  | .draft device template =>
    match (s.draft device template).2 with
    | .error fault => some fault
    | .ok _ => none
  | _ => none

/-- What a refusal of the operation leaves of a simulator. -/
inductive Refused (s : Simulator) (op : Operation) : Fault → Simulator → Prop
  | genuine {fault : Fault} {journal : List Entry} (hgenuine : fault.isGenuine)
      (hjournal : s.journal <+: journal) : Refused s op fault { s with journal }
  | armed {fault : Fault} {journal : List Entry} (hinjected : fault.isGenuine = false)
      (harmed : op ∈ s.armed) (hjournal : s.journal <+: journal) :
      Refused s op fault { s with journal, armed := s.armed.filter (· ≠ op) }

section
variable (s : Simulator) {fault : Fault}

theorem openFor_refused {id : DeviceId} (hfault : (s.openFor id).fault = some fault) :
    (s.openFor id).posted = [] ∧ Refused s .openDevice fault (s.openFor id).world := by
  have hnoted : s.journal <+: (s.note (.openDevice id)).journal := List.prefix_append _ _
  unfold openFor at hfault ⊢
  dsimp only at hfault ⊢
  split_ifs at hfault ⊢ with harmed hunknown
  · cases hfault
    exact ⟨rfl, .armed rfl harmed hnoted⟩
  · cases hfault
    exact ⟨rfl, .genuine rfl hnoted⟩

theorem draft_refused {device : Device} {template : Template}
    (hfault : s.fault? (.draft device template) = some fault) :
    Refused s .createDraft fault (s.draft device template).1 := by
  unfold fault? draft at hfault
  unfold draft
  split_ifs at hfault ⊢ with harmed
  cases hfault
  exact .armed rfl harmed (List.prefix_refl _)

theorem createSession_refused {device : Device} {surfaces : List SurfaceId}
    (hfault : (s.createSession device surfaces).fault = some fault) :
    (s.createSession device surfaces).posted = [] ∧
      Refused s .createSession fault (s.createSession device surfaces).world := by
  have hnoted : s.journal <+: (s.note (.createSession device.id surfaces)).journal :=
    List.prefix_append _ _
  unfold createSession at hfault ⊢
  dsimp only at hfault ⊢
  split_ifs at hfault ⊢ with harmed
  cases hfault
  exact ⟨rfl, .armed rfl harmed hnoted⟩

theorem setRepeating_refused {session : Session} {request : Request} {listener : Listener}
    (hfault : (s.setRepeating session request listener).fault = some fault) :
    (s.setRepeating session request listener).posted = [] ∧
      Refused s .setRepeating fault (s.setRepeating session request listener).world := by
  unfold setRepeating at hfault ⊢
  dsimp only at hfault ⊢
  split_ifs at hfault ⊢ with hcurrent harmed
  · cases hfault
    exact ⟨rfl, .armed rfl harmed (List.prefix_refl _)⟩
  · cases hfault
    exact ⟨rfl, .genuine rfl (List.prefix_refl _)⟩

theorem stopRepeating_refused {session : Session}
    (hfault : (s.stopRepeating session).fault = some fault) :
    (s.stopRepeating session).posted = [] ∧
      Refused s .stopRepeating fault (s.stopRepeating session).world := by
  unfold stopRepeating at hfault ⊢
  split_ifs at hfault ⊢ with hcurrent harmed
  · cases hfault
    exact ⟨rfl, .armed rfl harmed (List.prefix_refl _)⟩
  · cases hfault
    exact ⟨rfl, .genuine rfl (List.prefix_refl _)⟩

theorem capture_refused {session : Session} {request : Request} {listener : Listener}
    (hfault : (s.capture session request listener).fault = some fault) :
    (s.capture session request listener).posted = [] ∧
      Refused s .capture fault (s.capture session request listener).world := by
  unfold capture at hfault ⊢
  split_ifs at hfault ⊢ with hcurrent harmed
  · cases hfault
    exact ⟨rfl, .armed rfl harmed (List.prefix_refl _)⟩
  · cases hfault
    exact ⟨rfl, .genuine rfl (List.prefix_refl _)⟩

theorem abortCaptures_refused {session : Session}
    (hfault : (s.abortCaptures session).fault = some fault) :
    (s.abortCaptures session).posted = [] ∧
      Refused s .abortCaptures fault (s.abortCaptures session).world := by
  have hnoted : s.journal <+: (s.note .abortCaptures).journal := List.prefix_append _ _
  unfold abortCaptures at hfault ⊢
  dsimp only at hfault ⊢
  split_ifs at hfault ⊢ with harmed
  cases hfault
  exact ⟨rfl, .armed rfl harmed hnoted⟩

/-- Only what has an operation to arm is ever refused. -/
theorem use_refused {use : Use} (hfault : s.fault? use = some fault) :
    ∃ op, use.operation? = some op ∧ (s.use use).posted = [] ∧
      Refused s op fault (s.use use).world := by
  cases use with
  | call q =>
    cases q with
    | openDevice id => exact ⟨_, rfl, openFor_refused s hfault⟩
    | closeDevice device =>
      have hserved : (s.closeDevice device).fault = none := by
        unfold closeDevice
        dsimp only
        split_ifs <;> rfl
      cases hserved.symm.trans hfault
    | createSession device surfaces => exact ⟨_, rfl, createSession_refused s hfault⟩
    | setRepeating session request listener => exact ⟨_, rfl, setRepeating_refused s hfault⟩
    | stopRepeating session => exact ⟨_, rfl, stopRepeating_refused s hfault⟩
    | capture session request listener => exact ⟨_, rfl, capture_refused s hfault⟩
    | abortCaptures session => exact ⟨_, rfl, abortCaptures_refused s hfault⟩
  | draft device template => exact ⟨_, rfl, rfl, draft_refused s hfault⟩
  | stir stimulus => cases hfault
  | clearJournal => cases hfault

end

/-- Whatever state a simulator is in, a refused call posts nothing, and of the simulator only its journal and
what is armed can change. If the session is closed or the device unknown, what is armed stays so. Otherwise
the refusal of that very call was armed, and it alone no longer is. -/
theorem refusal_spends_own_arming (s : Simulator) (use : Use) (fault : Fault)
    (hfault : s.fault? use = some fault) :
    let a := s.use use
    a.posted = [] ∧ a.world = { s with journal := a.world.journal, armed := a.world.armed } ∧
      s.journal <+: a.world.journal ∧
      if fault.isGenuine then a.world.armed = s.armed
      else ∃ op ∈ s.armed, use.operation? = some op ∧ a.world.armed = s.armed.filter (· ≠ op) := by
  intro a
  obtain ⟨op, hop, hposted, hrefused⟩ := use_refused s hfault
  refine ⟨hposted, ?_⟩
  change Refused s op fault a.world at hrefused
  generalize a.world = world at hrefused
  cases hrefused with
  | genuine hgenuine hjournal =>
    rw [if_pos hgenuine]
    exact ⟨rfl, hjournal, rfl⟩
  | armed hinjected harmed hjournal =>
    rw [if_neg (Bool.eq_false_iff.mp hinjected)]
    exact ⟨rfl, hjournal, op, harmed, hop, rfl⟩

/-- A session that was superseded, though both captures and aborting are armed to fail. -/
def cornered : Simulator :=
  ((Usage.mk (withDevices ["0"]) []).run
    [.call (.openDevice "0"), .call (.createSession ⟨"0", 0⟩ []), .call (.createSession ⟨"0", 0⟩ []),
      .stir (.arm .capture), .stir (.arm .abortCaptures)]).now

theorem cornered_refusals :
    let stale := cornered.use (.call (.capture ⟨1⟩ (Draft.blank .preview).build .untracked))
    let injected := cornered.use (.call (.abortCaptures ⟨1⟩))
    cornered.armed = [.abortCaptures, .capture] ∧ stale.fault = some .sessionClosed ∧
      stale.posted = [] ∧ stale.world.armed = [.abortCaptures, .capture] ∧
      injected.fault = some (.device "abort rejected") ∧ injected.posted = [] ∧
      injected.world.armed = [.capture] := by
  intro stale injected
  obtain ⟨hstale, -, -, hkept⟩ := refusal_spends_own_arming cornered
    (.call (.capture ⟨1⟩ (Draft.blank .preview).build .untracked)) .sessionClosed rfl
  obtain ⟨hinjected, -, -, op, -, hop, hspent⟩ := refusal_spends_own_arming cornered
    (.call (.abortCaptures ⟨1⟩)) (.device "abort rejected") rfl
  cases hop
  exact ⟨rfl, rfl, hstale, hkept, rfl, hinjected, hspent⟩

/-- The operation that is armed to fail. -/
def Use.arms? : Use → Option Operation
  | stir (.arm op) => some op
  | _ => none

/-- The operation that was armed to have this use refused. -/
def Used.spent? (u : Used) : Option Operation :=
  match u.before.fault? u.use with
  | some fault => if fault.isGenuine then none else u.use.operation?
  | none => none

/-- How many refusals of the operation are armed. -/
def loaded (s : Simulator) (op : Operation) : Nat := if op ∈ s.armed then 1 else 0

/-- What is armed after a use was armed before, or is armed by it. -/
theorem use_unarmed {s : Simulator} {use : Use} {op : Operation} (hother : use.arms? ≠ some op)
    (hop : op ∉ s.armed) : op ∉ (s.use use).world.armed := by
  cases use with
  | call q => exact fun harmed => hop ((answer_aftermath s q).armed harmed)
  | draft device template => exact fun harmed => hop ((draft_aftermath s device template).armed harmed)
  | stir stimulus => exact stir_unarmed (fun harm => hother (harm ▸ rfl)) hop
  | clearJournal => exact hop

theorem Used.spent_armed {u : Used} {op : Operation} (hspent : u.spent? = some op) :
    op ∈ u.before.armed ∧ op ∉ u.outcome.world.armed := by
  unfold spent? at hspent
  split at hspent
  · next fault hfault =>
    split_ifs at hspent with hgenuine
    obtain ⟨op', hoperation, -, hrefused⟩ := use_refused u.before hfault
    cases hoperation.symm.trans hspent
    change Refused u.before op fault u.outcome.world at hrefused
    generalize u.outcome.world = world at hrefused
    cases hrefused with
    | genuine hcause => exact absurd hcause hgenuine
    | armed hinjected harmed => exact ⟨harmed, by simp⟩
  · cases hspent

/-- A refusal is armed once for each one that is spent. -/
theorem Used.loaded_le (u : Used) (op : Operation) :
    (if u.spent? = some op then 1 else 0) + u.outcome.world.loaded op ≤
      u.before.loaded op + if u.use.arms? = some op then 1 else 0 := by
  unfold loaded
  by_cases hspent : u.spent? = some op
  · obtain ⟨hbefore, hafter⟩ := u.spent_armed hspent
    rw [if_pos hspent, if_pos hbefore, if_neg hafter]
    exact Nat.le_add_right _ _
  · rw [if_neg hspent, Nat.zero_add]
    by_cases harms : u.use.arms? = some op
    · rw [if_pos harms]
      split_ifs <;> decide
    · have hkept : op ∈ u.outcome.world.armed → op ∈ u.before.armed := by
        intro harmed
        by_contra hfree
        exact use_unarmed harms hfree harmed
      rw [if_neg harms]
      split_ifs with hafter hbefore
      · exact Nat.le_refl _
      · exact absurd (hkept hafter) hbefore
      · exact Nat.zero_le _
      · exact Nat.le_refl _

/-- However a simulator is used, arming an operation has it refused at most once. -/
theorem refusals_le_armings (world : Simulator) (uses : List Use) (op : Operation) :
    let h := (Usage.mk world []).run uses
    h.past.countP (·.spent? = some op) + h.now.loaded op ≤
      world.loaded op + h.past.countP (·.use.arms? = some op) := by
  refine Usage.run_keeps (P := fun h => h.past.countP (·.spent? = some op) + h.now.loaded op ≤
    world.loaded op + h.past.countP (·.use.arms? = some op)) ?_ ?_ uses
  · show 0 + world.loaded op ≤ world.loaded op + 0
    omega
  · intro h use hh
    have hstep := Used.loaded_le ⟨h.now, use⟩ op
    show (⟨h.now, use⟩ :: h.past).countP _ + (h.now.use use).world.loaded op ≤
      _ + (⟨h.now, use⟩ :: h.past).countP _
    change _ + (h.now.use use).world.loaded op ≤ _ at hstep
    rw [List.countP_cons, List.countP_cons]
    simp only [decide_eq_true_eq] at hstep ⊢
    omega

end Simulator

end CameraControl
