import CameraControl.Proofs.Awaiting

/-!
What becomes of the devices that are delivered. Each one is closed, held, or was displaced: taken away from
the controller, still open, by the next one. Devices are only displaced when cameras are asked for before an
earlier one has come, and only an action that is not supported makes a camera seem open without a device.
-/
namespace CameraControl

section

variable {ε σ δ τ : Type} [Subsystem σ δ τ]

/-- The device that was held when another was taken up in its place. -/
def Handled.displaced? (h : Handled σ δ τ) : Option δ :=
  if h.adopts then h.before.attached.device else none

def displaced (past : List (Handled σ δ τ)) : List δ := past.filterMap (·.displaced?)

def closings (past : List (Handled σ δ τ)) : List δ := past.flatMap (·.closed)

/-- A device that comes in or was held is closed, held or displaced afterwards. -/
theorem Custody.Step.balance {κ κ' : Custody δ} {message : Message δ τ} {failure : Option Failure}
    {accepted : List DeviceId} {closed : List δ} (h : κ.Step message failure accepted closed κ') :
    message.delivered?.toList ++ κ.device.toList = closed ++ κ'.device.toList ++
      if (κ'.outcomes.drop κ.outcomes.length).any (·.isOpened) then κ.device.toList else [] := by
  cases h with
  | quiet hopening hrelease hdelivered | forfeited hopening hrelease hdelivered =>
    simp [hdelivered]
  | alreadyOpen info hopening | disabled hopening | refused info hopening | accepted hopening =>
    simp [Message.opening_no_delivery hopening, Report.isOpened]
  | released hrelease | idle hrelease =>
    simp [Message.release_no_delivery hrelease]
  | stray hdelivered | adopted hdelivered | broken info hdelivered =>
    simp [hdelivered, Report.isOpened]
  | complained => simp [Message.delivered?, Event.opened?, Report.isOpened]

theorem Handled.balance {h : Handled σ δ τ}
    (hheld : h.before.attached.device.isSome → h.before.stage ≠ .unopened) :
    h.message.delivered?.toList ++ h.before.attached.device.toList =
      h.closed ++ h.after.attached.device.toList ++ h.displaced?.toList := by
  obtain ⟨hstep, -, -⟩ := h.steps hheld
  unfold displaced?
  rw [apply_ite Option.toList]
  exact hstep.balance

theorem closings_cons (h : Handled σ δ τ) (past : List (Handled σ δ τ)) :
    closings (h :: past) = h.closed ++ closings past := List.flatMap_cons

theorem displaced_cons (h : Handled σ δ τ) (past : List (Handled σ δ τ)) :
    displaced (h :: past) = h.displaced?.toList ++ displaced past := by
  unfold displaced
  cases hdisplaced : h.displaced? with
  | none => exact List.filterMap_cons_none hdisplaced
  | some device => exact List.filterMap_cons_some hdisplaced

variable [DecidableEq δ]

/-- Every device was delivered as often as it was closed, is held or was displaced. -/
def Run.Conserved (r : Run σ δ τ) : Prop :=
  ∀ device, (delivered r.past).count device = (closings r.past).count device +
    r.now.attached.device.toList.count device + (displaced r.past).count device

theorem Run.conserved_handle {h : Handled σ δ τ} {past : List (Handled σ δ τ)}
    (hr : Run.Tenured ⟨h.before, past⟩) (hbefore : Run.Conserved ⟨h.before, past⟩) :
    Run.Conserved ⟨h.after, h :: past⟩ := by
  intro device
  have hbalance := congrArg (List.count device) (Handled.balance hr.held)
  have hpast : (delivered past).count device = (closings past).count device +
    h.before.attached.device.toList.count device + (displaced past).count device := hbefore device
  show (delivered (h :: past)).count device = (closings (h :: past)).count device +
    h.after.attached.device.toList.count device + (displaced (h :: past)).count device
  rw [delivered_cons, closings_cons, displaced_cons]
  simp only [List.count_append] at hbalance ⊢
  omega

namespace Run

variable {r : Run σ δ τ} {device : δ}

/-- A device that is held has been closed less often than it was delivered. -/
theorem Conserved.closed_lt_delivered (hr : r.Conserved)
    (hheld : r.now.attached.device = some device) :
    (closings r.past).count device < (delivered r.past).count device := by
  have hcount := hr device
  rw [hheld, Option.toList_some, List.count_singleton_self] at hcount
  omega

theorem Conserved.held_not_closed (hr : r.Conserved) (hdistinct : (delivered r.past).Nodup)
    (hheld : r.now.attached.device = some device) : device ∉ closings r.past := by
  intro hclosed
  have hlt := hr.closed_lt_delivered hheld
  have hone := List.nodup_iff_count_le_one.mp hdistinct device
  have hpositive := List.count_pos_iff.mpr hclosed
  omega

/-- A device is held that is not closed: it was delivered more often than it was closed. -/
def HoldsOpen (r : Run σ δ τ) : Prop :=
  ∃ device, r.now.attached.device = some device ∧
    (closings r.past).count device < (delivered r.past).count device

theorem Conserved.holdsOpen_iff (hr : r.Conserved) :
    r.HoldsOpen ↔ r.now.attached.device ≠ none := by
  rw [Option.ne_none_iff_exists']
  exact exists_congr fun device => and_iff_left_of_imp hr.closed_lt_delivered

variable [Spontaneous ε σ δ τ]

theorem conserved_meanwhile (r : Run σ δ τ) (move : Move ε) (hr : r.Conserved) :
    Conserved { r with now := r.now.meanwhile move } := by
  cases move <;> exact hr

/-- A stage that tells of an open camera goes with a device that is held and not closed, exactly as long as
no action that is not supported has been handled since the camera was taken up. Where no device is delivered
twice, one that is held has not been closed at all. -/
theorem open_iff_held_iff_supported (world : σ) (roster : Roster) (historySize : Nat)
    (moves : List (Move ε)) :
    let r := (start world roster historySize).run moves
    ((.unconfigured ≤ r.now.stage ↔ r.HoldsOpen) ↔
      ¬ ∃ held, tenure r.past = some held ∧ ∃ h ∈ held, h.message.isSupported = false) ∧
    ((delivered r.past).Nodup →
      ∀ device, r.now.attached.device = some device → device ∉ closings r.past) := by
  intro r
  obtain ⟨htenured, hr, -⟩ : r.Tenured ∧ r.Conserved ∧ _ := invariant_tenured Conserved (fun _ => True)
    (fun r move _ hr => conserved_meanwhile r move hr)
    (fun h past htenured hr => conserved_handle htenured hr) world roster historySize
    (fun move (_ : move ∈ moves) => trivial) (fun _ => rfl)
  refine ⟨?_, fun hdistinct device hheld => hr.held_not_closed hdistinct hheld⟩
  have hfits : r.now.Fits (tenure r.past) := htenured.fits
  rw [hr.holdsOpen_iff, Stage.unconfigured_le]
  cases htenure : tenure r.past with
  | none =>
    rw [htenure] at hfits
    obtain ⟨hunopened, hdevice⟩ := hfits
    simp [hunopened, hdevice]
  | some held =>
    rw [htenure] at hfits
    obtain ⟨hopen, hlost⟩ := hfits
    rw [iff_true_left hopen, ne_eq, hlost]
    simp only [Option.some.injEq, exists_eq_left']

/-- With an exception callback, locking an open camera closes its device and leaves the stage. -/
theorem locked_not_held :
    let r := Simulator.run [.install 0, .ask (.openCamera 0 0), .handle, .handle, .ask .lock, .handle]
    r.now.status = .running ∧ ¬ (.unconfigured ≤ r.now.stage ↔ r.HoldsOpen) := by
  refine ⟨rfl, ?_⟩
  intro hiff
  obtain ⟨device, hheld, -⟩ := hiff.mp (by decide)
  cases hheld

end Run

end

namespace Simulator

/-- What is known of the devices in a run of the simulator. -/
structure Kept (first : Nat) (r : Run Simulator Device Session) : Prop where
  conserved : r.Conserved
  numbered : Numbered first r
  waiting : Waiting r

theorem kept (world : Simulator) (roster : Roster) (historySize : Nat) (moves : List Move) :
    ((Run.start world roster historySize).run moves).Tenured ∧
      Kept world.openings ((Run.start world roster historySize).run moves) ∧
      ((Run.start world roster historySize).run moves).Throughout
        fun r => r.Tenured ∧ Kept world.openings r := by
  refine Run.invariant_tenured (Kept world.openings) (fun _ => True) ?_ ?_ world roster historySize
    (fun move (_ : move ∈ moves) => trivial) ?_
  · intro r move _ hr
    exact ⟨Run.conserved_meanwhile r move hr.conserved, numbered_meanwhile move hr.numbered,
      waiting_meanwhile r move hr.waiting⟩
  · intro h past htenured hr
    exact ⟨Run.conserved_handle htenured hr.conserved, numbered_handle htenured.held hr.numbered,
      waiting_handle htenured hr.waiting⟩
  · exact ⟨fun _ => rfl, ⟨0, rfl, rfl⟩, fun _ => Or.inl rfl⟩

/-- At most one camera is open at a time: every device that was delivered is either held, and not closed, or
not held and closed once. -/
def Owned (r : Run Simulator Device Session) : Prop :=
  ∀ device ∈ delivered r.past,
    (r.now.attached.device = some device ∧ device ∉ closings r.past) ∨
      (r.now.attached.device ≠ some device ∧ (closings r.past).count device = 1)

instance (r : Run Simulator Device Session) : Decidable (Owned r) :=
  inferInstanceAs (Decidable (∀ device ∈ delivered r.past, _))

namespace Kept

variable {first : Nat} {r : Run Simulator Device Session} {device : Device}

theorem count_le_one (hr : Kept first r) (device : Device) :
    (closings r.past).count device + r.now.attached.device.toList.count device +
      (displaced r.past).count device ≤ 1 := by
  rw [← hr.conserved device]
  exact List.nodup_iff_count_le_one.mp hr.numbered.nodup device

theorem no_closed_twice (hr : Kept first r) : (closings r.past).Nodup := by
  rw [List.nodup_iff_count_le_one]
  intro device
  have hone := hr.count_le_one device
  omega

/-- Unless a camera was asked for too early, none is taken up while another is held. -/
theorem not_displacing {h : Handled Simulator Device Session}
    {past : List (Handled Simulator Device Session)} (htenured : (Run.before h past).Tenured)
    (hr : Kept first (Run.before h past)) (horderly : Orderly past) : h.displaced? = none := by
  have hbefore : Run.Tenured ⟨h.before, past⟩ := { htenured with }
  obtain ⟨hstep, -, -⟩ := h.steps hbefore.held
  unfold Handled.displaced?
  split_ifs with hadopts
  · obtain ⟨report, hreport, hopened⟩ := List.any_eq_true.mp hadopts
    cases report with
    | opened callback camera =>
      obtain ⟨device, hdelivered, -⟩ := hstep.adopting hreport
      obtain ⟨hawaits, -⟩ := hr.waiting.delivered horderly hdelivered
      by_contra hheld
      exact htenured.held (Option.isSome_iff_ne_none.mpr hheld) hawaits.unopened
    | _ => cases hopened
  · rfl

theorem owned_iff (hr : Kept first r) : Owned r ↔ displaced r.past = [] := by
  constructor
  · intro howned
    apply List.eq_nil_iff_forall_not_mem.mpr
    intro device hdisplaced
    have hone := hr.count_le_one device
    have hcount := hr.conserved device
    have hpositive := List.count_pos_iff.mpr hdisplaced
    have hdelivered : device ∈ delivered r.past := List.count_pos_iff.mp (by omega)
    rcases howned device hdelivered with ⟨hheld, -⟩ | ⟨-, hclosed⟩
    · rw [hheld] at hone
      simp at hone
      omega
    · omega
  · intro hnone device hdelivered
    have hone := hr.count_le_one device
    have hcount := hr.conserved device
    have hpositive := List.count_pos_iff.mpr hdelivered
    rw [hnone, List.count_nil, Nat.add_zero] at hone hcount
    by_cases hheld : r.now.attached.device = some device
    · exact Or.inl ⟨hheld, hr.conserved.held_not_closed hr.numbered.nodup hheld⟩
    · have hnot : r.now.attached.device.toList.count device = 0 :=
        List.count_eq_zero.mpr fun hmem => hheld (Option.mem_toList.mp hmem)
      exact Or.inr ⟨hheld, by omega⟩

end Kept

/-- No device is closed twice, and the others are owned exactly if none was displaced. None is displaced as
long as no camera is asked for while a device is still to be delivered. -/
theorem owned_iff_none_displaced (world : Simulator) (roster : Roster) (historySize : Nat)
    (moves : List Move) :
    let r := (Run.start world roster historySize).run moves
    (closings r.past).Nodup ∧ (Owned r ↔ displaced r.past = []) ∧
      (Orderly r.past → displaced r.past = []) := by
  intro r
  obtain ⟨-, hr, hbefore⟩ := kept world roster historySize moves
  refine ⟨hr.no_closed_twice, hr.owned_iff, ?_⟩
  intro horderly
  apply List.filterMap_eq_nil_iff.mpr
  intro h hmem
  obtain ⟨later, past, hpast⟩ := List.append_of_mem hmem
  have hsuffix : (h :: past) <:+ r.past := ⟨later, hpast.symm⟩
  obtain ⟨htenured, hkept⟩ := hbefore h past hsuffix
  exact hkept.not_displacing htenured fun e he =>
    horderly e (hsuffix.subset (List.mem_cons_of_mem h he))

/-- Two cameras are asked for at once. -/
def hastyMoves : List Move :=
  [.ask (.openCamera 0 0), .ask (.openCamera 1 1), .handle, .handle, .handle, .handle]

/-- The device that came first is neither held nor closed. -/
theorem hasty_not_owned : ¬ Owned (run hastyMoves) := by decide

end Simulator

end CameraControl
