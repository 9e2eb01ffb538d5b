import CameraControl.Proofs.Sketches

/-!
What is asked of the camera. `submitted_as_applied` says what a request holds in terms of the messages
alone: of the settings that were applied since the camera was taken up, and of the message that had it
submitted. That some submission was refused meanwhile makes no difference.
-/
namespace CameraControl

/-- What settings make of a request, those applied last first. The focus mode and the regions are those of
the last settings, flash and scene those of the last settings that name one. -/
def Request.ofSettings (array : Rect) (applied : List Settings) : Request where
  template := .preview
  autofocus := applied.head?.map (.ofFocus ·.focus)
  focusRegions := applied.head?.elim [] (Metering.regions array ·.focusAreas)
  exposureRegions := applied.head?.elim [] (Metering.regions array ·.meteringAreas)
  flash := (applied.map (·.flash)).find? (· ≠ .noFlash)
  scene := (applied.map (·.scene)).find? (· ≠ .noScene)

/-- Settings that are merged into a draft are the last ones applied. -/
theorem Draft.merge_ofSettings (s : Settings) (array : Rect) (applied : List Settings) :
    (⟨.ofSettings array applied⟩ : Draft).merge s array = ⟨.ofSettings array (s :: applied)⟩ := by
  unfold merge mergeFlash mergeScene Request.ofSettings
  by_cases hflash : s.flash = .noFlash <;> by_cases hscene : s.scene = .noScene <;>
    simp [hflash, hscene, withFlash, withScene, withAutofocus, withFocusRegions, withExposureRegions]

/-- How the requests that a message leads to are submitted: with which listener and trigger, and whether
they repeat. -/
def Message.submits? {δ τ : Type} : Message δ τ → Option (Listener × Trigger × Bool)
  | action (.startPreview _) | action (.applySettings _) => some (.lensState, .idle, true)
  | action (.autoFocus _) => some (.focusTrigger, .start, false)
  | action .cancelAutoFocus => some (.untracked, .cancel, false)
  | _ => none

/-- With settings applied so far, a message adds its own, and what it has submitted is made of them all. -/
theorem Sketch.Step.advance {δ τ : Type} {isOpen : Bool} {k k' : Sketch} {message : Message δ τ}
    {array : Rect} {applied : List Settings} (h : k.Step isOpen message k') (hopen : isOpen)
    (hkept : message.isRelease = false) (hdraft : k.draft = some ⟨.ofSettings array applied⟩)
    (harray : k.activeArray = some array) :
    k'.draft = some ⟨.ofSettings array (message.settings?.toList ++ applied)⟩ ∧
      k'.activeArray = some array ∧
      ∃ new, k'.submitted = k.submitted ++ new ∧ ∀ x ∈ new,
        message.submits? = some (x.listener, x.request.trigger, x.repeats) ∧
        x.request = { Request.ofSettings array (message.settings?.toList ++ applied) with
          trigger := x.request.trigger } := by
  cases h with
  | still h =>
    rcases h with hclosed | ⟨hsettings, -⟩
    · rw [hopen] at hclosed
      cases hclosed
    · rw [hsettings]
      exact ⟨hdraft, harray, [], (List.append_nil _).symm, List.forall_mem_nil _⟩
  | released hrelease =>
    rw [hkept] at hrelease
    cases hrelease
  | applied again hsome harray' hagain =>
    cases hdraft.symm.trans hsome
    cases harray.symm.trans harray'
    rw [Draft.merge_ofSettings] at hagain ⊢
    refine ⟨rfl, harray, again, rfl, ?_⟩
    intro x hx
    rw [hagain x hx]
    exact ⟨rfl, rfl⟩
  | started hsome =>
    cases hdraft.symm.trans hsome
    refine ⟨hdraft, harray, _, rfl, ?_⟩
    intro x hx
    rw [List.mem_singleton.mp hx]
    exact ⟨rfl, rfl⟩
  | focusing hsome | unlocking hsome =>
    cases hdraft.symm.trans hsome
    refine ⟨rfl, harray, _, rfl, ?_⟩
    intro x hx
    rw [List.mem_singleton.mp hx]
    exact ⟨rfl, rfl⟩

/-- Without a draft nothing is submitted. -/
theorem Sketch.Step.idle {δ τ : Type} {isOpen : Bool} {k k' : Sketch} {message : Message δ τ}
    (h : k.Step isOpen message k') (hdraft : k.draft = none) :
    k'.draft = none ∧ k'.submitted = k.submitted := by
  cases h with
  | still => exact ⟨hdraft, rfl⟩
  | released => exact ⟨rfl, rfl⟩
  | applied _ hsome | started hsome | focusing hsome | unlocking hsome =>
    rw [hdraft] at hsome
    cases hsome

/-- A message that gives the camera up submits nothing, and an open camera loses its draft. -/
theorem Sketch.Step.surrender {δ τ : Type} {isOpen : Bool} {k k' : Sketch} {message : Message δ τ}
    (h : k.Step isOpen message k') (hopen : isOpen) (hrelease : message.isRelease) :
    k'.draft = none ∧ k'.submitted = k.submitted := by
  cases h with
  | still h =>
    rcases h with hclosed | ⟨-, hkept⟩
    · rw [hopen] at hclosed
      cases hclosed
    · rw [hrelease] at hkept
      cases hkept
  | released => exact ⟨rfl, rfl⟩
  | applied | started | focusing | unlocking => cases hrelease

variable {ε σ δ τ : Type}

/-- The settings among the messages that were handled, the latest first. -/
def applied (past : List (Handled σ δ τ)) : List Settings := past.filterMap (·.message.settings?)

theorem applied_cons (h : Handled σ δ τ) (past : List (Handled σ δ τ)) :
    applied (h :: past) = h.message.settings?.toList ++ applied past := by
  unfold applied
  cases hsettings : h.message.settings? with
  | none => exact List.filterMap_cons_none hsettings
  | some settings => exact List.filterMap_cons_some hsettings

variable [Subsystem σ δ τ]

/-- A draft made from a template asks for nothing else yet. -/
def Subsystem.Fresh (σ : Type) {δ τ : Type} [Subsystem σ δ τ] : Prop :=
  ∀ (s : σ) (device : δ) (template : Template) (draft : Draft),
    (Subsystem.draft s device template).2 = .ok draft → draft = .blank template

/-- The requests that handling the message had submitted, refused ones included. -/
def Handled.submissions (h : Handled σ δ τ) : List Submission :=
  h.recorded.subsystem.record.filterMap (·.call.submission?)

/-- Since this camera was taken up, these messages were handled, the latest first. -/
def HeldSince (past : List (Handled σ δ τ)) (camera : Camera) (held : List (Handled σ δ τ)) : Prop :=
  tenure past = some held ∧ ∃ adopting older callback,
    past = held ++ adopting :: older ∧ .opened callback camera ∈ adopting.outcomes

namespace Run

/-- The draft holds what the settings make of it that were applied since the camera was taken up. -/
def Sketched (r : Run σ δ τ) : Prop :=
  match tenure r.past with
  | none => r.now.attached.draft = none
  | some held => ∃ camera, HeldSince r.past camera held ∧
    r.now.attached.activeArray = some camera.characteristics.activeArray ∧
    r.now.attached.draft.map Draft.untargeted =
      some ⟨.ofSettings camera.characteristics.activeArray (applied held)⟩

end Run

namespace Handled

variable {h : Handled σ δ τ} {past : List (Handled σ δ τ)}

theorem recorded_attached : h.recorded.attached = h.after.attached :=
  congrArg Controller.attached h.recorded_bare

/-- A device that comes is taken up with a draft of its own, or changes nothing that requests are made
from. -/
theorem opened_sketch {device : δ} (hmessage : h.message = .hardware (.opened device)) :
    (∃ callback camera draft, h.outcomes = [.opened callback camera] ∧
      (Subsystem.draft h.before.subsystem device .preview).2 = .ok draft ∧
      h.recorded.sketch = { h.before.recorded.sketch with
        draft := some draft.untargeted
        activeArray := some camera.characteristics.activeArray }) ∨
    (h.adopts = false ∧ h.recorded.sketch = h.before.recorded.sketch) := by
  have hrecorded : h.recorded = h.before.recorded.countEvent.onOpened device := by
    unfold recorded
    rw [hmessage]
    rfl
  have hafter : h.after.outcomes = h.recorded.outcomes :=
    congrArg Controller.outcomes h.recorded_bare.symm
  rcases h.before.recorded.countEvent.onOpened_sketch device with
    ⟨callback, camera, draft, houtcomes, hdraft, hsketch⟩ | ⟨new, houtcomes, hnew, hsketch⟩
  · rw [← hrecorded] at houtcomes hsketch
    exact Or.inl ⟨callback, camera, draft, outcomes_eq (hafter.trans houtcomes), hdraft, hsketch⟩
  · rw [← hrecorded] at houtcomes hsketch
    have hadopts : h.adopts = false := by
      unfold adopts
      rw [outcomes_eq (hafter.trans houtcomes)]
      exact hnew
    exact Or.inr ⟨hadopts, hsketch⟩

omit [Subsystem σ δ τ] in
theorem opened_of_delivered {device : δ} (hdelivered : h.message.delivered? = some device) :
    h.message = .hardware (.opened device) := by
  cases hmessage : h.message with
  | hardware event =>
    rw [hmessage] at hdelivered
    cases event with
    | opened device => cases hdelivered; rfl
    | _ => cases hdelivered
  | _ =>
    rw [hmessage] at hdelivered
    cases hdelivered

/-- A camera that is taken up starts with a blank draft. -/
theorem adopting_sketch (hfresh : Subsystem.Fresh σ) (htenured : Run.Tenured ⟨h.before, past⟩)
    (hadopts : h.adopts) : h.submissions = [] ∧ ∃ callback camera,
      .opened callback camera ∈ h.outcomes ∧
      h.after.attached.activeArray = some camera.characteristics.activeArray ∧
      h.after.attached.draft.map Draft.untargeted =
        some ⟨.ofSettings camera.characteristics.activeArray []⟩ := by
  obtain ⟨hstep, -, -⟩ := h.steps htenured.held
  obtain ⟨report, hreport, hopened⟩ := List.any_eq_true.mp hadopts
  cases report with
  | opened callback camera =>
    obtain ⟨device, hdelivered, -⟩ := hstep.adopting hreport
    rcases opened_sketch (opened_of_delivered hdelivered) with
      ⟨callback, camera, draft, houtcomes, hdraft, hsketch⟩ | ⟨hnot, -⟩
    · rw [hfresh _ _ _ _ hdraft] at hsketch
      refine ⟨congrArg Sketch.submitted hsketch, callback, camera, ?_, ?_, ?_⟩
      · rw [houtcomes]
        exact List.mem_singleton_self _
      · rw [← recorded_attached]
        exact congrArg Sketch.activeArray hsketch
      · rw [← recorded_attached]
        exact congrArg Sketch.draft hsketch
    · rw [hnot] at hadopts
      cases hadopts
  | _ => cases hopened

/-- Unless it has a camera taken up, a message is a step of the sketch. -/
theorem sketch_step (htenured : Run.Tenured ⟨h.before, past⟩) (hadopts : h.adopts = false) :
    h.before.recorded.sketch.Step (h.before.stage ≠ .unopened) h.message h.recorded.sketch := by
  cases hdelivered : h.message.delivered? with
  | none => exact h.before.recorded.handle_sketch htenured.layered hdelivered
  | some device =>
    have hmessage := opened_of_delivered hdelivered
    rcases opened_sketch hmessage with ⟨callback, camera, draft, houtcomes, -, -⟩ | ⟨-, hsame⟩
    · unfold adopts at hadopts
      rw [houtcomes] at hadopts
      cases hadopts
    · rw [hsame, hmessage]
      exact .still (Or.inr ⟨rfl, rfl⟩)

end Handled

namespace Run

variable {h : Handled σ δ τ} {past : List (Handled σ δ τ)}

/-- A message that neither has a camera taken up nor gives one up adds its settings to those of the tenure,
and what it has submitted is made of them. -/
theorem Sketched.continues (hr : (before h past).Sketched) (htenured : Tenured ⟨h.before, past⟩)
    (hadopts : h.adopts = false) (hkept : h.message.isRelease = false)
    {held : List (Handled σ δ τ)} (htenure : tenure past = some held) :
    ∃ camera, HeldSince past camera held ∧
      h.after.attached.activeArray = some camera.characteristics.activeArray ∧
      h.after.attached.draft.map Draft.untargeted =
        some ⟨.ofSettings camera.characteristics.activeArray (applied (h :: held))⟩ ∧
      ∀ x ∈ h.submissions, h.message.submits? = some (x.listener, x.request.trigger, x.repeats) ∧
        x.request = { Request.ofSettings camera.characteristics.activeArray (applied (h :: held)) with
          trigger := x.request.trigger } := by
  have hfits : h.before.Fits (tenure past) := htenured.fits
  unfold Sketched before at hr
  dsimp only at hr
  rw [htenure] at hfits hr
  obtain ⟨camera, hheld, harray, hdraft⟩ := hr
  obtain ⟨hdraft', harray', new, hsubmitted, hnew⟩ :=
    (Handled.sketch_step htenured hadopts).advance (decide_eq_true hfits.1) hkept hdraft harray
  rw [← applied_cons] at hdraft' hnew
  refine ⟨camera, hheld, ?_, ?_, ?_⟩
  · rw [← Handled.recorded_attached]
    exact harray'
  · rw [← Handled.recorded_attached]
    exact hdraft'
  · have hsame : h.submissions = new := hsubmitted
    rw [hsame]
    exact hnew

/-- With no camera open there is no draft, and nothing is submitted. -/
theorem Sketched.vacant (hr : (before h past).Sketched) (htenured : Tenured ⟨h.before, past⟩)
    (hadopts : h.adopts = false) (htenure : tenure past = none) :
    h.after.attached.draft = none ∧ h.submissions = [] := by
  unfold Sketched before at hr
  dsimp only at hr
  rw [htenure] at hr
  have hnone : h.before.recorded.sketch.draft = none := congrArg (Option.map Draft.untargeted) hr
  obtain ⟨hdraft, hsubmitted⟩ := (Handled.sketch_step htenured hadopts).idle hnone
  rw [← Handled.recorded_attached]
  exact ⟨Option.map_eq_none_iff.mp hdraft, hsubmitted⟩

/-- Giving up an open camera drops its draft, and nothing is submitted. -/
theorem Tenured.surrenders (htenured : Tenured ⟨h.before, past⟩) (hadopts : h.adopts = false)
    (hrelease : h.message.isRelease) (hopen : h.before.stage ≠ .unopened) :
    h.after.attached.draft = none ∧ h.submissions = [] := by
  obtain ⟨hdraft, hsubmitted⟩ :=
    (Handled.sketch_step htenured hadopts).surrender (decide_eq_true hopen) hrelease
  rw [← Handled.recorded_attached]
  exact ⟨Option.map_eq_none_iff.mp hdraft, hsubmitted⟩

theorem sketched_handle (hfresh : Subsystem.Fresh σ) (htenured : Tenured ⟨h.before, past⟩)
    (hr : (before h past).Sketched) : Sketched ⟨h.after, h :: past⟩ := by
  unfold Sketched
  dsimp only
  cases hadopts : h.adopts with
  | true =>
    obtain ⟨-, callback, camera, hopened, harray, hdraft⟩ :=
      Handled.adopting_sketch hfresh htenured hadopts
    have htenure : tenure (h :: past) = some [] := tenure_adopts hadopts
    rw [htenure]
    exact ⟨camera, ⟨htenure, h, past, callback, rfl, hopened⟩, harray, hdraft⟩
  | false =>
    cases hrelease : h.message.isRelease with
    | true =>
      rw [tenure_releases hadopts hrelease]
      dsimp only
      cases htenure : tenure past with
      | none => exact (hr.vacant htenured hadopts htenure).1
      | some held =>
        have hfits : h.before.Fits (tenure past) := htenured.fits
        rw [htenure] at hfits
        exact (htenured.surrenders hadopts hrelease hfits.1).1
    | false =>
      have hcontinues : tenure (h :: past) = _ := tenure_continues hadopts hrelease
      cases htenure : tenure past with
      | none =>
        rw [htenure] at hcontinues
        rw [hcontinues]
        exact (hr.vacant htenured hadopts htenure).1
      | some held =>
        obtain ⟨camera, ⟨-, adopting, older, callback, hpast, hopened⟩, harray, hdraft, -⟩ :=
          hr.continues htenured hadopts hrelease htenure
        rw [htenure] at hcontinues
        rw [hcontinues]
        refine ⟨camera, ⟨hcontinues, adopting, older, callback, ?_, hopened⟩, harray, hdraft⟩
        rw [hpast]
        rfl

/-- What a message submits is as its kind has it, and made of the settings applied to the camera so far. -/
theorem Sketched.submissions (hfresh : Subsystem.Fresh σ) (htenured : Tenured ⟨h.before, past⟩)
    (hr : (before h past).Sketched) {x : Submission} (hx : x ∈ h.submissions) :
    h.message.submits? = some (x.listener, x.request.trigger, x.repeats) ∧
      ∃ camera held, HeldSince past camera held ∧ x.request =
        { Request.ofSettings camera.characteristics.activeArray (applied (h :: held)) with
          trigger := x.request.trigger } := by
  have hsome : h.submissions ≠ [] := List.ne_nil_of_mem hx
  cases hadopts : h.adopts with
  | true => exact absurd (Handled.adopting_sketch hfresh htenured hadopts).1 hsome
  | false =>
    cases htenure : tenure past with
    | none => exact absurd (hr.vacant htenured hadopts htenure).2 hsome
    | some held =>
      have hfits : h.before.Fits (tenure past) := htenured.fits
      rw [htenure] at hfits
      cases hrelease : h.message.isRelease with
      | true => exact absurd (htenured.surrenders hadopts hrelease hfits.1).2 hsome
      | false =>
        obtain ⟨camera, hheld, -, -, hsubmitted⟩ := hr.continues htenured hadopts hrelease htenure
        obtain ⟨hkind, hrequest⟩ := hsubmitted x hx
        exact ⟨hkind, camera, held, hheld, hrequest⟩

variable [Spontaneous ε σ δ τ]

theorem sketched_meanwhile (r : Run σ δ τ) (move : Move ε) (hr : r.Sketched) :
    Sketched { r with now := r.now.meanwhile move } := by
  have hattached : (r.now.meanwhile move).attached = r.now.attached := by cases move <;> rfl
  unfold Sketched at hr ⊢
  dsimp only
  rw [hattached]
  exact hr

/-- Every request that was submitted is made of the settings that were handled since the camera was taken
up, the message that submits it included, whatever became of earlier submissions. Only that message decides
on the listener and the trigger, so that no trigger stays behind in a request that repeats. -/
theorem submitted_as_applied (hfresh : Subsystem.Fresh σ) (world : σ) (roster : Roster)
    (historySize : Nat) (moves : List (Move ε)) :
    ∀ h past, (h :: past) <:+ ((start world roster historySize).run moves).past →
      ∀ x ∈ h.submissions,
        h.message.submits? = some (x.listener, x.request.trigger, x.repeats) ∧
        ∃ camera held, HeldSince past camera held ∧ x.request =
          { Request.ofSettings camera.characteristics.activeArray (applied (h :: held)) with
            trigger := x.request.trigger } := by
  obtain ⟨-, -, hbefore⟩ := invariant_tenured Sketched (fun _ => True)
    (fun r move _ hr => sketched_meanwhile r move hr)
    (fun h past htenured hr => sketched_handle hfresh htenured hr) world roster historySize
    (fun move (_ : move ∈ moves) => trivial) rfl
  intro h past hsuffix x hx
  obtain ⟨htenured, hr⟩ := hbefore h past hsuffix
  have hlayered : Tenured ⟨h.before, past⟩ := { htenured with }
  exact hr.submissions hfresh hlayered hx

theorem Simulator.fresh : Subsystem.Fresh Simulator := by
  intro s device template draft hdraft
  have hanswer : (Simulator.draft s device template).2 = .ok draft := hdraft
  unfold Simulator.draft at hanswer
  split_ifs at hanswer
  cases hanswer
  rfl

/-- Settings that ask for a focus on the middle of the picture. -/
def centred : Settings where
  preview := ⟨640, 480⟩
  photo := ⟨640, 480⟩
  focus := .auto
  focusAreas := [⟨⟨-500, -500, 500, 500⟩, 600⟩]

/-- The torch is turned on; later settings leave the flash alone, and the repeating request that they lead to
is refused. Then the focus is locked. -/
def torchMoves : List Simulator.Move :=
  [.ask (.openCamera 0 0), .handle, .handle, .addTexture,
    .ask (.applySettings { preview := ⟨640, 480⟩, photo := ⟨640, 480⟩, flash := .torch }), .handle,
    .ask (.setPreviewTexture 1), .handle, .handle, .ask (.startPreview none), .handle, .handle,
    .stir (.arm .setRepeating),
    .ask (.applySettings centred), .handle, .ask (.autoFocus none), .handle]

/-- The capture that locks the focus has the torch of the earlier settings, and the focus mode and the focus
region of the later ones. -/
theorem refused_settings_submitted : Subsystem.Fresh Simulator ∧
    ∃ h past x, (h :: past) <:+ (Simulator.run torchMoves).past ∧ x ∈ h.submissions ∧
      x.request.flash = some .torch ∧ x.request.autofocus = some (.ofFocus .auto) ∧
      x.request.focusRegions = [⟨1000, 750, 2000, 1500, 600⟩] ∧
      h.message.submits? = some (x.listener, x.request.trigger, x.repeats) ∧
      ∃ camera held, HeldSince past camera held ∧ x.request =
        { Request.ofSettings camera.characteristics.activeArray (applied (h :: held)) with
          trigger := x.request.trigger } := by
  have hpast := submitted_as_applied Simulator.fresh (Simulator.withDevices ["0", "1"])
    (Roster.empty.update ["0", "1"]) 20 torchMoves
  have hlast := hpast _ _ (List.suffix_refl _) _ (List.mem_singleton_self _)
  have hregions : Metering.regions ⟨0, 0, 4000, 3000⟩ centred.focusAreas =
      [⟨1000, 750, 2000, 1500, 600⟩] := by decide +kernel
  exact ⟨Simulator.fresh, _, _, _, List.suffix_refl _, List.mem_singleton_self _, rfl, rfl, hregions, hlast⟩

end Run

end CameraControl
