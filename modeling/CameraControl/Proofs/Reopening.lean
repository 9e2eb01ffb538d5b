import CameraControl.Proofs.OpenDevice

/-!
Opening a camera again. Once the camera has been released, nothing that a run has left behind stands in the
way: a device that is listed is opened and taken up, as long as neither step is armed to fail. Events that
neither deliver a device nor complain about one change nothing that this depends on.
-/
namespace CameraControl

namespace Custody.Step

variable {δ τ : Type} {κ κ' : Custody δ} {failure : Option Failure} {accepted : List DeviceId}
  {closed : List δ}

theorem mute {event : Event δ τ} (h : κ.Step (.hardware event) none accepted closed κ')
    (hmute : event.isMute) : κ' = κ := by
  have hnone : (Message.hardware event).delivered? = none := Event.opened_of_mute hmute
  cases h with
  | quiet => rfl
  | idle hrelease | released hrelease => cases hrelease
  | stray hdelivered | adopted hdelivered | broken _ hdelivered =>
    cases hnone.symm.trans hdelivered
  | disabled hopening | alreadyOpen _ hopening | accepted hopening => cases hopening
  | complained => cases hmute

/-- Nothing is left of a camera that is given up but what was reported. -/
theorem relinquished {message : Message δ τ} (h : κ.Step message failure accepted closed κ')
    (hrelease : message.isRelease) (hopen : κ.isOpen) :
    κ' = { κ with opener := none, index := 0, isOpen := false, device := none } := by
  cases h with
  | released => rfl
  | idle _ hunopened => rw [hopen] at hunopened; cases hunopened
  | quiet _ hkept | forfeited _ hkept => rw [hrelease] at hkept; cases hkept
  | alreadyOpen _ hopening | disabled hopening | refused _ hopening | accepted hopening =>
    rw [Message.opening_no_release hopening] at hrelease
    cases hrelease
  | stray hdelivered | adopted hdelivered | broken _ hdelivered =>
    rw [Message.delivery_no_release hdelivered] at hrelease
    cases hrelease
  | complained => cases hrelease

end Custody.Step

namespace Controller

variable {σ δ τ : Type} [Subsystem σ δ τ] {c : Controller σ δ τ}

theorem run_cons {message : Message δ τ} {rest : List (Message δ τ)} (hstatus : c.status = .running)
    (hmailbox : c.mailbox = message :: rest) (n : Nat) :
    (c.run (n + 1)).1 = (({ c with mailbox := rest }.handle message).run n).1 := by
  simp only [run, step?, hstatus, hmailbox]

theorem run_empty (hmailbox : c.mailbox = []) (n : Nat) : (c.run n).1 = c := by
  cases n with
  | zero => rfl
  | succ n =>
    have hstep : c.step? = none := by
      unfold step?
      rw [hmailbox]
      cases c.status <;> rfl
    simp only [run, hstep]

/-- A controller at rest carries out what it is asked at once, and then has at most one event to handle that this
had posted. -/
theorem drain_served {c' : Controller σ δ τ} (action : Action) (hstatus : c.status = .running)
    (hmailbox : c.mailbox = []) (hserved : (c.record action.kind).perform action = (c', none)) :
    (c.post (.action action)).drain.1 = (c'.run 1).1 := by
  have hposted : (c.post (.action action)).mailbox = [.action action] := by
    show c.mailbox ++ [.action action] = [.action action]
    rw [hmailbox, List.nil_append]
  have hload : (c.post (.action action)).load = 1 + 1 := congrArg Message.totalWeight hposted
  have hrest : { c.post (.action action) with mailbox := [] } = c := by
    rw [← hmailbox]
    rfl
  have hhandled : c.handle (.action action) = c' := by
    show c.act action = c'
    rw [act_eq, hserved]
    rfl
  unfold drain
  rw [hload, run_cons (c := c.post (.action action)) hstatus hposted, hrest, hhandled]

end Controller

namespace Message

variable {δ τ : Type}

theorem totalWeight_append (xs ys : List (Message δ τ)) :
    totalWeight (xs ++ ys) = totalWeight xs + totalWeight ys := by
  induction xs with
  | nil => exact (Nat.zero_add _).symm
  | cons x xs ih =>
    show x.weight + totalWeight (xs ++ ys) = x.weight + totalWeight xs + totalWeight ys
    rw [ih, Nat.add_assoc]

theorem totalWeight_hardware (events : List (Event δ τ)) :
    totalWeight (events.map .hardware) = events.length := by
  induction events with
  | nil => rfl
  | cons event events ih =>
    show 1 + totalWeight (events.map .hardware) = events.length + 1
    rw [ih, Nat.add_comm]

end Message

namespace Simulator

/-- The controller goes on, and the device can be opened and taken up. -/
structure Serving (c : Controller Simulator Device Session) (id : DeviceId)
    (characteristics : Characteristics) : Prop where
  status : c.status = .running
  listed : c.subsystem.characteristics id = .ok characteristics
  openDevice : .openDevice ∉ c.subsystem.armed
  createDraft : .createDraft ∉ c.subsystem.armed

variable {c c' c'' : Controller Simulator Device Session} {id : DeviceId}
  {characteristics : Characteristics}

namespace Serving

theorem in_list (hc : Serving c id characteristics) : id ∈ c.subsystem.list := by
  have hlisted := hc.listed
  unfold Simulator.characteristics at hlisted
  split at hlisted
  · next found hfound =>
    obtain ⟨before, after, hsplit, -⟩ := List.lookup_eq_some_iff.mp hfound
    exact List.mem_map.mpr ⟨(id, found), by simp [hsplit], rfl⟩
  · cases hlisted

theorem still (hc : Serving c id characteristics) (hstatus : c'.status = c.status)
    (hsubsystem : c'.subsystem = c.subsystem) : Serving c' id characteristics := by
  refine ⟨hstatus.trans hc.status, ?_, ?_, ?_⟩ <;> rw [hsubsystem]
  · exact hc.listed
  · exact hc.openDevice
  · exact hc.createDraft

theorem call (hc : Serving c id characteristics) (q : Call Device Session) :
    Serving (c.call q).1 id characteristics := by
  have haftermath := answer_aftermath c.subsystem q
  refine ⟨hc.status, ?_, fun hmem => hc.openDevice (haftermath.armed hmem),
    fun hmem => hc.createDraft (haftermath.armed hmem)⟩
  have hlisted := hc.listed
  unfold Simulator.characteristics at hlisted ⊢
  rwa [← haftermath.devices] at hlisted

end Serving

/-- Nothing was posted, and any device can still be opened that could be before. -/
structure Calm (c c' : Controller Simulator Device Session) : Prop where
  mailbox : c'.mailbox = c.mailbox
  serving : ∀ {id characteristics}, Serving c id characteristics → Serving c' id characteristics

namespace Calm

theorem still (hstatus : c'.status = c.status) (hmailbox : c'.mailbox = c.mailbox)
    (hsubsystem : c'.subsystem = c.subsystem) : Calm c c' :=
  ⟨hmailbox, fun hc => hc.still hstatus hsubsystem⟩

theorem trans (h : Calm c c') (h' : Calm c' c'') : Calm c c'' :=
  ⟨h'.mailbox.trans h.mailbox, fun hc => h'.serving (h.serving hc)⟩

end Calm

theorem tell_calm {q : Call Device Session} (hposted : (c.subsystem.answer q).posted = []) :
    Calm c (c.tell q) := by
  refine ⟨?_, fun hc => hc.call q⟩
  show c.mailbox ++ (c.subsystem.answer q).posted.map .hardware = c.mailbox
  rw [hposted]
  exact List.append_nil _

theorem closeDevice_calm : Calm c c.closeDevice := by
  unfold Controller.closeDevice
  cases c.attached.device with
  | none => exact .still rfl rfl rfl
  | some device =>
    have hforgotten : Calm c (c.attach { c.attached with device := none }) := .still rfl rfl rfl
    refine hforgotten.trans (tell_calm ?_)
    unfold answer closeDevice
    dsimp only
    split_ifs <;> rfl

theorem abortCaptures_calm {session : Session} : Calm c (c.tell (.abortCaptures session)) := by
  refine tell_calm ?_
  unfold answer abortCaptures
  dsimp only
  split_ifs <;> rfl

theorem closeSession_calm : Calm c c.closeSession := by
  unfold Controller.closeSession
  cases c.attached.session with
  | none => exact .still rfl rfl rfl
  | some session =>
    have hforgotten : Calm c (c.attach { c.attached with session := none }) := .still rfl rfl rfl
    exact hforgotten.trans (abortCaptures_calm.trans (.still rfl rfl rfl))

theorem release_calm : Calm c c.release := by
  unfold Controller.release
  split_ifs
  · exact .still rfl rfl rfl
  · have hreleased : Calm c.closeSession.closeDevice c.closeSession.closeDevice.releaseSurface := by
      unfold Controller.releaseSurface
      split <;> exact .still rfl rfl rfl
    exact closeSession_calm.trans (closeDevice_calm.trans (hreleased.trans (.still rfl rfl rfl)))

theorem reportTo_calm {callback : Option Tag} {report : Tag → Report} :
    Calm c (c.reportTo callback report) := by
  cases callback <;> exact .still rfl rfl rfl

theorem onLens_calm {lens : Lens} : Calm c (c.onLens lens) := by
  have hseen : Calm c { c with lastLens := some lens } := .still rfl rfl rfl
  unfold Controller.onLens
  dsimp only
  split
  · exact hseen
  · split_ifs
    · exact hseen.trans reportTo_calm
    · exact hseen
    · refine .trans ?_ reportTo_calm
      exact .still rfl rfl rfl
    · exact hseen

theorem onTriggerFailed_calm : Calm c c.onTriggerFailed := by
  unfold Controller.onTriggerFailed Controller.reportFocus
  split <;> exact .still rfl rfl rfl

theorem onTriggered_calm : Calm c c.onTriggered := by
  unfold Controller.onTriggered
  split <;> exact .still rfl rfl rfl

theorem onCompleted_calm {listener : Listener} {lens : Option Lens} :
    Calm c (c.onCompleted listener lens) := by
  unfold Controller.onCompleted
  split
  · exact onLens_calm
  · exact .still rfl rfl rfl
  · exact onTriggered_calm
  · exact .still rfl rfl rfl

theorem onConfigured_calm {session : Session} : Calm c (c.onConfigured session) := by
  unfold Controller.onConfigured
  split_ifs
  · exact abortCaptures_calm
  · exact .still rfl rfl rfl

theorem notice_calm {event : Event Device Session} (hmute : event.isMute) : Calm c (c.notice event) := by
  have hcounted : Calm c c.countEvent := .still rfl rfl rfl
  cases event with
  | opened device => cases hmute
  | deviceError code => cases hmute
  | disconnected => exact hcounted
  | configured session => exact hcounted.trans onConfigured_calm
  | configureFailed => exact hcounted
  | active =>
    have hforgotten : Calm c (c.countEvent.attach { c.attached with previewCallback := none }) :=
      .still rfl rfl rfl
    exact hforgotten.trans reportTo_calm
  | completed listener frame lens => exact hcounted.trans onCompleted_calm
  | captureFailed listener frame reason =>
    cases listener with
    | focusTrigger => exact hcounted.trans onTriggerFailed_calm
    | _ => exact hcounted

variable {index : Nat} {callback : Tag}

theorem characteristics_of_listed {s : Simulator} (hlisted : id ∈ s.list) :
    ∃ characteristics, s.characteristics id = .ok characteristics := by
  unfold Simulator.characteristics
  cases hlookup : s.devices.lookup id with
  | some characteristics => exact ⟨characteristics, rfl⟩
  | none =>
    obtain ⟨entry, hentry, rfl⟩ := List.mem_map.mp hlisted
    have hother := List.lookup_eq_none_iff.mp hlookup entry hentry
    simp at hother

/-- Events that are mute are handled without harm, until the rest of the mailbox is next. -/
theorem run_mute {events : List (Event Device Session)} {rest : List (Message Device Session)}
    (hmute : ∀ event ∈ events, event.isMute) (hmailbox : c.mailbox = events.map .hardware ++ rest)
    (hheld : c.attached.device.isSome → c.stage ≠ .unopened) (hc : Serving c id characteristics)
    (n : Nat) :
    ∃ c' : Controller Simulator Device Session, Serving c' id characteristics ∧
      c'.custody = c.custody ∧ c'.mailbox = rest ∧ (c.run (events.length + n)).1 = (c'.run n).1 := by
  induction events generalizing c with
  | nil => exact ⟨c, hc, rfl, hmailbox, by rw [List.length_nil, Nat.zero_add]⟩
  | cons event events ih =>
    obtain ⟨hevent, hevents⟩ := List.forall_mem_cons.mp hmute
    let h : Handled Simulator Device Session :=
      ⟨{ c with mailbox := events.map .hardware ++ rest }, .hardware event⟩
    have hcalm : Calm h.before h.after := notice_calm hevent
    have hcustody : h.after.custody = c.custody := (Handled.steps (h := h) hheld).1.mute hevent
    have hafter : h.after.attached.device.isSome → h.after.stage ≠ .unopened := by
      intro hdevice
      have hopen : h.after.custody.isOpen = decide (c.stage ≠ .unopened) := by rw [hcustody]; rfl
      have hsame : h.after.custody.device = c.attached.device := by rw [hcustody]; rfl
      exact (decide_eq_decide.mp hopen).mpr (hheld (hsame ▸ hdevice))
    obtain ⟨c', hserving, hsame, hrest, hrun⟩ :=
      ih hevents hcalm.mailbox hafter (hcalm.serving (hc.still rfl rfl))
    refine ⟨c', hserving, hsame.trans hcustody, hrest, ?_⟩
    rw [List.length_cons, Nat.add_right_comm, Controller.run_cons hc.status hmailbox]
    exact hrun

theorem openFor_listed {s : Simulator} (harmed : .openDevice ∉ s.armed) (hlisted : id ∈ s.list) :
    s.openFor id =
      { world := { s.note (.openDevice id) with
          openDevice := some id, linked := true, openings := s.openings + 1 }
        posted := [.opened ⟨id, s.openings⟩] } := by
  have hfree : .openDevice ∉ (s.note (.openDevice id)).armed := harmed
  have hknown : id ∈ (s.note (.openDevice id)).list := hlisted
  unfold openFor
  dsimp only
  rw [if_neg hfree, if_neg (not_not_intro hknown)]
  rfl

/-- The opening is accepted, and its device is announced at once. -/
theorem openCamera_accepted (hc : Serving c id characteristics) (hunopened : c.stage = .unopened)
    (hindex : c.roster.deviceId index = .ok (some id)) (callback : Tag) :
    ∃ (device : Device) (c' : Controller Simulator Device Session), device.id = id ∧
      c.openCamera index callback = (c', none) ∧ Serving c' id characteristics ∧
      c'.mailbox = c.mailbox ++ [.hardware (.opened device)] ∧
      c'.custody = { c.custody with opener := some callback, index } := by
  have hanswer : Subsystem.answer c.subsystem (.openDevice id) = _ :=
    openFor_listed hc.openDevice hc.in_list
  have haccepted : ((c.awaiting index callback (some id)).call (.openDevice id)).2 = none := by
    show (Subsystem.answer c.subsystem (.openDevice id)).fault = none
    rw [hanswer]
  refine ⟨⟨id, c.subsystem.openings⟩, ((c.awaiting index callback (some id)).call (.openDevice id)).1,
    rfl, ?_, ?_, ?_, rfl⟩
  · rw [Controller.openCamera_unopened hunopened, hindex]
    dsimp only
    rw [haccepted]
    rfl
  · have hawaiting : Serving (c.awaiting index callback (some id)) id characteristics :=
      hc.still rfl rfl
    exact hawaiting.call _
  · show c.mailbox ++ (Subsystem.answer c.subsystem (.openDevice id)).posted.map .hardware = _
    rw [hanswer]
    rfl

/-- The device that is announced is taken up, and its opener is told. -/
theorem onOpened_adopted {device : Device} (hc : Serving c device.id characteristics)
    (hopener : c.attached.openCallback = some callback) :
    (c.onOpened device).status = .running ∧ (c.onOpened device).mailbox = c.mailbox ∧
      (c.onOpened device).stage = .unconfigured ∧
      (c.onOpened device).outcomes =
        c.outcomes ++ [.opened callback ⟨c.attached.index, characteristics⟩] := by
  have hdraft : Subsystem.draft c.subsystem device .preview = (c.subsystem, .ok (.blank .preview)) :=
    if_neg hc.createDraft
  have hknown : Subsystem.characteristics c.subsystem (Subsystem.idOf Simulator device) =
    .ok characteristics := hc.listed
  unfold Controller.onOpened Controller.populate
  rw [hopener, hknown, hdraft]
  refine ⟨hc.status, rfl, rfl, ?_⟩
  exact congrArg Custody.outcomes (Controller.report_outcome (r := .opened _ _) _ rfl)

theorem act_release (hopen : c.stage ≠ .unopened) : Calm c (c.act .release) ∧
    (c.act .release).custody =
      { c.custody with opener := none, index := 0, isOpen := false, device := none } := by
  have hrecorded : Calm c (c.record .release) := .still rfl rfl rfl
  have hsteps := Handled.steps (h := ⟨c, .action .release⟩) fun _ => hopen
  exact ⟨hrecorded.trans release_calm, hsteps.1.relinquished rfl (decide_eq_true hopen)⟩

/-- From the opening on, while nothing is open: the camera is opened, and its opener is told. -/
theorem run_opening {late : List (Event Device Session)} (hmute : ∀ event ∈ late, event.isMute)
    (hmailbox : c.mailbox = .action (.openCamera index callback) :: late.map .hardware)
    (hc : Serving c id characteristics) (hunopened : c.stage = .unopened)
    (hvacant : c.attached.device = none) (hindex : c.roster.deviceId index = .ok (some id)) (n : Nat) :
    let d := (c.run (late.length + (n + 1) + 1)).1
    d.status = .running ∧ d.mailbox = [] ∧ d.stage = .unconfigured ∧
      d.outcomes = c.outcomes ++ [.opened callback ⟨index, characteristics⟩] := by
  intro d
  obtain ⟨device, c₁, rfl, haccepted, hserving, hposted, hcustody⟩ :=
    openCamera_accepted (c := { c with mailbox := late.map .hardware }.record .openCamera)
      (hc.still rfl rfl) hunopened hindex callback
  have hhandle : { c with mailbox := late.map .hardware }.handle
      (.action (.openCamera index callback)) = c₁ := by
    show Controller.act _ _ = c₁
    rw [Controller.act_eq]
    exact congrArg (Controller.settle .openCamera) haccepted
  have hnone : c₁.attached.device = none := (congrArg Custody.device hcustody).trans hvacant
  obtain ⟨c₂, hserving, hsame, hannounced, hrun⟩ := run_mute hmute hposted
    (fun hheld => absurd hnone (Option.isSome_iff_ne_none.mp hheld)) hserving (n + 1)
  have hasked := hsame.trans hcustody
  have hopener : c₂.attached.openCallback = some callback := congrArg Custody.opener hasked
  have hremembered : c₂.attached.index = index := congrArg Custody.index hasked
  have htold : c₂.outcomes = c.outcomes := congrArg Custody.outcomes hasked
  obtain ⟨hstatus, hempty, hstage, houtcomes⟩ :=
    onOpened_adopted (c := { c₂ with mailbox := [] }.countEvent) (hserving.still rfl rfl) hopener
  have hd : d = ({ c₂ with mailbox := [] } : Controller Simulator Device Session).countEvent.onOpened
      device := by
    show (c.run _).1 = _
    rw [Controller.run_cons hc.status hmailbox, hhandle, hrun,
      Controller.run_cons hserving.status hannounced]
    exact Controller.run_empty hempty n
  rw [hd]
  refine ⟨hstatus, hempty, hstage, houtcomes.trans ?_⟩
  show c₂.outcomes ++ [.opened callback ⟨c₂.attached.index, characteristics⟩] = _
  rw [hremembered, htold]

/-- From the release of an open camera on, until the rest of the mailbox is next. -/
theorem run_release {between : List (Event Device Session)} {rest : List (Message Device Session)}
    (hmute : ∀ event ∈ between, event.isMute)
    (hmailbox : c.mailbox = .action .release :: (between.map .hardware ++ rest))
    (hc : Serving c id characteristics) (hopen : c.stage ≠ .unopened) (n : Nat) :
    ∃ c' : Controller Simulator Device Session, Serving c' id characteristics ∧
      c'.custody = { c.custody with opener := none, index := 0, isOpen := false, device := none } ∧
      c'.mailbox = rest ∧ (c.run (between.length + n + 1)).1 = (c'.run n).1 := by
  let queue : List (Message Device Session) := between.map .hardware ++ rest
  obtain ⟨hcalm, hreleased⟩ := act_release (c := { c with mailbox := queue }) hopen
  have hnone : ({ c with mailbox := queue }.act .release).attached.device = none :=
    congrArg Custody.device hreleased
  obtain ⟨c', hserving, hsame, hrest, hrun⟩ := run_mute hmute hcalm.mailbox
    (fun hheld => absurd hnone (Option.isSome_iff_ne_none.mp hheld)) (hcalm.serving (hc.still rfl rfl)) n
  refine ⟨c', hserving, hsame.trans hreleased, hrest, ?_⟩
  rw [Controller.run_cons hc.status hmailbox]
  exact hrun

/-- Whatever the controller and the simulator have been through, a camera that is given up can be followed
by another one. It takes a device that is listed, and that neither opening it nor taking it up is armed to
fail; nothing that is queued keeps the opener from being told, once, unless it delivers a device or
complains about one. -/
theorem drain_reopens (early between late : List (Event Device Session)) (hstatus : c.status = .running)
    (hopen : c.stage ≠ .unopened)
    (hmailbox : c.mailbox = early.map .hardware ++ .action .release ::
      (between.map .hardware ++ .action (.openCamera index callback) :: late.map .hardware))
    (hmute : ∀ event ∈ early ++ between ++ late, event.isMute)
    (hindex : c.roster.deviceId index = .ok (some id)) (hlisted : id ∈ c.subsystem.list)
    (hopenDevice : .openDevice ∉ c.subsystem.armed)
    (hcreateDraft : .createDraft ∉ c.subsystem.armed) :
    let d := c.drain.1
    d.status = .running ∧ d.mailbox = [] ∧ d.stage = .unconfigured ∧
      ∃ characteristics, c.subsystem.characteristics id = .ok characteristics ∧
        d.outcomes = c.outcomes ++ [.opened callback ⟨index, characteristics⟩] := by
  intro d
  obtain ⟨characteristics, hknown⟩ := characteristics_of_listed hlisted
  simp only [List.mem_append, or_imp, forall_and] at hmute
  obtain ⟨⟨hearly, hbetween⟩, hlate⟩ := hmute
  -- The last of these is one more than it takes, and finds the mailbox empty.
  have hload : c.load = early.length + (between.length + (late.length + (1 + 1) + 1) + 1) := by
    unfold Controller.load
    rw [hmailbox, Message.totalWeight_append, Message.totalWeight_hardware]
    simp only [Message.totalWeight, Message.weight, Message.totalWeight_append,
      Message.totalWeight_hardware]
    omega
  obtain ⟨c₁, hserving₁, hkept, hrest₁, hrun₁⟩ := run_mute hearly hmailbox (fun _ => hopen)
    ⟨hstatus, hknown, hopenDevice, hcreateDraft⟩ (between.length + (late.length + (1 + 1) + 1) + 1)
  have hopen₁ : c₁.stage ≠ .unopened :=
    (decide_eq_decide.mp (congrArg Custody.isOpen hkept)).mpr hopen
  obtain ⟨c₂, hserving₂, hreleased, hrest₂, hrun₂⟩ := run_release hbetween hrest₁ hserving₁ hopen₁
    (late.length + (1 + 1) + 1)
  rw [hkept] at hreleased
  have hunopened : c₂.stage = .unopened :=
    not_not.mp (of_decide_eq_false (congrArg Custody.isOpen hreleased))
  have hroster : c₂.roster = c.roster := congrArg Custody.roster hreleased
  have houtcomes : c₂.outcomes = c.outcomes := congrArg Custody.outcomes hreleased
  obtain ⟨hrunning, hempty, hstage, htold⟩ := run_opening hlate hrest₂ hserving₂ hunopened
    (congrArg Custody.device hreleased) (hroster ▸ hindex) 1
  have hd : d = (c₂.run (late.length + (1 + 1) + 1)).1 := by
    show (c.run c.load).1 = _
    rw [hload, hrun₁, hrun₂]
  rw [hd]
  exact ⟨hrunning, hempty, hstage, characteristics, hknown, houtcomes ▸ htold⟩

/-- A preview has just been started when a failure closes its device, and its session cannot be aborted. -/
def batteredMoves : List Move :=
  [.install 0, .ask (.openCamera 0 0), .handle, .handle, .addTexture,
    .ask (.applySettings { preview := ⟨640, 480⟩, photo := ⟨640, 480⟩ }), .ask (.setPreviewTexture 1),
    .handle, .handle, .handle, .ask (.startPreview none), .ask .lock, .handle, .handle,
    .stir (.arm .abortCaptures), .ask .release, .ask (.openCamera 1 1)]

theorem battered_reopens :
    let c := (run batteredMoves).now
    c.stage = .previewActive ∧ c.attached.device = none ∧ c.attached.session.isSome ∧
      c.drain.1.stage = .unconfigured ∧ ∃ characteristics,
        c.drain.1.outcomes = c.outcomes ++ [.opened 1 ⟨1, characteristics⟩] := by
  obtain ⟨-, -, hstage, characteristics, -, houtcomes⟩ :=
    drain_reopens (c := (run batteredMoves).now) [.active] [] [] rfl (by decide) rfl (by decide) rfl
      (by decide) (by decide) (by decide)
  exact ⟨rfl, rfl, rfl, hstage, characteristics, houtcomes⟩

end Simulator

end CameraControl
