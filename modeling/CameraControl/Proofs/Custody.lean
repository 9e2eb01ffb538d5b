import CameraControl.Proofs.Quiet

/-!
How custody of the camera changes. `handle_steps` lists all the ways in which a message can change it, each
with the devices that the subsystem agreed to open meanwhile and those that it was told to close. It holds
as long as no device is held while nothing is open, which every step preserves.
-/
namespace CameraControl

/-- What handling a message can do to custody. Between the failure of the action, if any, and the custody
afterwards come the devices that are being opened and those that were closed. -/
inductive Custody.Step {δ τ : Type} (κ : Custody δ) :
    Message δ τ → Option Failure → List DeviceId → List δ → Custody δ → Prop
  | quiet {message : Message δ τ} (hopening : message.opening? = none)
      (hrelease : message.isRelease = false) (hdelivered : message.delivered? = none) :
      Step κ message none [] [] κ
  | forfeited {message : Message δ τ} {failure : Failure} (hopening : message.opening? = none)
      (hrelease : message.isRelease = false) (hdelivered : message.delivered? = none) :
      Step κ message (some failure) [] κ.device.toList { κ with device := none }
  | alreadyOpen {message : Message δ τ} {index : Nat} {callback : Tag} (info : String)
      (hopening : message.opening? = some (index, callback)) (hopen : κ.isOpen) :
      Step κ message none [] []
        { κ with outcomes := κ.outcomes ++ [.alreadyOpen callback index info] }
  | disabled {message : Message δ τ} {index : Nat} {callback : Tag}
      (hopening : message.opening? = some (index, callback)) (hopen : κ.isOpen = false) :
      Step κ message none [] [] { κ with
        opener := some callback, index
        outcomes := κ.outcomes ++ [.disabled callback index] }
  | refused {message : Message δ τ} {index : Nat} {callback : Tag} {failure : Failure}
      (info : String) (hopening : message.opening? = some (index, callback))
      (hopen : κ.isOpen = false) :
      Step κ message (some failure) [] [] { κ with
        opener := some callback, index
        outcomes := κ.outcomes ++ [.openFailed callback index info] }
  | accepted {message : Message δ τ} {index : Nat} {callback : Tag} {id : DeviceId}
      (hopening : message.opening? = some (index, callback)) (hopen : κ.isOpen = false)
      (hid : κ.roster.deviceId index = .ok (some id)) :
      Step κ message none [id] [] { κ with opener := some callback, index }
  | released {message : Message δ τ} (hrelease : message.isRelease) (hopen : κ.isOpen) :
      Step κ message none [] κ.device.toList
        { κ with opener := none, index := 0, isOpen := false, device := none }
  | idle {message : Message δ τ} (hrelease : message.isRelease) (hopen : κ.isOpen = false) :
      Step κ message none [] [] κ
  | stray {message : Message δ τ} {device : δ} (hdelivered : message.delivered? = some device)
      (hopener : κ.opener = none) : Step κ message none [] [device] κ
  | adopted {message : Message δ τ} {device : δ} {callback : Tag} {camera : Camera}
      (hdelivered : message.delivered? = some device) (hopener : κ.opener = some callback)
      (hindex : camera.index = κ.index) :
      Step κ message none [] [] { κ with
        isOpen := true, device := some device
        outcomes := κ.outcomes ++ [.opened callback camera] }
  | broken {message : Message δ τ} {device : δ} {callback : Tag} (info : String)
      (hdelivered : message.delivered? = some device) (hopener : κ.opener = some callback) :
      Step κ message none [] [device] { κ with
        outcomes := κ.outcomes ++ [.openFailed callback κ.index info] }
  | complained {code : Int} {callback : Tag} (info : String) (hopener : κ.opener = some callback) :
      Step κ (.hardware (.deviceError code)) none [] [] { κ with
        outcomes := κ.outcomes ++ [.openFailed callback κ.index info] }

namespace Controller

variable {σ δ τ : Type} [Subsystem σ δ τ]

/-- A step of custody, backed by what was said to the subsystem. -/
def Steps (c : Controller (Recorded σ δ τ) δ τ) (message : Message δ τ) (failure : Option Failure)
    (c' : Controller (Recorded σ δ τ) δ τ) : Prop :=
  ∃ accepted closed, c.Deals accepted closed c' ∧
    Custody.Step c.custody message failure accepted closed c'.custody

variable {c c' : Controller (Recorded σ δ τ) δ τ}

theorem Steps.after {message : Message δ τ} {failure : Option Failure}
    {c'' : Controller (Recorded σ δ τ) δ τ} (hquiet : c.Quiet c')
    (h : c'.Steps message failure c'') : c.Steps message failure c'' := by
  obtain ⟨accepted, closed, hdeals, hstep⟩ := h
  rw [hquiet.custody] at hstep
  exact ⟨accepted, closed, hquiet.deals.trans hdeals, hstep⟩

theorem Steps.quietly {message : Message δ τ} {failure : Option Failure}
    {c'' : Controller (Recorded σ δ τ) δ τ} (h : c.Steps message failure c')
    (hquiet : c'.Quiet c'') : c.Steps message failure c'' := by
  obtain ⟨accepted, closed, hdeals, hstep⟩ := h
  rw [← hquiet.custody] at hstep
  exact ⟨accepted, closed, hdeals.quietly hquiet, hstep⟩

theorem Steps.quiet {message : Message δ τ} (hopening : message.opening? = none)
    (hrelease : message.isRelease = false) (hdelivered : message.delivered? = none)
    (h : c.Quiet c') : c.Steps message none c' := by
  refine ⟨[], [], h.deals, ?_⟩
  rw [h.custody]
  exact .quiet hopening hrelease hdelivered

theorem closeDevice_deals : c.Deals [] c.attached.device.toList c.closeDevice := by
  unfold closeDevice
  cases c.attached.device with
  | none => exact .still rfl rfl
  | some device =>
    have hforgotten : c.Deals [] [] (c.attach { c.attached with device := none }) :=
      .still rfl rfl
    exact hforgotten.trans (deals_call (.closeDevice device))

theorem closeDevice_custody : c.closeDevice.custody = { c.custody with device := none } := by
  unfold closeDevice
  cases hdevice : c.attached.device with
  | none =>
    unfold custody
    rw [hdevice]
  | some device => rfl

theorem raise_quiet {failure : Failure} : c.Quiet (c.raise failure) := by
  unfold raise
  cases c.exceptionCallback with
  | none => exact .still rfl rfl rfl
  | some callback => exact .still rfl rfl (c.report_custody rfl)

theorem recover_quiet {kind : Action.Kind} {failure : Failure} :
    (c.countFailure.tidy kind).Quiet (c.recover kind failure) := by
  rw [recover_eq]
  split_ifs
  · exact raise_quiet
  · exact .refl _

/-- A failed action closes the device. -/
theorem recover_forfeits {kind : Action.Kind} {failure : Failure} {message : Message δ τ}
    (hkind : kind.isOpening = false) (hkept : kind ≠ .release) (hopening : message.opening? = none)
    (hrelease : message.isRelease = false) (hdelivered : message.delivered? = none) :
    c.Steps message (some failure) (c.recover kind failure) := by
  have hrecover : (c.countFailure.tidy kind).Quiet (c.recover kind failure) := recover_quiet
  have htidy : c.countFailure.tidy kind = c.countFailure.closeDevice := by
    unfold tidy closeDevice
    rw [hkind, if_neg hkept]
    cases c.countFailure.attached.device <;> rfl
  have hcounted : c.Quiet c.countFailure := .still rfl rfl rfl
  have hcustody : c.countFailure.closeDevice.custody = { c.custody with device := none } :=
    closeDevice_custody
  rw [htidy] at hrecover
  refine ⟨[], c.attached.device.toList,
    (hcounted.deals.trans closeDevice_deals).quietly hrecover, ?_⟩
  rw [hrecover.custody, hcustody]
  exact .forfeited hopening hrelease hdelivered

/-- An opening that failed is reported to its own callback, if nothing was open. -/
theorem recover_refuses {kind : Action.Kind} {failure : Failure} {message : Message δ τ}
    {index : Nat} {callback : Tag} (hkind : kind.isOpening)
    (hopening : message.opening? = some (index, callback)) (hopen : c.custody.isOpen = false)
    (hnone : c.custody.device = none) (hasked : c.Deals [] [] c')
    (hcustody : c'.custody = { c.custody with opener := some callback, index }) :
    c.Steps message (some failure) (c'.recover kind failure) := by
  have hdevice : c'.countFailure.attached.device = none :=
    (congrArg Custody.device hcustody).trans hnone
  have hopener : c'.countFailure.attached.openCallback = some callback :=
    congrArg Custody.opener hcustody
  have hindex : c'.attached.index = index := congrArg Custody.index hcustody
  have htidy : c'.countFailure.tidy kind =
      c'.countFailure.report (.openFailed callback index c'.info) := by
    unfold tidy
    rw [hdevice, if_neg (by simp), if_pos hkind, hopener, ← hindex]
    rfl
  have hrecover : (c'.countFailure.tidy kind).Quiet (c'.recover kind failure) := recover_quiet
  rw [htidy] at hrecover
  have hreported : c'.Deals [] [] (c'.countFailure.report (.openFailed callback index c'.info)) :=
    .still rfl rfl
  refine ⟨[], [], hasked.trans (hreported.quietly hrecover), ?_⟩
  have hcounted : c'.countFailure.custody = c'.custody := rfl
  rw [hrecover.custody, report_outcome _ rfl, hcounted, hcustody]
  exact .refused c'.info hopening hopen

theorem act_quiet_or_forfeits {action : Action} (hopening : action.opening? = none)
    (hkept : action.kind ≠ .release) :
    c.Steps (.action action) (c.failure? (.action action)) (c.act action) := by
  have hkind : action.kind.isOpening = false := by
    cases action <;> first | rfl | cases hopening
  have hrelease : (Message.action (δ := δ) (τ := τ) action).isRelease = false :=
    decide_eq_false hkept
  have hrecorded : c.Quiet (c.record action.kind) := .still rfl rfl rfl
  have hperformed := hrecorded.trans (perform_quiet hopening hkept)
  rw [act_eq]
  unfold failure?
  dsimp only
  generalize (c.record action.kind).perform action = result at hperformed ⊢
  rcases result with ⟨c', _ | failure⟩
  · exact .quiet hopening hrelease rfl hperformed
  · exact .after hperformed (recover_forfeits hkind hkept hopening hrelease rfl)

theorem perform_opening {action : Action} {index : Nat} {callback : Tag}
    (hopening : action.opening? = some (index, callback)) :
    c.perform action = c.openCamera index callback := by
  cases action with
  | openCamera i t => cases hopening; rfl
  | reconnect i t => cases hopening; rfl
  | _ => cases hopening

theorem openCamera_steps {kind : Action.Kind} {message : Message δ τ} {index : Nat} {callback : Tag}
    (hkind : kind.isOpening) (hopening : message.opening? = some (index, callback))
    (hheld : c.attached.device.isSome → c.stage ≠ .unopened) :
    c.Steps message (c.openCamera index callback).2 (settle kind (c.openCamera index callback)) := by
  by_cases hstage : c.stage = .unopened
  · have hopen : c.custody.isOpen = false := decide_eq_false (not_not_intro hstage)
    have hdevice : c.attached.device = none :=
      Option.not_isSome_iff_eq_none.mp fun hsome => hheld hsome hstage
    rw [openCamera_unopened hstage]
    cases hid : c.roster.deviceId index with
    | error failure =>
      exact recover_refuses hkind hopening hopen hdevice (.still rfl rfl) rfl
    | ok slot =>
      cases slot with
      | none =>
        refine ⟨[], [], .still rfl rfl, ?_⟩
        dsimp only [settle]
        rw [report_outcome _ rfl]
        exact .disabled hopening hopen
      | some id =>
        have hawaiting : c.Deals [] [] (c.awaiting index callback (some id)) := .still rfl rfl
        have hcalled := hawaiting.trans (deals_call (.openDevice id))
        have hcustody : ((c.awaiting index callback (some id)).call (.openDevice id)).1.custody =
          { c.custody with opener := some callback, index } := rfl
        dsimp only
        generalize (c.awaiting index callback (some id)).call (.openDevice id) = answer at *
        rcases answer with ⟨c', _ | fault⟩
        · refine ⟨[id], [], hcalled, ?_⟩
          dsimp only [settle, Option.map]
          rw [hcustody]
          exact .accepted hopening hopen hid
        · exact recover_refuses hkind hopening hopen hdevice hcalled hcustody
  · have hopen : c.custody.isOpen := decide_eq_true hstage
    have halready : c.openCamera index callback =
        (c.reject.report (.alreadyOpen callback index (c.history.describe index)), none) :=
      if_pos hstage
    rw [halready]
    refine ⟨[], [], .still rfl rfl, ?_⟩
    dsimp only [settle]
    rw [report_outcome _ rfl]
    exact .alreadyOpen _ hopening hopen

theorem release_steps {message : Message δ τ} (hrelease : message.isRelease) :
    c.Steps message none c.release := by
  unfold release
  split_ifs with hstage
  · exact ⟨[], [], .still rfl rfl, .idle hrelease (decide_eq_false (not_not_intro hstage))⟩
  · have hclosed : c.Deals [] c.attached.device.toList c.closeSession.closeDevice := by
      rw [← closeSession_device]
      exact closeSession_deals.trans closeDevice_deals
    have hcustody : c.closeSession.closeDevice.custody = { c.custody with device := none } := by
      rw [closeDevice_custody, (closeSession_quiet hstage).custody]
    have hreleased : c.closeSession.closeDevice.Quiet c.closeSession.closeDevice.releaseSurface := by
      unfold releaseSurface
      split <;> exact .still rfl rfl rfl
    have hkept := hreleased.custody.trans hcustody
    have hforgotten : (({ c.closeSession.closeDevice.releaseSurface with
        attached := {}, lastLens := none }.enter .unopened).custody) =
        { c.closeSession.closeDevice.releaseSurface.custody with
          opener := none, index := 0, isOpen := false, device := none } := rfl
    refine ⟨[], c.attached.device.toList, ?_, ?_⟩
    · have hdeals : c.Deals [] c.attached.device.toList
        c.closeSession.closeDevice.releaseSurface := hclosed.quietly hreleased
      obtain ⟨xs, htalks, haccepted, hdevices⟩ := hdeals
      exact ⟨xs, ⟨htalks.talk, htalks.record, htalks.mailbox⟩, haccepted, hdevices⟩
    · dsimp only
      rw [hforgotten, hkept]
      exact .released hrelease (decide_eq_true hstage)

theorem draft_quiet {device : δ} {template : Template} :
    c.Quiet { c with subsystem := (Subsystem.draft c.subsystem device template).1 } := by
  refine ⟨⟨[], ⟨?_, ?_, ?_⟩, rfl, rfl⟩, rfl⟩
  · exact .draft device template (.done _)
  · exact (List.append_nil _).symm
  · exact (List.append_nil _).symm

theorem populate_quiet {device : δ} : c.Quiet (c.populate device).1 := by
  have hdraft : c.Quiet { c with subsystem := (Subsystem.draft c.subsystem device .preview).1 } :=
    draft_quiet
  unfold populate
  split
  · exact .refl c
  · generalize Subsystem.draft c.subsystem device .preview = answer at hdraft ⊢
    rcases answer with ⟨world, fault | draft⟩
    · exact hdraft
    · exact hdraft.trans (.still rfl rfl rfl)

theorem populate_index {device : δ} {camera : Camera}
    (hpopulate : (c.populate device).2 = .ok camera) : camera.index = c.attached.index := by
  unfold populate at hpopulate
  split at hpopulate
  · cases hpopulate
  · split at hpopulate
    · cases hpopulate
    · cases hpopulate
      rfl

theorem onOpened_steps {message : Message δ τ} {device : δ}
    (hdelivered : message.delivered? = some device) : c.Steps message none (c.onOpened device) := by
  unfold onOpened
  cases hopener : c.attached.openCallback with
  | none => exact ⟨[], [device], deals_call (.closeDevice device), .stray hdelivered hopener⟩
  | some callback =>
    have hquiet : c.Quiet (c.populate device).1 := populate_quiet
    dsimp only
    split
    · next c' camera hpopulate =>
      rw [hpopulate] at hquiet
      have hindex : camera.index = c.attached.index := populate_index (congrArg Prod.snd hpopulate)
      have hcustody : ((c'.attach { c'.attached with device := some device }).enter
        .unconfigured).custody = { c'.custody with isOpen := true, device := some device } := rfl
      refine ⟨[], [], hquiet.deals.trans (.still rfl rfl), ?_⟩
      rw [report_outcome _ rfl, hcustody, hquiet.custody]
      exact .adopted hdelivered hopener hindex
    · next c' fault hpopulate =>
      rw [hpopulate] at hquiet
      have hindex : c'.attached.index = c.attached.index := congrArg Custody.index hquiet.custody
      have hclosed : c'.Deals [] [device] (c'.tell (.closeDevice device)) :=
        deals_call (.closeDevice device)
      have hcustody : (c'.tell (.closeDevice device)).custody = c'.custody := rfl
      refine ⟨[], [device], hquiet.deals.trans (hclosed.trans (.still rfl rfl)), ?_⟩
      rw [report_outcome _ rfl, hcustody, hquiet.custody, hindex]
      exact .broken _ hdelivered hopener

theorem notice_steps {event : Event δ τ} :
    c.Steps (.hardware event) none (c.notice event) := by
  have hcounted : c.Quiet c.countEvent := .still rfl rfl rfl
  cases event with
  | opened device => exact .after hcounted (onOpened_steps rfl)
  | deviceError code =>
    cases hopener : c.attached.openCallback with
    | none =>
      have hsame : c.notice (.deviceError code) = c.countEvent := by
        show c.countEvent.reportTo c.attached.openCallback _ = _
        rw [hopener]
        rfl
      rw [hsame]
      exact .quiet rfl rfl rfl hcounted
    | some callback =>
      have htold : c.notice (.deviceError code) =
          c.countEvent.report (.openFailed callback c.attached.index c.info) := by
        show c.countEvent.reportTo c.attached.openCallback _ = _
        rw [hopener]
        rfl
      rw [htold]
      refine ⟨[], [], .still rfl rfl, ?_⟩
      rw [report_outcome _ rfl]
      exact .complained c.info hopener
  | disconnected => exact .quiet rfl rfl rfl hcounted
  | configured session => exact .quiet rfl rfl rfl (hcounted.trans onConfigured_quiet)
  | configureFailed => exact .quiet rfl rfl rfl hcounted
  | active => exact .quiet rfl rfl rfl (hcounted.trans onActive_quiet)
  | completed listener frame lens => exact .quiet rfl rfl rfl (hcounted.trans onCompleted_quiet)
  | captureFailed listener frame reason =>
    exact .quiet rfl rfl rfl (hcounted.trans onCaptureFailed_quiet)

theorem act_steps {action : Action} (hheld : c.attached.device.isSome → c.stage ≠ .unopened) :
    c.Steps (.action action) (c.failure? (.action action)) (c.act action) := by
  have hrecorded : c.Quiet (c.record action.kind) := .still rfl rfl rfl
  cases hopening : action.opening? with
  | some asked =>
    obtain ⟨index, callback⟩ := asked
    have hmessage : (Message.action (δ := δ) (τ := τ) action).opening? = some (index, callback) :=
      hopening
    have hkind : action.kind.isOpening := by
      cases action <;> first | rfl | cases hopening
    have hheld' : (c.record action.kind).attached.device.isSome →
      (c.record action.kind).stage ≠ .unopened := hheld
    rw [act_eq]
    unfold failure?
    dsimp only
    rw [perform_opening hopening]
    exact .after hrecorded (openCamera_steps hkind hmessage hheld')
  | none =>
    by_cases hrelease : action.kind = .release
    · have haction : action = .release := by
        cases action <;> first | rfl | cases hrelease
      rw [haction] at hrecorded ⊢
      show c.Steps (.action .release) none (c.record .release).release
      exact .after hrecorded (release_steps rfl)
    · exact act_quiet_or_forfeits hopening hrelease

/-- Every message is a step of custody. -/
theorem handle_steps {message : Message δ τ}
    (hheld : c.attached.device.isSome → c.stage ≠ .unopened) :
    c.Steps message (c.failure? message) (c.handle message) := by
  cases message with
  | action action => exact act_steps hheld
  | hardware event => exact notice_steps
  | barrier ticket => exact .quiet rfl rfl rfl (.still rfl rfl rfl)
  | shutdown =>
    show c.Steps .shutdown none c.shutDown
    unfold shutDown
    dsimp only
    split_ifs with hstage
    · exact ⟨[], [], .still rfl rfl, .idle rfl (decide_eq_false (not_not_intro hstage))⟩
    · have hreleased : c.Steps .shutdown none c.release := release_steps rfl
      exact hreleased.quietly (.still rfl rfl rfl)

end Controller

/-- What handling a message did to custody, and what was said to the subsystem meanwhile. -/
theorem Handled.steps {σ δ τ : Type} [Subsystem σ δ τ] {h : Handled σ δ τ}
    (hheld : h.before.attached.device.isSome → h.before.stage ≠ .unopened) :
    h.before.custody.Step h.message h.failure? h.accepted h.closed h.after.custody ∧
      Talk h.before.subsystem h.recorded.subsystem.record h.after.subsystem ∧
      h.after.mailbox = h.before.mailbox ++
        (h.recorded.subsystem.record.flatMap (·.posted)).map .hardware := by
  have hsteps : h.before.recorded.Steps h.message (h.before.recorded.failure? h.message)
      h.recorded := Controller.handle_steps hheld
  have hfailure : h.before.recorded.failure? h.message = h.failure? := by
    unfold Handled.failure? Controller.failure?
    cases h.message with
    | action action =>
      exact (congrArg Prod.snd
        (Controller.perform_bare (h.before.recorded.record action.kind) action)).symm
    | _ => rfl
  obtain ⟨accepted, closed, ⟨xs, htalks, haccepted, hclosed⟩, hstep⟩ := hsteps
  have hrecord : h.recorded.subsystem.record = xs := htalks.record
  have hafter : h.after = h.recorded.bare := h.recorded_bare.symm
  rw [hfailure] at hstep
  rw [hafter]
  unfold Handled.accepted Handled.closed
  rw [hrecord, haccepted, hclosed]
  exact ⟨hstep, htalks.talk, htalks.mailbox⟩

end CameraControl
