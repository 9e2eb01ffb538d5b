import CameraControl.Proofs.OpenDevice
import CameraControl.Proofs.Lockstep

/-!
What a released camera leaves to the next one. Events of it that are still queued at the release are handled
while nothing is open and no one is to be told, so they come to nothing, but for the lens state of a frame:
that is remembered. The next camera then goes unreported for the first frame that shows the same passive
lens state, and nothing else is different from what it would be without those events.
-/
namespace CameraControl

/-- The lens state that an event has the controller remember. -/
def Event.lens? {δ τ : Type} : Event δ τ → Option Lens
  | completed .lensState _ lens => lens
  | _ => none

/-- The lens state that is remembered after some events, unless none of them told of one. -/
def lensAfter {δ τ : Type} (events : List (Event δ τ)) : Option Lens :=
  (events.filterMap (·.lens?)).getLast?

theorem lensAfter_concat {δ τ : Type} (events : List (Event δ τ)) (event : Event δ τ) :
    lensAfter (events ++ [event]) = event.lens?.or (lensAfter events) := by
  unfold lensAfter
  rw [List.filterMap_append, List.getLast?_append]
  cases hlens : event.lens? with
  | none => rw [List.filterMap_cons_none hlens]; rfl
  | some lens => rw [List.filterMap_cons_some hlens]; rfl

namespace Controller

variable {σ δ τ : Type} [Subsystem σ δ τ]

/-- With nothing attached, most events come to nothing but a lens state to remember. -/
theorem notice_vacant {c : Controller σ δ τ} (hattached : c.attached = {}) {event : Event δ τ}
    (hopened : event.opened? = none) (hconfigured : ∀ session, event ≠ .configured session) :
    c.notice event = { c.countEvent with lastLens := event.lens?.or c.lastLens } := by
  have hattach : c.countEvent.attach {} = c.countEvent := by
    rw [← hattached]
    rfl
  cases event with
  | opened device => cases hopened
  | configured session => exact absurd rfl (hconfigured session)
  | disconnected => rfl
  | configureFailed => rfl
  | deviceError code =>
    show c.countEvent.reportTo c.attached.openCallback _ = _
    rw [hattached]
    rfl
  | active =>
    show (c.countEvent.attach { c.attached with previewCallback := none }).reportTo
      c.attached.previewCallback _ = _
    rw [hattached, hattach]
    rfl
  | completed listener frame lens =>
    cases listener with
    | lensState =>
      cases lens with
      | none => rfl
      | some lens =>
        show c.countEvent.onLens lens = _
        have hcamera : c.countEvent.attached.camera = none := by
          show c.attached.camera = none
          rw [hattached]
        unfold onLens
        dsimp only
        rw [hcamera]
        rfl
    | focusTrigger =>
      show c.countEvent.onTriggered = _
      have hpending : c.countEvent.attached.pendingFocus = none := by
        show c.attached.pendingFocus = none
        rw [hattached]
      unfold onTriggered
      rw [hpending]
      rfl
    | untracked => rfl
  | captureFailed listener frame reason =>
    cases listener with
    | focusTrigger =>
      show (c.countEvent.attach { c.attached with pendingFocus := none }).reportFocus
        c.attached.pendingFocus false = _
      rw [hattached, hattach]
      rfl
    | _ => rfl

theorem release_status (c : Controller σ δ τ) : c.release.status = c.status := by
  have hsession : c.closeSession.status = c.status := by unfold closeSession; split <;> rfl
  have hdevice (c : Controller σ δ τ) : c.closeDevice.status = c.status := by
    unfold closeDevice
    split <;> rfl
  have hsurface (c : Controller σ δ τ) : c.releaseSurface.status = c.status := by
    unfold releaseSurface
    split <;> rfl
  unfold release
  split_ifs
  · rfl
  · exact (hsurface _).trans ((hdevice _).trans hsession)

end Controller

/-- The run with other messages in the mailbox. -/
def Run.requeue {σ δ τ : Type} (r : Run σ δ τ) (mailbox : List (Message δ τ)) : Run σ δ τ :=
  { r with now := { r.now with mailbox } }

/-- The moves without the first handlings. -/
def Run.skip {ε : Type} : Nat → List (Move ε) → List (Move ε)
  | 0, moves => moves
  | _, [] => []
  | n + 1, .handle :: moves => skip n moves
  | n + 1, move :: moves => move :: skip (n + 1) moves

namespace Simulator

def withJournal (s : Simulator) (journal : List Entry) : Simulator := { s with journal }

/-- The simulator with calls in its journal that came before. -/
def preceded (past : List Entry) (s : Simulator) : Simulator := s.withJournal (past ++ s.journal)

section
variable (past : List Entry) (s : Simulator)

theorem note_preceded (entry : Entry) : (preceded past s).note entry = preceded past (s.note entry) := by
  unfold preceded withJournal note
  rw [List.append_assoc]

theorem result_preceded (listener : Listener) :
    (preceded past s).result listener = (s.result listener).map (preceded past) id := by
  have harmed : (preceded past s).armed = s.armed := rfl
  unfold result
  rw [harmed]
  split_ifs <;> rfl

theorem answer_preceded (q : Call Device Session) :
    (preceded past s).answer q = { s.answer q with world := preceded past (s.answer q).world } := by
  have harmed (s : Simulator) : (preceded past s).armed = s.armed := rfl
  cases q with
  | openDevice id =>
    have hlisted (s : Simulator) : (preceded past s).list = s.list := rfl
    unfold answer openFor
    simp only [note_preceded, harmed, hlisted]
    split_ifs <;> rfl
  | closeDevice device =>
    have hopen (s : Simulator) : (preceded past s).openDevice = s.openDevice := rfl
    unfold answer closeDevice
    simp only [note_preceded, hopen]
    split_ifs <;> rfl
  | createSession device surfaces =>
    unfold answer createSession
    simp only [note_preceded, harmed]
    split_ifs <;> rfl
  | setRepeating session request listener =>
    have hcurrent : (preceded past s).Current session ↔ s.Current session := Iff.rfl
    have hstarted (s : Simulator) : (preceded past s).started = s.started := rfl
    unfold answer setRepeating
    simp only [note_preceded, hcurrent, harmed, hstarted]
    split_ifs <;> rfl
  | stopRepeating session =>
    have hcurrent : (preceded past s).Current session ↔ s.Current session := Iff.rfl
    unfold answer stopRepeating
    simp only [note_preceded, hcurrent, harmed]
    split_ifs <;> rfl
  | capture session request listener =>
    have hcurrent : (preceded past s).Current session ↔ s.Current session := Iff.rfl
    unfold answer capture
    simp only [note_preceded, hcurrent, harmed, result_preceded]
    split_ifs <;> rfl
  | abortCaptures session =>
    have hrepeating (s : Simulator) : (preceded past s).repeating = s.repeating := rfl
    unfold answer abortCaptures
    simp only [note_preceded, harmed, hrepeating]
    split_ifs <;> rfl

/-- What the simulator does by itself has nothing to do with its journal. -/
theorem stir_withJournal (s : Simulator) (journal : List Entry) (stimulus : Stimulus) :
    Spontaneous.stir (s.withJournal journal) stimulus =
      (Spontaneous.stir s stimulus).map (·.withJournal journal) id := by
  cases stimulus with
  | frame =>
    have hrepeating : (s.withJournal journal).repeating = s.repeating := rfl
    have hresult (listener : Listener) : (s.withJournal journal).result listener =
        (s.result listener).map (·.withJournal journal) id := by
      have harmed : (s.withJournal journal).armed = s.armed := rfl
      unfold result
      rw [harmed]
      split_ifs <;> rfl
    show (s.withJournal journal).emitFrame = s.emitFrame.map (·.withJournal journal) id
    unfold emitFrame
    rw [hrepeating]
    rcases s.repeating with _ | ⟨generation, listener⟩
    · rfl
    · have hlinked : (s.withJournal journal).linked = s.linked := rfl
      dsimp only
      rw [hresult, hlinked]
      split_ifs <;> rfl
  | arm op =>
    have hsame : (s.withJournal journal).armed = s.armed := rfl
    have harmed : (s.withJournal journal).arm op = (s.arm op).withJournal journal := by
      unfold arm
      rw [hsame]
      split_ifs <;> rfl
    exact Prod.ext harmed rfl
  | disconnect =>
    show (s.withJournal journal).disconnect = s.disconnect.map (·.withJournal journal) id
    unfold disconnect
    have hopen : (s.withJournal journal).openDevice = s.openDevice := rfl
    rw [hopen]
    cases s.openDevice <;> rfl
  | _ => rfl

theorem stir_preceded (stimulus : Stimulus) : Spontaneous.stir (preceded past s) stimulus =
    (Spontaneous.stir s stimulus).map (preceded past) id := by
  have hown : Spontaneous.stir s stimulus =
    (Spontaneous.stir s stimulus).map (·.withJournal s.journal) id := stir_withJournal s s.journal stimulus
  have hkept : (Spontaneous.stir s stimulus).1.journal = s.journal := by
    rw [hown]
    rfl
  unfold preceded
  rw [stir_withJournal]
  exact Prod.ext (by rw [Prod.map_fst, Prod.map_fst, hkept]) rfl

end

theorem draft_preceded (past : List Entry) (s : Simulator) (device : Device) (template : Template) :
    (preceded past s).draft device template = (s.draft device template).map (preceded past) id := by
  have harmed : (preceded past s).armed = s.armed := rfl
  unfold draft
  rw [harmed]
  split_ifs <;> rfl

theorem preceded_seamless {g : Guise Simulator Simulator Device Session} {past : List Entry}
    (hworld : g.world = preceded past) (hmailbox : g.mailbox = []) : g.Seamless Stimulus := by
  refine ⟨⟨?_, fun _ => rfl, ?_, ?_⟩, ?_, hmailbox⟩ <;> rw [hworld]
  · exact fun _ _ => rfl
  · exact draft_preceded past
  · exact answer_preceded past
  · exact stir_preceded past

/-- By itself the simulator arms only what it is told to arm. -/
theorem stir_unarmed {s : Simulator} {stimulus : Stimulus} {op : Operation}
    (hother : stimulus ≠ .arm op) (hop : op ∉ s.armed) :
    op ∉ (Spontaneous.stir s stimulus).1.armed := by
  cases stimulus with
  | frame =>
    have hresult (listener : Listener) : op ∉ (s.result listener).1.armed :=
      fun hmem => hop ((s.result_mild listener).armed hmem)
    show op ∉ s.emitFrame.1.armed
    unfold emitFrame
    split
    · split_ifs
      · exact hresult _
      · exact hop
    · exact hop
  | arm armed =>
    have hne : op ≠ armed := fun hsame => hother (hsame ▸ rfl)
    show op ∉ (s.arm armed).armed
    unfold arm
    split_ifs
    · exact hop
    · exact List.not_mem_cons_of_ne_of_not_mem hne hop
  | disconnect =>
    show op ∉ ((s.openDevice.map s.removeDevice).getD s).armed
    cases s.openDevice <;> exact hop
  | _ => exact hop

theorem abortCaptures_noted {s : Simulator} (hs : s.AtRest) (hunarmed : .abortCaptures ∉ s.armed)
    (session : Session) : s.abortCaptures session = { world := s.note .abortCaptures } := by
  have harmed : .abortCaptures ∉ (s.note .abortCaptures).armed := hunarmed
  have hrepeating : (s.note .abortCaptures).repeating = none := hs.repeating
  unfold abortCaptures
  dsimp only
  rw [if_neg harmed, hrepeating]
  rfl

/-- The guise of a controller that lags behind: it has still to handle some events, and its simulator has
another journal. -/
def lag (journal : List Entry) (left : List (Event Device Session)) (events : Nat)
    (lens : Option Lens) : Guise Simulator Simulator Device Session where
  world := (·.withJournal journal)
  mailbox := left.map .hardware
  events := events
  lens := lens

section
variable {c : Controller Simulator Device Session} {journal : List Entry}
  {left : List (Event Device Session)} {events : Nat} {lens : Option Lens}

theorem countEvent_lag : (c.under (lag journal left events lens)).countEvent =
    c.under (lag journal left (events + 1) lens) := by
  unfold Controller.countEvent Controller.under lag
  simp only [Nat.add_right_comm]

/-- A session that comes while nothing is open is aborted, which only goes into the journal. -/
theorem onConfigured_lag {session : Session} (hunopened : c.stage = .unopened)
    (hrest : c.subsystem.AtRest) (hunarmed : .abortCaptures ∉ c.subsystem.armed) :
    (c.under (lag journal left events lens)).onConfigured session =
      c.under (lag (journal ++ [.abortCaptures]) left events lens) := by
  have hstage : (c.under (lag journal left events lens)).stage < .configured := by
    show c.stage < .configured
    rw [hunopened]
    decide
  have hstill : (c.subsystem.withJournal journal).AtRest := ⟨hrest.openDevice, hrest.repeating⟩
  have harmed : .abortCaptures ∉ (c.subsystem.withJournal journal).armed := hunarmed
  have haborted : Subsystem.answer (c.under (lag journal left events lens)).subsystem
      (.abortCaptures session) =
        { world := (c.subsystem.withJournal journal).note .abortCaptures } :=
    abortCaptures_noted hstill harmed session
  unfold Controller.onConfigured
  rw [if_pos hstage]
  unfold Controller.tell Controller.call Controller.postAll
  rw [haborted]
  dsimp only
  rw [List.map_nil, List.append_nil]
  rfl

end

/-- Since a release, one controller has handled some events that the other did not have, and has some more
to handle. -/
structure Trailing (done left : List (Event Device Session))
    (stale fresh : Controller Simulator Device Session) : Prop where
  running : fresh.status = .running
  unopened : fresh.stage = .unopened
  attached : fresh.attached = {}
  lastLens : fresh.lastLens = none
  atRest : fresh.subsystem.AtRest
  /-- A session that is still to be configured can be aborted. -/
  unarmed : (∃ session, .configured session ∈ left) → .abortCaptures ∉ fresh.subsystem.armed
  lags : ∃ journal events, stale = fresh.under (lag journal left events (lensAfter done))

namespace Trailing

variable {done left : List (Event Device Session)} {event : Event Device Session}
  {stale fresh : Controller Simulator Device Session}

theorem meanwhile {move : Move} (h : Trailing done left stale fresh)
    (hmove : (∃ session, .configured session ∈ left) → move ≠ .stir (.arm .abortCaptures)) :
    Trailing done left (stale.meanwhile move) (fresh.meanwhile move) := by
  obtain ⟨journal, events, hstale⟩ := h.lags
  refine ⟨?_, ?_, ?_, ?_, ?_, ?_, journal, events, ?_⟩
  · cases move <;> exact h.running
  · cases move <;> exact h.unopened
  · cases move <;> exact h.attached
  · cases move <;> exact h.lastLens
  · cases move with
    | stir stimulus => exact h.atRest.stir stimulus
    | _ => exact h.atRest
  · intro hleft
    cases move with
    | stir stimulus => exact stir_unarmed (fun harm => hmove hleft (harm ▸ rfl)) (h.unarmed hleft)
    | _ => exact h.unarmed hleft
  · rw [hstale]
    exact Controller.meanwhile_under fresh (fun s => stir_withJournal s journal) move

/-- The event comes to nothing but a lens state to remember, and an entry in the journal. -/
theorem handle (h : Trailing done (event :: left) stale fresh) (hopened : event.opened? = none) :
    Trailing (done ++ [event]) left (stale.proceed (.handle : Move)) fresh := by
  obtain ⟨journal, events, hstale⟩ := h.lags
  have hnoticed : stale.proceed (.handle : Move) =
      (fresh.under (lag journal left events (lensAfter done))).notice event := by
    rw [hstale]
    exact Controller.proceed_cons
      (c := fresh.under (lag journal (event :: left) events (lensAfter done))) h.running rfl
  refine ⟨h.running, h.unopened, h.attached, h.lastLens, h.atRest, ?_, ?_⟩
  · rintro ⟨session, hmem⟩
    exact h.unarmed ⟨session, List.mem_cons_of_mem event hmem⟩
  rw [hnoticed, lensAfter_concat]
  by_cases hconfigured : ∃ session, event = .configured session
  · obtain ⟨session, rfl⟩ := hconfigured
    have hunarmed : .abortCaptures ∉ fresh.subsystem.armed := h.unarmed ⟨session, List.mem_cons_self⟩
    refine ⟨journal ++ [.abortCaptures], events + 1, ?_⟩
    show Controller.onConfigured (Controller.countEvent _) session = _
    rw [countEvent_lag, onConfigured_lag h.unopened h.atRest hunarmed]
    rfl
  · have hvacant := Controller.notice_vacant
      (c := fresh.under (lag journal left events (lensAfter done))) h.attached hopened
      (not_exists.mp hconfigured)
    refine ⟨journal, events + 1, ?_⟩
    rw [hvacant, countEvent_lag]
    unfold Controller.under
    rw [h.lastLens]
    rfl

/-- Once nothing is left, the two differ in their guise only. -/
theorem caughtUp (h : Trailing done [] stale fresh) :
    ∃ (c : Controller Simulator Device Session) (g g' : Guise Simulator Simulator Device Session),
      g.Apart Stimulus (lensAfter done) g' ∧ stale = c.under g ∧ fresh = c.under g' := by
  obtain ⟨journal, events, rfl⟩ := h.lags
  refine ⟨{ fresh with subsystem := fresh.subsystem.withJournal [] },
    { world := preceded journal, events, lens := lensAfter done },
    { world := preceded fresh.subsystem.journal },
    ⟨preceded_seamless rfl rfl, preceded_seamless rfl rfl, rfl, Or.inl ⟨rfl, Or.inr rfl⟩⟩, ?_, ?_⟩
  · unfold Controller.under lag preceded withJournal
    simp only [List.append_nil, List.map_nil]
  · unfold Controller.under preceded withJournal
    simp only [List.append_nil, List.nil_append, Nat.zero_add, Option.or_none]

theorem reports_agree {later : List Move} (h : Trailing done left stale fresh)
    (hopened : ∀ event ∈ left, event.opened? = none)
    (hlater : (∃ session, .configured session ∈ left) → .stir (.arm .abortCaptures) ∉ later) :
    AgreeButFor (lensAfter (done ++ left)) (later.foldl Controller.proceed stale).reports
      ((Run.skip left.length later).foldl Controller.proceed fresh).reports := by
  induction later generalizing done left stale fresh with
  | nil =>
    obtain ⟨journal, events, rfl⟩ := h.lags
    have hskip : Run.skip left.length ([] : List Move) = [] := by cases left <;> rfl
    rw [hskip]
    exact Or.inl rfl
  | cons move later ih =>
    cases left with
    | nil =>
      obtain ⟨c, g, g', hapart, rfl, rfl⟩ := h.caughtUp
      rw [List.append_nil]
      exact hapart.reports_agree c (move :: later)
    | cons event left =>
      obtain ⟨hevent, hleft⟩ := List.forall_mem_cons.mp hopened
      by_cases hhandle : move = .handle
      · subst hhandle
        have hnext := ih (h.handle hevent) hleft fun ⟨session, hmem⟩ harm =>
          hlater ⟨session, List.mem_cons_of_mem event hmem⟩ (List.mem_cons_of_mem _ harm)
        rwa [List.append_assoc] at hnext
      · have hskip : Run.skip (event :: left).length (move :: later) =
            move :: Run.skip (event :: left).length later := by
          cases move <;> first | rfl | exact absurd rfl hhandle
        rw [hskip, List.foldl_cons, List.foldl_cons, Controller.proceed_meanwhile hhandle,
          Controller.proceed_meanwhile hhandle]
        refine ih (h.meanwhile fun hmem harm => ?_) hopened fun hmem harm => ?_
        · exact hlater hmem (harm ▸ List.mem_cons_self)
        · exact hlater hmem (List.mem_cons_of_mem _ harm)

end Trailing

/-- Right after the release. -/
theorem trailing_release {h : Handled Simulator Device Session}
    {past : List (Handled Simulator Device Session)} {leftovers : List (Event Device Session)}
    {rest : List (Message Device Session)} (htenured : Run.Tenured ⟨h.before, past⟩)
    (hknown : Known (Run.before h past)) (hmessage : h.message = .action .release)
    (hmailbox : h.before.mailbox = leftovers.map .hardware ++ rest)
    (hstatus : h.before.status = .running) (hopen : h.before.stage ≠ .unopened)
    (hawaited : h.before.awaited = [])
    (harmed : (∃ session, .configured session ∈ leftovers) →
      .abortCaptures ∉ h.before.subsystem.armed) :
    Trailing [] leftovers h.after ({ h.before with mailbox := rest }.act .release) := by
  let queued : Guise Simulator Simulator Device Session :=
    { world := id, mailbox := leftovers.map .hardware }
  have hfaithful : queued.Faithful := ⟨fun _ _ => rfl, fun _ => rfl, fun _ _ _ => rfl, fun _ _ => rfl⟩
  have hguised : h.before = { h.before with mailbox := rest }.under queued := by
    unfold Controller.under
    simp only [queued, ← hmailbox, List.nil_append, Nat.zero_add, Option.or_none, id]
  have hafter : h.after = ({ h.before with mailbox := rest }.act .release).under queued := by
    rw [← Controller.act_under hfaithful _ (Or.inl rfl), ← hguised]
    unfold Handled.after
    rw [hmessage]
    rfl
  obtain ⟨hunopened, hattached, hlens⟩ := Controller.release_opened
    (c := { h.before with mailbox := rest }.record .release) hopen
  obtain ⟨hstep, htalk, -⟩ := h.steps htenured.held
  have haccepted : h.accepted = [] := by
    rcases hstep.accepting with hnone | ⟨index, callback, id, hopening, -⟩
    · exact hnone
    · rw [hmessage] at hopening
      cases hopening
  have hrest : h.after.subsystem.AtRest := by
    refine (known_handle htenured hknown).atRest ?_ ?_
    · exact (after_awaited_none htenured haccepted).trans hawaited
    · show h.after.attached.device = none
      rw [hafter]
      exact congrArg Attachment.device hattached
  refine ⟨(Controller.release_status _).trans hstatus, hunopened, hattached, hlens, ?_, ?_, ?_⟩
  · rw [hafter] at hrest
    exact hrest
  · intro hleft hmem
    have hkept := (talk_aftermath htalk).armed
    rw [hafter] at hkept
    exact harmed hleft (hkept hmem)
  · exact ⟨_, 0, hafter⟩

theorem Known.reports_agree {r : Run Simulator Device Session} (htenured : r.Tenured) (hr : Known r)
    {leftovers : List (Event Device Session)} {rest : List (Message Device Session)} {later : List Move}
    (hmailbox : r.now.mailbox = .action .release :: (leftovers.map .hardware ++ rest))
    (hstatus : r.now.status = .running) (hopen : r.now.stage ≠ .unopened) (hawaited : r.now.awaited = [])
    (harmed : (∃ session, .configured session ∈ leftovers) →
      .abortCaptures ∉ r.now.subsystem.armed ∧ .stir (.arm .abortCaptures) ∉ later) :
    AgreeButFor (lensAfter leftovers)
      (later.foldl Controller.proceed (r.now.proceed (.handle : Move))).reports
      ((Run.skip leftovers.length later).foldl Controller.proceed
        ({ r.now with mailbox := .action .release :: rest }.proceed (.handle : Move))).reports := by
  let h : Handled Simulator Device Session :=
    ⟨{ r.now with mailbox := leftovers.map .hardware ++ rest }, .action .release⟩
  have hbefore : r = Run.before h r.past := by
    unfold Run.before
    dsimp only [h]
    rw [← hmailbox]
  have hqueued : h.before.awaited = [] := by
    unfold Controller.awaited at hawaited
    rwa [hmailbox, List.filterMap_cons_none rfl] at hawaited
  have hopened : ∀ event ∈ leftovers, event.opened? = none := by
    unfold Controller.awaited at hqueued
    rw [List.filterMap_append, filterMap_hardware, List.append_eq_nil_iff] at hqueued
    exact List.filterMap_eq_nil_iff.mp hqueued.1
  have hleft (hconfigured : ∃ session, .configured session ∈ leftovers) :
      .abortCaptures ∉ h.before.subsystem.armed := (harmed hconfigured).1
  have hreleased := trailing_release (h := h) { htenured with } (hbefore ▸ hr) rfl rfl hstatus hopen
    hqueued hleft
  have hstale : r.now.proceed (.handle : Move) = h.after := Controller.proceed_cons hstatus hmailbox
  have hfresh : { r.now with mailbox := .action .release :: rest }.proceed (.handle : Move) =
      { h.before with mailbox := rest }.act .release :=
    Controller.proceed_cons (c := { r.now with mailbox := .action .release :: rest }) hstatus rfl
  rw [hstale, hfresh]
  exact hreleased.reports_agree hopened fun hconfigured => (harmed hconfigured).2

/-- Suppose that when an open camera is released, some events are still to be handled. Later reports are the
same as if they had not been, but for one report at most: that the lens moves or has settled, as the last of
those events told of. None of them may deliver a device. If one of them delivers a session, aborting it must
not be armed to fail, for that would then not happen to a later session. -/
theorem isolated_but_for_lens (world : Simulator) (hrest : world.AtRest) (roster : Roster)
    (historySize : Nat) (moves later : List Move) (leftovers : List (Event Device Session))
    (rest : List (Message Device Session)) :
    let r := (Run.start world roster historySize).run moves
    r.now.mailbox = .action .release :: (leftovers.map .hardware ++ rest) →
    r.now.status = .running → r.now.stage ≠ .unopened → r.now.awaited = [] →
    ((∃ session, .configured session ∈ leftovers) →
      .abortCaptures ∉ r.now.subsystem.armed ∧ .stir (.arm .abortCaptures) ∉ later) →
    AgreeButFor (lensAfter leftovers) (r.run (.handle :: later)).now.reports
      ((r.requeue (.action .release :: rest)).run
        (.handle :: Run.skip leftovers.length later)).now.reports := by
  intro r hmailbox hstatus hopen hawaited harmed
  obtain ⟨htenured, hknown, -⟩ := known world hrest roster historySize moves
  rw [r.run_now, (r.requeue _).run_now]
  exact hknown.reports_agree htenured hmailbox hstatus hopen hawaited harmed

/-- A preview is released with a frame of it still to come, on which the lens has settled. -/
def settledMoves : List Move :=
  [.stir (.setLens .passiveFocused), .ask (.openCamera 0 0), .handle, .handle, .addTexture,
    .ask (.applySettings { preview := ⟨640, 480⟩, photo := ⟨640, 480⟩ }), .ask (.setPreviewTexture 1),
    .handle, .handle, .handle, .ask (.startPreview none), .handle, .handle, .ask .release, .stir .frame]

/-- The frame comes, and then another preview, which is watched. -/
def watchedMoves : List Move :=
  [.handle, .ask (.openCamera 0 1), .handle, .handle,
    .ask (.applySettings { preview := ⟨640, 480⟩, photo := ⟨640, 480⟩ }), .ask (.setPreviewTexture 1),
    .handle, .handle, .handle, .ask (.setMoveCallback (some 2)), .ask (.startPreview none), .handle,
    .handle, .handle, .stir .frame, .handle]

theorem watched_isolated_but_for_lens :
    let r := run settledMoves
    r.now.mailbox.length = 2 ∧ AgreeButFor (some .passiveFocused)
      (r.run (.handle :: watchedMoves)).now.reports
      ((r.requeue [.action .release]).run (.handle :: Run.skip 1 watchedMoves)).now.reports := by
  have hagree := isolated_but_for_lens (withDevices ["0", "1"]) (withDevices_atRest _)
    (Roster.empty.update ["0", "1"]) 20 settledMoves watchedMoves
    [.completed .lensState 1 (some .passiveFocused)] [] rfl rfl (by decide) rfl (by simp)
  exact ⟨rfl, hagree⟩

/-- The report that the lens has settled is kept from the second preview. -/
theorem settled_not_isolated :
    let r := run settledMoves
    (r.run (.handle :: watchedMoves)).now.reports ≠
      ((r.requeue [.action .release]).run (.handle :: Run.skip 1 watchedMoves)).now.reports := by
  decide

end Simulator

end CameraControl
