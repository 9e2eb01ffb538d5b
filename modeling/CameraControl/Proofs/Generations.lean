import CameraControl.Proofs.Rigging

/-!
Sessions in flight. The simulator numbers the sessions that it creates and announces each of them once, in
that order, and only the newest can be used. So by the time that a preview is running all sessions have been
announced, and the controller holds the newest: no announcement comes late enough to disturb the preview.
-/
namespace CameraControl

namespace Event

variable {δ τ : Type}

def configured? : Event δ τ → Option τ
  | configured session => some session
  | _ => none

end Event

def Call.createsSession {δ τ : Type} : Call δ τ → Bool
  | createSession _ _ => true
  | _ => false

namespace Simulator

/-- What a simulator does by itself has no bearing on its sessions. -/
def Sessionless (ε : Type) [Spontaneous ε Simulator Device Session] : Prop :=
  ∀ (s : Simulator) (stimulus : ε), (Spontaneous.stir s stimulus).1.generation = s.generation ∧
    (Spontaneous.stir s stimulus).2.filterMap (·.configured?) = []

/-- An answer with which no session is created. -/
structure Barren (s : Simulator) (a : Outcome) : Prop where
  generation : a.world.generation = s.generation
  configured : a.posted.filterMap (·.configured?) = []

section
variable (s : Simulator)

theorem result_barren (listener : Listener) :
    (s.result listener).1.generation = s.generation ∧ (s.result listener).2.configured? = none := by
  unfold result
  split_ifs <;> exact ⟨rfl, rfl⟩

theorem openFor_barren (id : DeviceId) : Barren s (s.openFor id) := by
  unfold openFor
  dsimp only
  split_ifs <;> exact ⟨rfl, rfl⟩

theorem closeDevice_barren (device : Device) : Barren s (s.closeDevice device) := by
  unfold closeDevice
  dsimp only
  split_ifs <;> exact ⟨rfl, rfl⟩

theorem setRepeating_barren (session : Session) (request : Request) (listener : Listener) :
    Barren s (s.setRepeating session request listener) := by
  unfold setRepeating
  dsimp only
  split_ifs <;> exact ⟨rfl, rfl⟩

theorem stopRepeating_barren (session : Session) : Barren s (s.stopRepeating session) := by
  unfold stopRepeating
  split_ifs <;> exact ⟨rfl, rfl⟩

theorem capture_barren (session : Session) (request : Request) (listener : Listener) :
    Barren s (s.capture session request listener) := by
  obtain ⟨hgeneration, hconfigured⟩ := (s.note (.capture request listener)).result_barren listener
  unfold capture
  split_ifs
  · exact ⟨rfl, rfl⟩
  · exact ⟨hgeneration, List.filterMap_cons_none hconfigured⟩
  · exact ⟨rfl, rfl⟩

theorem abortCaptures_barren (session : Session) : Barren s (s.abortCaptures session) := by
  unfold abortCaptures
  dsimp only
  split_ifs <;> exact ⟨rfl, rfl⟩

/-- Only one kind of call is about new sessions. -/
theorem answer_barren {q : Call Device Session} (hq : q.createsSession = false) :
    Barren s (s.answer q) := by
  cases q with
  | openDevice id => exact openFor_barren s id
  | closeDevice device => exact closeDevice_barren s device
  | createSession device surfaces => cases hq
  | setRepeating session request listener => exact setRepeating_barren s session request listener
  | stopRepeating session => exact stopRepeating_barren s session
  | capture session request listener => exact capture_barren s session request listener
  | abortCaptures session => exact abortCaptures_barren s session

theorem draft_generation (device : Device) (template : Template) :
    (s.draft device template).1.generation = s.generation := by
  unfold draft
  split_ifs <;> rfl

/-- A session is created with the next number, and announced, or none is. -/
theorem createSession_barren (device : Device) (surfaces : List SurfaceId) :
    Barren s (s.createSession device surfaces) ∨
      (s.createSession device surfaces).world.generation = s.generation + 1 ∧
        (s.createSession device surfaces).posted = [.configured ⟨s.generation + 1⟩] := by
  unfold createSession
  dsimp only
  split_ifs
  · exact Or.inl ⟨rfl, rfl⟩
  · exact Or.inl ⟨rfl, rfl⟩
  · exact Or.inr ⟨rfl, rfl⟩

theorem setRepeating_current {session : Session} {request : Request} {listener : Listener}
    (hfault : (s.setRepeating session request listener).fault = none) : s.Current session := by
  refine Decidable.byContradiction fun hcurrent => ?_
  unfold setRepeating at hfault
  rw [if_pos hcurrent] at hfault
  cases hfault

end

theorem emitFrame_barren (s : Simulator) :
    Barren s { world := s.emitFrame.1, posted := s.emitFrame.2 } := by
  unfold emitFrame
  split
  · next generation listener hrepeating =>
    obtain ⟨hgeneration, hconfigured⟩ := s.result_barren listener
    split_ifs
    · exact ⟨hgeneration, List.filterMap_cons_none hconfigured⟩
    · exact ⟨rfl, rfl⟩
  · exact ⟨rfl, rfl⟩

theorem stimulus_sessionless : Sessionless Stimulus := by
  intro s stimulus
  cases stimulus with
  | frame => exact ⟨s.emitFrame_barren.generation, s.emitFrame_barren.configured⟩
  | arm op =>
    refine ⟨?_, rfl⟩
    show (s.arm op).generation = s.generation
    unfold arm
    split_ifs <;> rfl
  | deviceError code =>
    refine ⟨rfl, ?_⟩
    show (s.emitDeviceError code).filterMap _ = []
    unfold emitDeviceError
    split_ifs <;> rfl
  | disconnect =>
    constructor
    · show ((s.openDevice.map s.removeDevice).getD s).generation = s.generation
      cases s.openDevice <;> rfl
    · show (if s.linked then [Event.disconnected] else []).filterMap _ = []
      split_ifs <;> rfl
  | _ => exact ⟨rfl, rfl⟩

end Simulator

theorem Message.eq_of_configured {δ τ : Type} {message : Message δ τ} {session : τ}
    (hsession : message.configured? = some session) : message = .hardware (.configured session) := by
  cases message with
  | hardware event =>
    cases event with
    | configured session => cases hsession; rfl
    | _ => cases hsession
  | _ => cases hsession

/-- The sessions that were announced and still have to be taken up. -/
def Rig.pending {σ δ τ : Type} (k : Rig σ δ τ) : List τ := k.mailbox.filterMap (·.configured?)

theorem filterMap_configured {δ τ : Type} (events : List (Event δ τ)) :
    (events.map Message.hardware).filterMap (·.configured?) = events.filterMap (·.configured?) := by
  have hevent (event : Event δ τ) : (Message.hardware event).configured? = event.configured? := by
    cases event <;> rfl
  rw [List.filterMap_map]
  exact congrArg (List.filterMap · events) (funext hevent)

namespace Simulator

/-- The sessions after the `latest` one are in flight, up to the newest. The latest one is held by a preview,
and once that is running no other is in flight. -/
structure InFlight (k : Rig Simulator Device Session) (latest : Nat) : Prop where
  pending : k.pending.map (·.generation) = List.range' (latest + 1) k.pending.length
  newest : k.world.generation = latest + k.pending.length
  session : .previewReady ≤ k.stage → k.session = some ⟨latest⟩
  landed : .previewActive ≤ k.stage → k.pending = []

namespace InFlight

variable {k k' : Rig Simulator Device Session} {latest : Nat}

/-- The same sessions are in flight as before. -/
theorem keep (hk : InFlight k latest) (hpending : k'.pending = k.pending)
    (hgeneration : k'.world.generation = k.world.generation)
    (hsession : .previewReady ≤ k'.stage → k'.session = some ⟨latest⟩)
    (hlanded : .previewActive ≤ k'.stage → k.pending = []) : InFlight k' latest := by
  refine ⟨?_, ?_, hsession, ?_⟩
  · rw [hpending]
    exact hk.pending
  · rw [hpending]
    exact hgeneration.trans hk.newest
  · rw [hpending]
    exact hlanded

/-- Without a preview nothing depends on the session that is held. -/
theorem idle (hk : InFlight k latest) (hpending : k'.pending = k.pending)
    (hgeneration : k'.world.generation = k.world.generation) (hstage : k'.stage < .previewReady) :
    InFlight k' latest := by
  refine hk.keep hpending hgeneration ?_ ?_
  · exact fun hready => absurd hready (Nat.not_le_of_lt hstage)
  · exact fun hactive => absurd (Stage.le_trans (by decide) hactive) (Nat.not_le_of_lt hstage)

theorem call_pending (k : Rig Simulator Device Session) {q : Call Device Session}
    (hq : q.createsSession = false) : (k.call q).pending = k.pending := by
  show (k.mailbox ++ (k.world.answer q).posted.map Message.hardware).filterMap _ = _
  rw [List.filterMap_append, filterMap_configured, (k.world.answer_barren hq).configured,
    List.append_nil]
  rfl

theorem call (hk : InFlight k latest) {q : Call Device Session} (hq : q.createsSession = false) :
    InFlight (k.call q) latest :=
  hk.keep (call_pending k hq) (k.world.answer_barren hq).generation hk.session hk.landed

theorem submit (hk : InFlight k latest) {q : Call Device Session} (hq : q.createsSession = false)
    {accepted refused : Stage} (hsession : k.session = some ⟨latest⟩)
    (haccepted : k.fault q = none → k.pending = [])
    (hrefused : .previewActive ≤ refused → k.pending = []) :
    InFlight (k.submit q accepted refused) latest := by
  unfold Rig.submit
  refine hk.keep (call_pending k hq) (k.world.answer_barren hq).generation (fun _ => hsession) ?_
  dsimp only
  split_ifs with hfault
  · exact fun _ => haccepted (Option.isNone_iff_eq_none.mp hfault)
  · exact hrefused

theorem edit (hk : InFlight k latest) (draft : Option Draft) : InFlight { k with draft } latest :=
  { hk with }

theorem closeDevice (hk : InFlight k latest) : InFlight k.closeDevice latest := by
  unfold Rig.closeDevice
  split
  · next device hdevice =>
    have hforgotten : InFlight { k with device := none } latest := { hk with }
    exact hforgotten.call rfl
  · exact hk

theorem closeSession_stage (hk : InFlight k latest) : k.closeSession.stage < .previewReady :=
  k.closeSession_stage fun hready => by rw [hk.session hready]; rfl

theorem closeSession (hk : InFlight k latest) : InFlight k.closeSession latest := by
  have hstage := hk.closeSession_stage
  unfold Rig.closeSession at hstage ⊢
  split
  · next session hsession =>
    rw [hsession] at hstage
    have hforgotten : InFlight { k with session := none, stage := .configured } latest :=
      hk.idle rfl rfl hstage
    have haborted : InFlight ({ k with session := none, stage := .configured }.call
      (.abortCaptures session)) latest := hforgotten.call rfl
    exact haborted
  · exact hk

theorem releaseSurface (hk : InFlight k latest) : InFlight k.releaseSurface latest := by
  unfold Rig.releaseSurface
  split
  · exact { hk with }
  · exact hk

theorem createSession (hk : InFlight k latest) (hstage : k.stage < .previewReady) :
    InFlight k.createSession latest := by
  unfold Rig.createSession
  split
  · next device surface hdevice hsurface =>
    have hpending : (k.call (.createSession device [surface])).pending =
        k.pending ++ (k.world.createSession device [surface]).posted.filterMap (·.configured?) := by
      show (k.mailbox ++ (k.world.createSession device [surface]).posted.map Message.hardware).filterMap
        _ = _
      rw [List.filterMap_append, filterMap_configured]
      rfl
    rcases k.world.createSession_barren device [surface] with hbarren | ⟨hgeneration, hposted⟩
    · rw [hbarren.configured, List.append_nil] at hpending
      exact hk.idle hpending hbarren.generation hstage
    · rw [hposted] at hpending
      refine ⟨?_, ?_, ?_, ?_⟩
      · rw [hpending, List.map_append, hk.pending, List.length_append]
        show _ = List.range' (latest + 1) (k.pending.length + 1)
        rw [List.range'_1_concat, ← Nat.add_right_comm, ← hk.newest]
        rfl
      · rw [hpending, List.length_append]
        show (k.world.createSession device [surface]).world.generation = _
        rw [hgeneration, hk.newest]
        rfl
      · exact fun hready => absurd hready (Nat.not_le_of_lt hstage)
      · exact fun hactive => absurd (Stage.le_trans (by decide) hactive) (Nat.not_le_of_lt hstage)
  · exact hk

/-- A message that announces no session leaves those that are in flight to be taken up later. -/
theorem step {message : Message Device Session} (hk : InFlight k latest)
    (hother : message.configured? = none) (h : k.Step message k') : InFlight k' latest := by
  have hrunning (hstage : .previewActive ≤ k.stage) : k.session = some ⟨latest⟩ ∧ k.pending = [] :=
    ⟨hk.session (Stage.le_trans (by decide) hstage), hk.landed hstage⟩
  cases h with
  | still | kept => exact hk
  | asked | stray => exact hk.call rfl
  | failed => exact hk.closeDevice
  | released =>
    have hreleased := hk.closeSession.closeDevice.releaseSurface
    have hstage : Stage.unopened < .previewReady := by decide
    exact hreleased.idle rfl rfl hstage
  | @bound texture size draft hstage htexture hdraft =>
    have hclosed := hk.closeSession
    have hresized : InFlight { k.closeSession with
      canvas := k.closeSession.canvas.resize texture size } latest := { hclosed with }
    have hbound : InFlight (k.closeSession.bind texture size draft) latest :=
      { hresized.releaseSurface with }
    refine hbound.createSession ?_
    rw [Rig.bind_stage]
    exact hk.closeSession_stage
  | started hstage hsession =>
    have hheld : k.session = some ⟨latest⟩ := hk.session (hstage ▸ Nat.le_refl _)
    cases hheld.symm.trans hsession
    refine hk.submit rfl hheld ?_ (fun hactive => absurd hactive (by decide))
    intro hfault
    have hcurrent := (setRepeating_current _ hfault).2
    rw [hk.newest] at hcurrent
    exact List.eq_nil_of_length_eq_zero (Nat.add_eq_left.mp hcurrent)
  | stopped hstage hsession =>
    obtain ⟨hheld, hlanded⟩ := hrunning hstage
    exact hk.submit rfl hheld (fun _ => hlanded) (fun _ => hlanded)
  | applied array hstage hidle hdraft =>
    by_cases hready : k.stage < .previewReady
    · rw [if_pos hready]
      have hstage : Stage.configured < .previewReady := by decide
      exact hk.idle rfl rfl hstage
    · rw [if_neg hready]
      exact { hk with }
  | resubmitted array hstage hsession hdraft =>
    exact (hk.edit _).call rfl
  | focusing hstage hsession hdraft | unlocking hstage hsession hdraft =>
    obtain ⟨hheld, hlanded⟩ := hrunning hstage
    exact (hk.edit _).submit rfl hheld (fun _ => hlanded) (fun _ => hlanded)
  | adopted =>
    have hstage : Stage.unconfigured < .previewReady := by decide
    exact hk.idle rfl (draft_generation _ _ _) hstage
  | @broken device =>
    have hdrafted : InFlight (k.drafted device) latest :=
      hk.keep rfl (draft_generation _ _ _) hk.session hk.landed
    exact hdrafted.call rfl
  | discarded | configured => cases hother

/-- A session that is announced now is the next one, and comes before any preview is running. -/
theorem arrival {session : Session}
    (hk : InFlight { k with mailbox := .hardware (.configured session) :: k.mailbox } latest)
    (h : k.Step (.hardware (.configured session)) k') :
    k.stage < .previewActive ∧ InFlight k' (latest + 1) := by
  have hserials := hk.pending
  have hnewest : k.world.generation = latest + (k.pending.length + 1) := hk.newest
  change session.generation :: k.pending.map (·.generation) = List.range' _ (k.pending.length + 1)
    at hserials
  rw [List.range'_succ] at hserials
  obtain ⟨hgeneration, hserials⟩ := List.cons.inj hserials
  rw [Nat.add_comm _ 1, ← Nat.add_assoc] at hnewest
  have hidle : k.stage < .previewActive := by
    refine Nat.lt_of_not_le fun hactive => ?_
    cases hk.landed hactive
  refine ⟨hidle, ?_⟩
  cases h with
  | still hpasses => cases hpasses
  | asked hopening => cases hopening
  | released hrelease => cases hrelease
  | discarded hstage =>
    have hvacant (stage : Stage) (hconfigured : .configured ≤ stage) : ¬ stage ≤ k.stage :=
      fun hle => Nat.not_le_of_lt hstage (Stage.le_trans hconfigured hle)
    have hdropped : InFlight k (latest + 1) :=
      ⟨hserials, hnewest, fun hready => absurd hready (hvacant _ (by decide)),
        fun hactive => absurd hactive (hvacant _ (by decide))⟩
    exact hdropped.call rfl
  | configured hstage =>
    have hready : ¬ Stage.previewActive ≤ .previewReady := by decide
    refine ⟨hserials, hnewest, fun _ => ?_, fun hactive => absurd hactive hready⟩
    exact congrArg (some ∘ Session.mk) hgeneration

end InFlight

section
variable {ε : Type} [Spontaneous ε Simulator Device Session]

theorem inFlight_meanwhile (hsessionless : Sessionless ε) {latest : Nat}
    (r : Run Simulator Device Session) (move : Run.Move ε) (hr : InFlight r.now.rig latest) :
    InFlight (r.now.meanwhile move).rig latest := by
  have hposted (message : Message Device Session) (hother : message.configured? = none) :
      InFlight (r.now.post message).rig latest := by
    refine hr.keep ?_ rfl hr.session hr.landed
    show (r.now.mailbox ++ [message]).filterMap _ = _
    rw [List.filterMap_append, List.filterMap_cons_none hother, List.filterMap_nil, List.append_nil]
    rfl
  cases move with
  | ask action => exact hposted _ rfl
  | barrier ticket => exact hposted _ rfl
  | shutdown => exact hposted _ rfl
  | stir stimulus =>
    obtain ⟨hgeneration, hconfigured⟩ := hsessionless r.now.subsystem stimulus
    refine hr.keep ?_ hgeneration hr.session hr.landed
    show (r.now.mailbox ++ (Spontaneous.stir r.now.subsystem stimulus).2.map Message.hardware).filterMap
      _ = _
    rw [List.filterMap_append, filterMap_configured, hconfigured, List.append_nil]
    rfl
  | _ => exact { hr with }

theorem inFlight_handle {h : Handled Simulator Device Session}
    {past : List (Handled Simulator Device Session)} (htenured : Run.Tenured ⟨h.before, past⟩)
    (hr : ∃ latest, InFlight (Run.before h past).now.rig latest) :
    (h.message.configured?.isSome → h.before.stage < .previewActive) ∧
      ∃ latest, InFlight h.after.rig latest := by
  obtain ⟨latest, hr⟩ := hr
  have hstep := Handled.rigged htenured
  obtain ⟨before, message⟩ := h
  cases hsession : message.configured? with
  | none =>
    have hpending : before.rig.pending = (Run.before ⟨before, message⟩ past).now.rig.pending :=
      (List.filterMap_cons_none hsession).symm
    have hbefore : InFlight before.rig latest := hr.keep hpending rfl hr.session hr.landed
    exact ⟨fun hsome => absurd hsome Bool.false_ne_true, latest, hbefore.step hsession hstep⟩
  | some session =>
    obtain rfl := Message.eq_of_configured hsession
    obtain ⟨hidle, hafter⟩ := InFlight.arrival hr hstep
    exact ⟨fun _ => hidle, latest + 1, hafter⟩

theorem inFlight_start (world : Simulator) (roster : Roster) (historySize : Nat) :
    InFlight (Run.start world roster historySize).now.rig world.generation := by
  have hunopened : ¬ Stage.previewReady ≤ .unopened := by decide
  exact ⟨rfl, rfl, fun hready => absurd hready hunopened, fun _ => rfl⟩

/-- As long as only the controller creates sessions, none is announced while a preview is running, and with
an empty mailbox a preview has the newest session. -/
theorem no_session_announced_while_running (hsessionless : Sessionless ε) (world : Simulator)
    (roster : Roster) (historySize : Nat) (moves : List (Run.Move ε)) :
    let r := (Run.start world roster historySize).run moves
    (∀ h past session, (h :: past) <:+ r.past → h.message = .hardware (.configured session) →
        h.before.stage < .previewActive) ∧
      (r.now.mailbox = [] → .previewReady ≤ r.now.stage →
        r.now.attached.session = some ⟨r.now.subsystem.generation⟩) := by
  intro r
  obtain ⟨-, ⟨latest, hr⟩, hbefore⟩ := Run.invariant_tenured
    (fun r => ∃ latest, InFlight r.now.rig latest) (fun _ => True)
    (fun r move _ ⟨latest, hr⟩ => ⟨latest, inFlight_meanwhile hsessionless r move hr⟩)
    (fun h past htenured hr => (inFlight_handle htenured hr).2) world roster historySize
    (fun move (_ : move ∈ moves) => trivial) ⟨_, inFlight_start world roster historySize⟩
  constructor
  · intro h past session hsuffix hmessage
    obtain ⟨htenured, hflight⟩ := hbefore h past hsuffix
    refine (inFlight_handle { htenured with } hflight).1 ?_
    rw [hmessage]
    rfl
  · intro hempty hready
    have hnone : r.now.rig.pending = [] := by
      show r.now.mailbox.filterMap _ = []
      rw [hempty]
      rfl
    have hnewest : r.now.subsystem.generation = latest := by
      have hgeneration := hr.newest
      rw [hnone] at hgeneration
      exact hgeneration
    rw [hnewest]
    exact hr.session hready

end

/-- The preview moves to a second texture before the session for the first one is announced, and is to be
started in between the two announcements. -/
def overtakenMoves : List Move :=
  [.ask (.openCamera 0 0), .handle, .handle, .addTexture, .addTexture,
    .ask (.applySettings { preview := ⟨640, 480⟩, photo := ⟨640, 480⟩ }), .handle,
    .ask (.setPreviewTexture 1), .ask (.setPreviewTexture 2), .handle, .ask (.startPreview none),
    .handle, .handle, .handle, .handle]

theorem overtaken_session_newest : Sessionless Stimulus ∧
    let r := run overtakenMoves
    r.now.mailbox = [] ∧ .previewReady ≤ r.now.stage ∧ r.now.attached.session = some ⟨2⟩ ∧
      ∃ h past, (h :: past) <:+ r.past ∧ h.message = .hardware (.configured ⟨2⟩) ∧
        h.before.attached.session = some ⟨1⟩ ∧ h.before.stage < .previewActive := by
  obtain ⟨hannounced, hnewest⟩ := no_session_announced_while_running stimulus_sessionless
    (withDevices ["0", "1"]) (Roster.empty.update ["0", "1"]) 20 overtakenMoves
  exact ⟨stimulus_sessionless, rfl, by decide, hnewest rfl (by decide), _, _, List.suffix_refl _, rfl, rfl,
    hannounced _ _ _ (List.suffix_refl _) rfl⟩

end Simulator

end CameraControl
