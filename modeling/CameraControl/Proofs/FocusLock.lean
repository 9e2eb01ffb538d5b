import CameraControl.Proofs.Attribution
import CameraControl.Proofs.Rigging

/-!
The lock of the focus, and the callbacks that wait for it. Whether the focus is locked depends on the last
message that had to do with the lock. The callbacks depend on other things: unless the camera is given up,
those that wait go on waiting when the focus is unlocked. So a frame that has a callback told about the lens
may find the focus unlocked, because the request was cancelled or its preview stopped or replaced.
-/
namespace CameraControl

/-- Whether the focus is locked after a call, if the call has to do with the lock. The captures whose results
nobody tracks are those that unlock it. -/
def Exchange.locks? {δ τ : Type} (x : Exchange δ τ) : Option Bool :=
  match x.call with
  | .capture _ _ .focusTrigger => some x.fault.isNone
  | .capture _ _ .untracked => some x.fault.isSome
  | .stopRepeating _ => if x.fault.isNone then some false else none
  | .abortCaptures _ => some false
  | _ => none

namespace Message

variable {δ τ : Type}

/-- A device or a session comes with the message. -/
def delivers : Message δ τ → Bool
  | hardware event => !event.isPassing
  | _ => false

/-- Whether the focus is locked after a message that took these calls, if it had to do with the lock. A device
or a session that is kept, and not sent back at once, begins with the focus unlocked. -/
def locks? (message : Message δ τ) (calls : List (Exchange δ τ)) : Option Bool :=
  if message.delivers then (if calls.isEmpty then some false else none)
  else (calls.filterMap (·.locks?)).head?

variable {message : Message δ τ} {calls : List (Exchange δ τ)}

theorem locks?_of_calls (hdelivers : message.delivers = false) :
    message.locks? calls = (calls.filterMap (·.locks?)).head? := by
  unfold locks?
  rw [hdelivers]
  rfl

theorem delivers_of_passes {stage : Stage} (hpasses : message.Passes stage) : message.delivers = false := by
  cases message with
  | hardware event =>
    have hpassing : event.isPassing = true := hpasses
    show (!event.isPassing) = false
    rw [hpassing]
    rfl
  | _ => rfl

theorem delivers_of_opening (hopening : message.opening?.isSome) : message.delivers = false := by
  cases message with
  | hardware event => cases hopening
  | _ => rfl

theorem delivers_of_release (hrelease : message.isRelease) : message.delivers = false := by
  cases message with
  | hardware event => cases hrelease
  | _ => rfl

end Message

namespace Rig

variable {σ δ τ : Type} {k k' k'' : Rig (Recorded σ δ τ) δ τ}

/-- What the calls from one recorded rig to the next have to do with the lock. -/
def Turns (locks : List Bool) (k k' : Rig (Recorded σ δ τ) δ τ) : Prop :=
  ∃ calls, k'.world.record = k.world.record ++ calls ∧ calls.filterMap (·.locks?) = locks

theorem Turns.silent (hrecord : k'.world.record = k.world.record) : Turns [] k k' :=
  ⟨[], hrecord.trans (List.append_nil _).symm, rfl⟩

theorem Turns.trans {locks locks' : List Bool} (h : Turns locks k k') (h' : Turns locks' k' k'') :
    Turns (locks ++ locks') k k'' := by
  obtain ⟨calls, hrecord, hcalls⟩ := h
  obtain ⟨calls', hrecord', hcalls'⟩ := h'
  refine ⟨calls ++ calls', by rw [hrecord', hrecord, List.append_assoc], ?_⟩
  rw [List.filterMap_append, hcalls, hcalls']

variable [Subsystem σ δ τ]

theorem Turns.call (q : Call δ τ) :
    Turns (Exchange.locks? ⟨q, k.fault q, (Subsystem.answer k.world q).posted⟩).toList k (k.call q) := by
  refine ⟨[_], rfl, ?_⟩
  show List.filterMap _ [(⟨q, k.fault q, _⟩ : Exchange δ τ)] = _
  cases hlocks : Exchange.locks? ⟨q, k.fault q, (Subsystem.answer k.world q).posted⟩ with
  | none => exact List.filterMap_cons_none hlocks
  | some locked => exact List.filterMap_cons_some hlocks

theorem Turns.closeDevice : Turns [] k k.closeDevice := by
  unfold Rig.closeDevice
  split
  · exact .call _
  · exact .silent rfl

/-- A session that is given up takes the lock with it. -/
theorem Turns.closeSession : Turns (k.session.toList.map fun _ => false) k k.closeSession := by
  unfold Rig.closeSession
  cases hsession : k.session with
  | none => exact .silent rfl
  | some session => exact .call (k := { k with session := none }) (.abortCaptures session)

theorem Turns.createSession : Turns [] k k.createSession := by
  unfold Rig.createSession
  split
  · exact .call _
  · exact .silent rfl

/-- The stage says that the focus is locked. -/
def isLocked (k : Rig σ δ τ) : Bool := k.stage = .focusLocked

omit [Subsystem σ δ τ] in
theorem isLocked_of_lt {k : Rig σ δ τ} (hstage : k.stage < .focusLocked) : k.isLocked = false := by
  refine decide_eq_false fun heq => ?_
  rw [heq] at hstage
  exact absurd hstage (by decide)

/-- A call whose outcome decides on the stage. -/
theorem submit_isLocked {q : Call δ τ} {accepted refused : Stage} :
    (k.submit q accepted refused).isLocked =
      if (k.fault q).isNone then decide (accepted = .focusLocked) else decide (refused = .focusLocked) := by
  unfold submit isLocked
  dsimp only
  split <;> rfl

omit [Subsystem σ δ τ] in
/-- Unless a message delivers something, it is for its calls to say whether the focus is locked. -/
theorem Turns.locks? {locks : List Bool} {message : Message δ τ} (h : Turns locks k k')
    (hrecord : k.world.record = []) (hdelivers : message.delivers = false) :
    message.locks? k'.world.record = locks.head? := by
  obtain ⟨calls, hcalls, hlocks⟩ := h
  rw [Message.locks?_of_calls hdelivers, hcalls, hrecord, List.nil_append, hlocks]

/-- Every message leaves the focus locked or unlocked as `locks?` has it, or else as it was. -/
theorem Step.isLocked {message : Message δ τ} (h : k.Step message k')
    (hsession : .previewReady ≤ k.stage → k.session.isSome) (hrecord : k.world.record = []) :
    k'.isLocked = (message.locks? k'.world.record).getD k.isLocked := by
  have hturned {locks : List Bool} (hturns : Turns locks k k') (hdelivers : message.delivers = false)
      (hlocked : k'.isLocked = locks.head?.getD k.isLocked) :
      k'.isLocked = (message.locks? k'.world.record).getD k.isLocked := by
    rw [hturns.locks? hrecord hdelivers]
    exact hlocked
  -- A rig without a session is not locked, and otherwise its session is aborted.
  have hclosed : false = (k.session.toList.map fun _ => false).head?.getD k.isLocked := by
    cases hnone : k.session with
    | none =>
      refine (isLocked_of_lt (Nat.lt_of_not_le fun hlocked => ?_)).symm
      have hsome := hsession (Stage.le_trans (by decide) hlocked)
      rw [hnone] at hsome
      cases hsome
    | some session => rfl
  rw [← List.append_nil (k.session.toList.map _)] at hclosed
  cases h with
  | still hpasses => exact hturned (.silent rfl) (Message.delivers_of_passes hpasses) rfl
  | kept => exact hturned (.silent rfl) rfl rfl
  | asked hopening => exact hturned (.call _) (Message.delivers_of_opening hopening) rfl
  | failed =>
    refine hturned .closeDevice rfl ?_
    unfold Rig.closeDevice
    split <;> rfl
  | released hrelease =>
    refine hturned (Turns.closeSession.trans (Turns.closeDevice.trans (.silent ?_)))
      (Message.delivers_of_release hrelease) hclosed
    exact congrArg Recorded.record (releaseSurface_world _)
  | @bound texture size draft =>
    refine hturned (Turns.closeSession.trans (Turns.trans (.silent ?_) .createSession)) rfl ?_
    · exact congrArg Recorded.record (bind_world k.closeSession texture size draft)
    · refine Eq.trans (isLocked_of_lt ?_) hclosed
      rw [createSession_stage, bind_stage]
      exact Nat.lt_trans (k.closeSession_stage hsession) (by decide : Stage.previewReady < .focusLocked)
  | started hstage =>
    refine hturned (.call _) rfl ?_
    rw [submit_isLocked, isLocked_of_lt (by rw [hstage]; decide)]
    split <;> rfl
  | @stopped session hstage =>
    refine hturned (.call (.stopRepeating session)) rfl ?_
    rw [submit_isLocked]
    unfold Exchange.locks?
    dsimp only
    cases k.fault (.stopRepeating session) <;> rfl
  | applied array hstage hidle =>
    refine hturned (.silent rfl) rfl ?_
    have hlow : k.stage < .focusLocked := Nat.lt_trans hidle (by decide : Stage.previewActive < .focusLocked)
    rw [isLocked_of_lt hlow]
    refine isLocked_of_lt ?_
    dsimp only
    split_ifs
    · decide
    · exact hlow
  | resubmitted => exact hturned (.call _) rfl rfl
  | focusing | unlocking =>
    refine hturned (.call _) rfl ?_
    unfold submitTrigger
    rw [submit_isLocked]
    unfold Exchange.locks?
    dsimp only
    split
    · next hnone =>
      rw [Option.isNone_iff_eq_none.mp hnone]
      rfl
    · next hsome =>
      obtain ⟨fault, hfault⟩ := Option.ne_none_iff_exists'.mp (mt Option.isNone_iff_eq_none.mpr hsome)
      rw [hfault]
      rfl
  | @adopted device =>
    show false = (Message.locks? (.hardware (.opened device)) k.world.record).getD _
    rw [hrecord]
    rfl
  | @stray device | @broken device =>
    show _ = (Message.locks? (.hardware (.opened device)) (k.world.record ++ [_])).getD _
    rw [hrecord]
    rfl
  | @discarded session =>
    show _ = (Message.locks? (.hardware (.configured session)) (k.world.record ++ [_])).getD _
    rw [hrecord]
    rfl
  | @configured session =>
    show false = (Message.locks? (.hardware (.configured session)) k.world.record).getD _
    rw [hrecord]
    rfl

/-- A result takes no call. -/
theorem Step.passing_record {event : Event δ τ} (h : k.Step (.hardware event) k')
    (hpassing : event.isPassing) : k'.world.record = k.world.record := by
  cases h with
  | still => rfl
  | asked hopening => cases hopening
  | released hrelease => cases hrelease
  | adopted | stray | broken | discarded | configured => cases hpassing

/-- A request for the focus takes one call at most. -/
theorem Step.focus_record {callback : Option Tag} (h : k.Step (.action (.autoFocus callback)) k') :
    k'.world.record = k.world.record ∨ ∃ x, k'.world.record = k.world.record ++ [x] := by
  cases h with
  | still => exact Or.inl rfl
  | asked hopening => cases hopening
  | failed hkind => cases hkind
  | released hrelease => cases hrelease
  | focusing => exact Or.inr ⟨_, rfl⟩

end Rig

theorem Exchange.locks?_of_isTrigger {δ τ : Type} {x : Exchange δ τ} (hx : x.isTrigger) :
    x.locks? = some x.fault.isNone := by
  obtain ⟨call, fault, posted⟩ := x
  unfold isTrigger at hx
  split at hx
  · next heq =>
    dsimp only at heq
    rw [heq]
    rfl
  · cases hx

/-- Cues come from requests for the focus, from whoever gives the camera up, and from results. -/
theorem Message.cue?_cases {δ τ : Type} {message : Message δ τ} {cue : Cue}
    (hcue : message.cue? = some cue) : (∃ callback, cue = .asked callback) ∨ message.isRelease ∨
      ∃ event, message = .hardware event ∧ event.isPassing := by
  cases message with
  | action action =>
    cases action with
    | autoFocus callback => exact Or.inl ⟨callback, (Option.some.inj hcue).symm⟩
    | release => exact Or.inr (Or.inl rfl)
    | _ => cases hcue
  | hardware event =>
    cases event with
    | completed | captureFailed => exact Or.inr (Or.inr ⟨_, rfl, rfl⟩)
    | _ => cases hcue
  | shutdown => exact Or.inr (Or.inl rfl)
  | barrier => cases hcue

/-- A request that is refused leaves those alone that wait. -/
theorem Focus.Step.refuses {δ τ : Type} {stage : Stage} {k k' : Focus δ τ} {cue : Option Cue}
    (h : k.Step stage cue k') (hcue : ∀ c, cue = some c → ∃ callback, c = .asked callback)
    (hrefused : ∀ x, k'.triggers = k.triggers ++ [x] → x.fault.isSome) :
    k'.pending = k.pending ∧ k'.armed = k.armed := by
  cases h with
  | aside | rejected | refused => exact ⟨rfl, rfl⟩
  | submitted hstage hfault =>
    have hsome := hrefused _ rfl
    rw [hfault] at hsome
    cases hsome
  | triggered | triggerFailed | locked | released =>
    obtain ⟨callback, heq⟩ := hcue _ rfl
    cases heq

variable {ε σ δ τ : Type} [Subsystem σ δ τ]

namespace Handled

/-- Whether the focus is locked after the message, if the message had to do with the lock. -/
def locks? (h : Handled σ δ τ) : Option Bool := h.message.locks? h.recorded.subsystem.record

variable {h : Handled σ δ τ} {past : List (Handled σ δ τ)} {callback : Option Tag}

theorem isLocked (ht : Run.Tenured ⟨h.before, past⟩) :
    h.after.rig.isLocked = h.locks?.getD h.before.rig.isLocked := by
  have hstage : h.recorded.stage = h.after.stage := congrArg Controller.stage h.recorded_bare
  have hstep := (recorded_rigged ht).isLocked ht.layered.session rfl
  have hsame : h.recorded.rig.isLocked = h.after.rig.isLocked := by
    unfold Rig.isLocked
    exact congrArg (fun stage : Stage => decide (stage = .focusLocked)) hstage
  rw [← hsame]
  exact hstep

/-- A result leaves the lock alone. -/
theorem locks?_passing (ht : Run.Tenured ⟨h.before, past⟩) {event : Event δ τ}
    (hmessage : h.message = .hardware event) (hpassing : event.isPassing) : h.locks? = none := by
  have hstep := recorded_rigged ht
  rw [hmessage] at hstep
  have hcalls : h.recorded.subsystem.record = [] := hstep.passing_record hpassing
  have hdelivers : h.message.delivers = false := by
    rw [hmessage]
    show (!event.isPassing) = false
    rw [hpassing]
    rfl
  unfold locks?
  rw [Message.locks?_of_calls hdelivers, hcalls]
  rfl

/-- The trigger of a request is the only call that the request takes. -/
theorem focus_alone (ht : Run.Tenured ⟨h.before, past⟩)
    (hmessage : h.message = .action (.autoFocus callback)) {x : Exchange δ τ}
    (hx : x ∈ h.recorded.subsystem.record) : h.recorded.subsystem.record = [x] := by
  have hstep := recorded_rigged ht
  rw [hmessage] at hstep
  have hcalls : h.recorded.subsystem.record = [] ∨ ∃ y, h.recorded.subsystem.record = [y] :=
    hstep.focus_record
  rcases hcalls with hnone | ⟨y, hone⟩
  · rw [hnone] at hx
    cases hx
  · rw [hone] at hx
    rw [hone, List.mem_singleton.mp hx]

/-- A trigger that is accepted locks the focus. -/
theorem locks?_accepted (ht : Run.Tenured ⟨h.before, past⟩)
    (hmessage : h.message = .action (.autoFocus callback)) {x : Exchange δ τ} (hx : h.triggers = [x])
    (hfault : x.fault = none) : h.locks? = some true := by
  have hmem : x ∈ h.triggers := by
    rw [hx]
    exact List.mem_singleton_self x
  obtain ⟨hrecord, htrigger⟩ := List.mem_filter.mp hmem
  have hlocks : x.locks? = some true := by
    rw [Exchange.locks?_of_isTrigger htrigger, hfault]
    rfl
  unfold locks?
  rw [Message.locks?_of_calls (by rw [hmessage]; rfl), focus_alone ht hmessage hrecord,
    List.filterMap_cons_some hlocks]
  rfl

/-- Unless the camera is given up, those that wait are not told that the focus was unlocked. -/
theorem unlocked_waiting (ht : Run.Tenured ⟨h.before, past⟩) (hattentive : h.before.Attentive)
    (hunlocked : h.locks? = some false) (hkept : h.message.isRelease = false) :
    h.after.attached.pendingFocus = h.before.attached.pendingFocus ∧
      h.after.attached.armedFocus = h.before.attached.armedFocus := by
  have hstep := focus_step ht.layered hattentive
  rw [recorded_focus] at hstep
  refine hstep.refuses ?_ ?_
  · intro cue hcue
    rcases Message.cue?_cases hcue with hasked | hrelease | ⟨event, hmessage, hpassing⟩
    · exact hasked
    · rw [hkept] at hrelease
      cases hrelease
    · rw [locks?_passing ht hmessage hpassing] at hunlocked
      cases hunlocked
  · intro x hx
    have htriggers : h.triggers = [x] := hx
    rcases accepts ht.layered hattentive with ⟨callback, y, hmessage, hy, hfault, -⟩ | ⟨hrefused, -⟩
    · rw [locks?_accepted ht hmessage hy hfault] at hunlocked
      cases hunlocked
    · exact hrefused x (htriggers ▸ List.mem_singleton_self x)

end Handled

namespace Run

/-- A request with the callback was handled that locked the focus, and the camera was not given up since. -/
def LockedFor (past : List (Handled σ δ τ)) (tag : Tag) : Prop :=
  ∃ since q older, past = since ++ q :: older ∧ q.message = .action (.autoFocus (some tag)) ∧
    q.locks? = some true ∧ ∀ e ∈ since, e.message.isRelease = false

/-- The stage says whether the focus is locked, and callbacks wait only for requests that locked it. -/
structure Locking (r : Run σ δ τ) : Prop where
  locked : r.now.rig.isLocked = (r.past.filterMap (·.locks?)).head?.getD false
  pending : ∀ tag, r.now.attached.pendingFocus = some tag → LockedFor r.past tag
  armed : ∀ tag, r.now.attached.armedFocus = some tag → LockedFor r.past tag

variable {h : Handled σ δ τ} {past : List (Handled σ δ τ)} {tag : Tag}

theorem LockedFor.cons (hpast : LockedFor past tag) (hkept : h.message.isRelease = false) :
    LockedFor (h :: past) tag := by
  obtain ⟨since, q, older, hsplit, hasked, hlocks, hsince⟩ := hpast
  refine ⟨h :: since, q, older, congrArg (h :: ·) hsplit, hasked, hlocks, ?_⟩
  exact List.forall_mem_cons.mpr ⟨hkept, hsince⟩

theorem Locking.handle (ht : Tenured ⟨h.before, past⟩) (hattentive : h.before.Attentive)
    (hr : Locking (before h past)) : Locking ⟨h.after, h :: past⟩ := by
  have hstep := Handled.focus_step ht.layered hattentive
  rw [Handled.recorded_focus] at hstep
  refine ⟨?_, ?_, ?_⟩
  · have hbefore : h.before.rig.isLocked = (past.filterMap (·.locks?)).head?.getD false := hr.locked
    show h.after.rig.isLocked = _
    rw [Handled.isLocked ht, hbefore]
    cases hlocks : h.locks? with
    | none => rw [List.filterMap_cons_none hlocks, Option.getD_none]
    | some locked =>
      rw [List.filterMap_cons_some hlocks, List.head?_cons, Option.getD_some, Option.getD_some]
  · intro tag hpending
    have hkept := Handled.waiting_kept ht.layered hattentive (Or.inl hpending)
    rcases Handled.accepts ht.layered hattentive with
      ⟨callback, x, hmessage, hx, hfault, hcallback⟩ | ⟨-, hbefore⟩
    · have htag : callback = some tag := hcallback.symm.trans hpending
      rw [htag] at hmessage
      have hlocks : h.locks? = some true := Handled.locks?_accepted ht hmessage hx hfault
      exact ⟨[], h, past, rfl, hmessage, hlocks, List.forall_mem_nil _⟩
    · exact (hr.pending tag (hbefore tag hpending).1).cons hkept
  · intro tag harmed
    have hkept := Handled.waiting_kept ht.layered hattentive (Or.inr harmed)
    rcases hstep.armed harmed with hbefore | ⟨-, hpending⟩
    · exact (hr.armed tag hbefore).cons hkept
    · exact (hr.pending tag hpending).cons hkept

/-- Whenever a frame has a callback told about the lens, the focus is locked. -/
def ToldLocked (r : Run σ δ τ) : Prop :=
  ∀ h past, (h :: past) <:+ r.past →
    ∀ frame lens, h.message = .hardware (.completed .lensState frame lens) →
      h.told ≠ [] → h.before.stage = .focusLocked

/-- What unlocks the focus leaves those callbacks alone that wait, unless it gives the camera up. A frame has
one told about the lens only if the lens is locked, and only one whose request locked the focus. It finds the
focus locked unless, of what has had to do with the lock since that request, the last has unlocked it. -/
theorem told_locked_unless_unlocked [Spontaneous ε σ δ τ] (world : σ) (roster : Roster) (historySize : Nat)
    (moves : List (Move ε)) :
    let r := (start world roster historySize).run moves
    ∀ h past, (h :: past) <:+ r.past →
      (h.locks? = some false → h.message.isRelease = false →
        h.after.attached.pendingFocus = h.before.attached.pendingFocus ∧
          h.after.attached.armedFocus = h.before.attached.armedFocus) ∧
      ∀ frame lens, h.message = .hardware (.completed .lensState frame (some lens)) →
        ∀ tag sharp, (tag, sharp) ∈ h.told →
          lens.isLocked ∧ sharp = (lens = .focusedLocked : Bool) ∧
          ∃ since q older, past = since ++ q :: older ∧ q.message = .action (.autoFocus (some tag)) ∧
            q.locks? = some true ∧ (∀ e ∈ since, e.message.isRelease = false) ∧
            (h.before.stage = .focusLocked ↔ (since.filterMap (·.locks?)).head? ≠ some false) := by
  intro r h past hsuffix
  have hinvariant := invariant_tenured (fun r => Accounted r ∧ Locking r) (fun _ => True) ?_
    (fun h past ht hr => ⟨hr.1.handle ht, hr.2.handle ht hr.1.attentive⟩) world roster historySize
    (fun move (_ : move ∈ moves) => trivial)
    ⟨⟨fun _ => ⟨rfl, rfl⟩, .nil, nofun, nofun⟩, ⟨rfl, nofun, nofun⟩⟩
  · obtain ⟨ht, haccounted, hr⟩ := hinvariant.2.2 h past hsuffix
    have htenured : Tenured ⟨h.before, past⟩ := { ht with }
    have hattentive : h.before.Attentive := haccounted.attentive
    refine ⟨Handled.unlocked_waiting htenured hattentive, ?_⟩
    intro frame lens hmessage tag sharp htold
    have hcue : h.message.cue? =
        if lens.isLocked then some (.locked (lens = .focusedLocked)) else none := by
      rw [hmessage]
      rfl
    rw [(Handled.told_append htenured.layered hattentive).2.1] at htold
    rw [hcue] at htold
    split_ifs at htold with hlocked
    · rcases Focus.tells_cases htold with ⟨-, hasked | ⟨hfailed, -⟩⟩ | ⟨hsharp, harmed⟩
      · cases hasked
      · cases hfailed
      · have hrequest : LockedFor past tag := hr.armed tag harmed
        obtain ⟨since, q, older, hsplit, hasked, hlocks, hsince⟩ := hrequest
        refine ⟨hlocked, (Cue.locked.inj (Option.some.inj hsharp)).symm, since, q, older, hsplit, hasked,
          hlocks, hsince, ?_⟩
        have hstage : decide (h.before.stage = .focusLocked) =
            (past.filterMap (·.locks?)).head?.getD false := hr.locked
        rw [hsplit, List.filterMap_append, List.filterMap_cons_some hlocks, List.head?_append,
          List.head?_cons] at hstage
        rw [← decide_eq_true_iff (p := h.before.stage = .focusLocked), hstage]
        cases (since.filterMap (·.locks?)).head? with
        | none => simp
        | some locked => simp
    · cases htold
  · intro r move _ ⟨haccounted, hr⟩
    cases move <;> exact ⟨{ haccounted with }, { hr with }⟩

/-- The focus is asked for and then unlocked again, before the lens locks. -/
def cancelledMoves : List Simulator.Move :=
  startedMoves ++ [.ask (.autoFocus (some 5)), .handle, .handle, .ask .cancelAutoFocus, .handle, .handle,
    .stir (.setLens .focusedLocked), .stir .frame, .handle]

/-- The request was cancelled, and its callback is still told about the lens. -/
theorem cancelled_told : ¬ (Simulator.run cancelledMoves).ToldLocked := by
  intro htold
  have hlocked := htold _ _ (List.suffix_refl _) 3 (some .focusedLocked) rfl (by decide)
  cases hlocked

/-- The cancellation leaves the callback armed, and the frame finds the focus unlocked since. -/
theorem cancelled_unlocked :
    ∃ h past, (h :: past) <:+ (Simulator.run cancelledMoves).past ∧ (5, true) ∈ h.told ∧
      h.before.stage = .previewActive ∧
      (∃ since q older, past = since ++ q :: older ∧ q.message = .action (.autoFocus (some 5)) ∧
        q.locks? = some true ∧
        (h.before.stage = .focusLocked ↔ (since.filterMap (·.locks?)).head? ≠ some false)) ∧
      ∃ e older, (e :: older) <:+ (Simulator.run cancelledMoves).past ∧
        e.message = .action .cancelAutoFocus ∧
        e.after.attached.armedFocus = e.before.attached.armedFocus := by
  have hpast := told_locked_unless_unlocked (Simulator.withDevices ["0", "1"])
    (Roster.empty.update ["0", "1"]) 20 cancelledMoves
  obtain ⟨-, -, since, q, older, hsplit, hasked, hlocks, -, hstage⟩ :=
    (hpast _ _ (List.suffix_refl _)).2 _ _ rfl 5 true (List.mem_singleton_self _)
  have hcancelled := ((hpast _ _ ⟨[_, _], rfl⟩).1 rfl rfl).2
  exact ⟨_, _, List.suffix_refl _, List.mem_singleton_self _, rfl,
    ⟨since, q, older, hsplit, hasked, hlocks, hstage⟩, _, _, ⟨[_, _], rfl⟩, rfl, hcancelled⟩

end Run

end CameraControl
