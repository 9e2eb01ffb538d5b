import CameraControl.Proofs.Triggers

/-!
Whose trigger it was. A trigger result does not name its request, and is taken for that of the callback that
is pending. `attributed_iff_untangled` says when that is right: whenever a result is handled while a callback
is pending, no other result may wait behind it. For a callback that is pending belongs to the latest trigger,
whose result comes last.
-/
namespace CameraControl

/-- A trigger that is accepted is that of the callback that is pending afterwards. Otherwise a callback that
is pending was so before, and no result was handled. -/
theorem Focus.Step.accepted {δ τ : Type} {stage : Stage} {k k' : Focus δ τ} {cue : Option Cue}
    {xs : List (Exchange δ τ)} (h : k.Step stage cue k') (htriggers : k'.triggers = k.triggers ++ xs) :
    (∃ callback x, cue = some (.asked callback) ∧ xs = [x] ∧ x.fault = none ∧ k'.pending = callback) ∨
      ((∀ x ∈ xs, x.fault.isSome) ∧ ∀ tag, k'.pending = some tag →
        k.pending = some tag ∧ cue ≠ some .triggered ∧ cue ≠ some .triggerFailed) := by
  have hsilent (hnone : k.triggers = k.triggers ++ xs) : ∀ x ∈ xs, x.fault.isSome := by
    rw [List.self_eq_append_right.mp hnone]
    exact List.forall_mem_nil _
  cases h with
  | @submitted callback x hstage hfault =>
    exact Or.inl ⟨callback, x, rfl, (List.append_cancel_left htriggers).symm, hfault, rfl⟩
  | @refused callback x hstage hfault =>
    refine Or.inr ⟨?_, fun tag hpending => ⟨hpending, nofun, nofun⟩⟩
    rw [← List.append_cancel_left htriggers]
    exact List.forall_mem_singleton.mpr hfault
  | aside | rejected | locked =>
    exact Or.inr ⟨hsilent htriggers, fun tag hpending => ⟨hpending, nofun, nofun⟩⟩
  | triggered | triggerFailed | released => exact Or.inr ⟨hsilent htriggers, nofun⟩

theorem Focus.Step.arms {δ τ : Type} {stage : Stage} {k k' : Focus δ τ} {tag : Tag}
    (h : k.Step stage (some .triggered) k') (hpending : k.pending = some tag) : k'.armed = some tag := by
  cases h
  show k.pending.or k.armed = some tag
  rw [hpending]
  rfl

namespace Message

variable {δ τ : Type} {message : Message δ τ}

theorem cue?_triggered (hcue : message.cue? = some .triggered) :
    ∃ frame lens, message = .hardware (.completed .focusTrigger frame lens) := by
  cases message with
  | action action => cases action <;> cases hcue
  | hardware event =>
    have hevent : event.cue? = some .triggered := hcue
    unfold Event.cue? at hevent
    split at hevent
    · exact ⟨_, _, rfl⟩
    · split_ifs at hevent
      cases hevent
    · cases hevent
    · cases hevent
  | _ => cases hcue

theorem cue?_triggerFailed (hcue : message.cue? = some .triggerFailed) :
    ∃ frame reason, message = .hardware (.captureFailed .focusTrigger frame reason) := by
  cases message with
  | action action => cases action <;> cases hcue
  | hardware event =>
    have hevent : event.cue? = some .triggerFailed := hcue
    unfold Event.cue? at hevent
    split at hevent
    · cases hevent
    · split_ifs at hevent
      cases hevent
    · exact ⟨_, _, rfl⟩
    · cases hevent
  | _ => cases hcue

/-- The results of triggers are the messages that give the cues of one that completes or fails. -/
theorem triggerResult?_isSome : message.triggerResult?.isSome ↔
    message.cue? = some .triggered ∨ message.cue? = some .triggerFailed := by
  constructor
  · intro hresult
    cases message with
    | hardware event =>
      cases event with
      | completed listener frame lens =>
        cases listener with
        | focusTrigger => exact Or.inl rfl
        | lensState | untracked => cases hresult
      | captureFailed listener frame reason =>
        cases listener with
        | focusTrigger => exact Or.inr rfl
        | lensState | untracked => cases hresult
      | _ => cases hresult
    | _ => cases hresult
  · rintro (hcue | hcue)
    · obtain ⟨frame, lens, rfl⟩ := cue?_triggered hcue
      rfl
    · obtain ⟨frame, reason, rfl⟩ := cue?_triggerFailed hcue
      rfl

theorem triggerResult?_none {cue : Option Cue} (hcue : message.cue? = cue)
    (htriggered : cue ≠ some .triggered) (hfailed : cue ≠ some .triggerFailed) :
    message.triggerResult? = none := by
  refine Option.not_isSome_iff_eq_none.mp fun hresult => ?_
  rcases triggerResult?_isSome.mp hresult with heq | heq
  · exact htriggered (hcue.symm.trans heq)
  · exact hfailed (hcue.symm.trans heq)

end Message

/-- A message has a trigger accepted, that of the callback that is pending afterwards, or it has none
accepted, and a callback that is pending afterwards was so before. -/
theorem Handled.accepts {σ δ τ : Type} [Subsystem σ δ τ] {h : Handled σ δ τ} (hc : h.before.Layered)
    (hattentive : h.before.Attentive) :
    (∃ callback x, h.message = .action (.autoFocus callback) ∧ h.triggers = [x] ∧ x.fault = none ∧
        h.after.attached.pendingFocus = callback) ∨
      ((∀ x ∈ h.triggers, x.fault.isSome) ∧ ∀ tag, h.after.attached.pendingFocus = some tag →
        h.before.attached.pendingFocus = some tag ∧ h.message.triggerResult? = none) := by
  have hstep := focus_step hc hattentive
  rw [recorded_focus] at hstep
  rcases hstep.accepted (List.nil_append _).symm with
    ⟨callback, x, hcue, hx, hfault, hpending⟩ | ⟨hrefused, hpending⟩
  · exact Or.inl ⟨callback, x, Message.cue?_asked hcue, hx, hfault, hpending⟩
  · refine Or.inr ⟨hrefused, fun tag hsome => ?_⟩
    obtain ⟨hbefore, htriggered, hfailed⟩ := hpending tag hsome
    exact ⟨hbefore, Message.triggerResult?_none rfl htriggered hfailed⟩

namespace Simulator

variable {h : Handled Simulator Device Session} {past : List (Handled Simulator Device Session)}

/-- A callback is armed only by the trigger of its own request, and told of a failed trigger only if that is
the one that failed. -/
def Attributed (r : Run Simulator Device Session) : Prop :=
  ∀ h past, (h :: past) <:+ r.past → ∀ tag,
    (h.before.attached.armedFocus ≠ some tag → h.after.attached.armedFocus = some tag →
      ∃ frame lens, h.message = .hardware (.completed .focusTrigger frame lens) ∧
        ∃ q ∈ past, q.message = .action (.autoFocus (some tag)) ∧
          .completed .focusTrigger frame lens ∈ q.answers) ∧
    ∀ frame reason, h.message = .hardware (.captureFailed .focusTrigger frame reason) →
      (tag, false) ∈ h.told →
        ∃ q ∈ past, q.message = .action (.autoFocus (some tag)) ∧
          .captureFailed .focusTrigger frame reason ∈ q.answers

/-- Whenever a trigger result is handled while a callback is pending, no other one waits. -/
def Untangled (r : Run Simulator Device Session) : Prop :=
  ∀ h ∈ r.past, h.message.triggerResult?.isSome → h.before.attached.pendingFocus.isSome →
    h.before.results = []

instance (r : Run Simulator Device Session) : Decidable (Untangled r) :=
  inferInstanceAs (Decidable (∀ h ∈ r.past, _))

/-- The results that wait differ, and the last one is that of the callback that is pending. -/
structure Ordered (r : Run Simulator Device Session) : Prop where
  attentive : r.now.Attentive
  watched : r.now.subsystem.Watched
  bounded : ∀ event ∈ r.now.results, event.number ≤ r.now.subsystem.frame
  distinct : (r.now.results.map (·.number)).Nodup
  pending : ∀ tag, r.now.attached.pendingFocus = some tag →
    ∃ q ∈ r.past, q.message = .action (.autoFocus (some tag)) ∧
      ∃ event, q.answers = [event] ∧ r.now.results.getLast? = some event

theorem before_results : (Run.before h past).now.results =
    h.message.triggerResult?.toList ++ h.before.results := by
  unfold Controller.results
  cases hresult : h.message.triggerResult? with
  | none => exact List.filterMap_cons_none hresult
  | some event => exact List.filterMap_cons_some hresult

/-- What handling a message adds to the results that wait is what its triggers had posted. -/
theorem after_results (ht : Run.Tenured ⟨h.before, past⟩) :
    h.after.results = h.before.results ++ h.answers ∧ h.before.subsystem.frame ≤ h.after.subsystem.frame ∧
      ∀ x ∈ h.triggers, x.isTrigger ∧ Yields h.before.subsystem.frame x h.after.subsystem.frame := by
  obtain ⟨-, htalk, hmailbox⟩ := h.steps ht.held
  obtain ⟨hframe, hyields⟩ := talk_yields htalk
  refine ⟨?_, hframe, ?_⟩
  · unfold Controller.results
    rw [hmailbox, List.filterMap_append, filterMap_triggerResult, results_of_triggers hyields]
    rfl
  · intro x hx
    obtain ⟨hx, htrigger⟩ := List.mem_filter.mp hx
    exact ⟨htrigger, hyields x hx⟩

theorem Ordered.handle (ht : Run.Tenured ⟨h.before, past⟩) (hr : Ordered (Run.before h past)) :
    Ordered ⟨h.after, h :: past⟩ := by
  obtain ⟨-, htalk, -⟩ := h.steps ht.held
  obtain ⟨hresults, hframe, htriggers⟩ := after_results ht
  have hbounded : ∀ event ∈ h.before.results, event.number ≤ h.before.subsystem.frame := by
    intro event hevent
    refine hr.bounded event ?_
    rw [before_results]
    exact List.mem_append_right _ hevent
  have hdistinct : (h.before.results.map (·.number)).Nodup := by
    have hall := hr.distinct
    rw [before_results, List.map_append] at hall
    exact hall.of_append_right
  have hwatched : h.after.subsystem.Watched :=
    talk_watched htalk hr.watched (Handled.submissions_watched ht)
  have hattentive := ht.attentive hr.attentive
  rcases Handled.accepts ht.layered hr.attentive with
    ⟨callback, x, hmessage, hx, hfault, hpending⟩ | ⟨hrefused, hpending⟩
  · obtain ⟨htrigger, hyields⟩ := htriggers x (hx ▸ List.mem_singleton_self x)
    obtain ⟨event, hposted, hresult, hafter, hbefore⟩ := hyields.accepted htrigger hfault
    have hanswers : h.answers = [event] := by
      unfold Handled.answers
      rw [hx, List.flatMap_singleton, hposted]
    rw [hanswers] at hresults
    refine ⟨hattentive, hwatched, ?_, ?_, ?_⟩
    · rw [hresults]
      refine List.forall_mem_append.mpr ⟨?_, List.forall_mem_singleton.mpr hbefore⟩
      exact fun old hold => Nat.le_trans (hbounded old hold) hframe
    · rw [hresults, List.map_append]
      refine hdistinct.append (List.nodup_singleton _) ?_
      intro number hold hnew
      obtain ⟨old, hmem, rfl⟩ := List.mem_map.mp hold
      have hlate := hbounded old hmem
      rw [List.mem_singleton.mp hnew] at hlate
      exact Nat.not_lt_of_le hlate hafter
    · intro tag hsome
      refine ⟨h, List.mem_cons_self, ?_, event, hanswers, ?_⟩
      · rw [hmessage, hpending.symm.trans hsome]
      · rw [hresults, List.getLast?_concat]
  · have hnone : h.answers = [] := by
      refine List.flatMap_eq_nil_iff.mpr fun x hx => ?_
      obtain ⟨htrigger, hyields⟩ := htriggers x hx
      exact hyields.refused htrigger (hrefused x hx)
    rw [hnone, List.append_nil] at hresults
    refine ⟨hattentive, hwatched, ?_, ?_, ?_⟩
    · rw [hresults]
      exact fun old hold => Nat.le_trans (hbounded old hold) hframe
    · rw [hresults]
      exact hdistinct
    · intro tag hsome
      obtain ⟨hbefore, hother⟩ := hpending tag hsome
      obtain ⟨q, hq, hasked, event, hanswers, hlast⟩ := hr.pending tag hbefore
      refine ⟨q, List.mem_cons_of_mem h hq, hasked, event, hanswers, ?_⟩
      rw [before_results, hother] at hlast
      rw [hresults]
      exact hlast

theorem ordered_meanwhile (r : Run Simulator Device Session) (move : Move) (hr : Ordered r) :
    Ordered { r with now := r.now.meanwhile move } := by
  have hposted {message : Message Device Session} (hnone : message.triggerResult? = none) :
      (r.now.post message).results = r.now.results := by
    unfold Controller.results Controller.post
    rw [List.filterMap_append, List.filterMap_cons_none hnone, List.filterMap_nil, List.append_nil]
  have hkeep {c : Controller Simulator Device Session} (hattentive : c.Attentive)
      (hsubsystem : c.subsystem.Watched) (hframe : r.now.subsystem.frame ≤ c.subsystem.frame)
      (hresults : c.results = r.now.results)
      (hpending : c.attached.pendingFocus = r.now.attached.pendingFocus) : Ordered { r with now := c } := by
    refine ⟨hattentive, hsubsystem, ?_, ?_, ?_⟩
    · show ∀ event ∈ c.results, _
      rw [hresults]
      exact fun event hevent => Nat.le_trans (hr.bounded event hevent) hframe
    · show (c.results.map _).Nodup
      rw [hresults]
      exact hr.distinct
    · show ∀ tag, c.attached.pendingFocus = some tag → ∃ q ∈ r.past, _ ∧ ∃ event, _ ∧ c.results.getLast? = _
      rw [hresults, hpending]
      exact hr.pending
  cases move with
  | ask action => exact hkeep hr.attentive hr.watched (Nat.le_refl _) (hposted rfl) rfl
  | barrier ticket => exact hkeep hr.attentive hr.watched (Nat.le_refl _) (hposted rfl) rfl
  | shutdown => exact hkeep hr.attentive hr.watched (Nat.le_refl _) (hposted rfl) rfl
  | stir stimulus =>
    obtain ⟨hwatched, hframe, hnone⟩ := stir_watched stimulus hr.watched
    refine hkeep hr.attentive hwatched hframe ?_ rfl
    show (r.now.mailbox ++ (Spontaneous.stir r.now.subsystem stimulus).2.map Message.hardware).filterMap _ = _
    rw [List.filterMap_append, filterMap_triggerResult, hnone, List.append_nil]
    rfl
  | _ => exact { hr with }

/-- A request that had a trigger accepted is the only one with its callback. -/
theorem owner_unique {past : List (Handled Simulator Device Session)}
    {q q' : Handled Simulator Device Session} {tag : Tag}
    (hdistinct : (past.filterMap (·.message.focusCallback?)).Nodup) (hq : q ∈ past)
    (hq' : q' ∈ past) (hasked : q.message = .action (.autoFocus (some tag)))
    (hasked' : q'.message = .action (.autoFocus (some tag))) : q = q' := by
  have hcallback {e : Handled Simulator Device Session}
      (he : e.message = .action (.autoFocus (some tag))) : e.message.focusCallback? = some tag := by
    rw [he]
    rfl
  obtain ⟨front, back, rfl⟩ := List.append_of_mem hq
  obtain ⟨front', back', hsplit⟩ := List.append_of_mem hq'
  obtain rfl := split_unique hdistinct hsplit (hcallback hasked) (hcallback hasked')
  exact (List.cons.inj (List.append_cancel_left hsplit)).1

namespace Ordered

variable {event : Event Device Session} {tag : Tag}

/-- With nothing behind it, the result that comes is that of the callback that is pending. -/
theorem own (hr : Ordered (Run.before h past)) (hresult : h.message.triggerResult? = some event)
    (hpending : h.before.attached.pendingFocus = some tag) (hnone : h.before.results = []) :
    ∃ q ∈ past, q.message = .action (.autoFocus (some tag)) ∧ event ∈ q.answers := by
  obtain ⟨q, hq, hasked, last, hanswers, hlast⟩ := hr.pending tag hpending
  rw [before_results, hresult, hnone] at hlast
  cases hlast
  exact ⟨q, hq, hasked, hanswers ▸ List.mem_singleton_self _⟩

/-- If it is that of the callback that is pending, nothing waits behind it. -/
theorem alone (hr : Ordered (Run.before h past)) (hresult : h.message.triggerResult? = some event)
    (hpending : h.before.attached.pendingFocus = some tag)
    (hdistinct : (past.filterMap (·.message.focusCallback?)).Nodup)
    (hown : ∃ q ∈ past, q.message = .action (.autoFocus (some tag)) ∧ event ∈ q.answers) :
    h.before.results = [] := by
  obtain ⟨q, hq, hasked, last, hanswers, hlast⟩ := hr.pending tag hpending
  obtain ⟨q', hq', hasked', hmem⟩ := hown
  obtain rfl := owner_unique hdistinct hq hq' hasked hasked'
  rw [hanswers] at hmem
  obtain rfl := List.mem_singleton.mp hmem
  have hdiffer := hr.distinct
  rw [before_results, hresult] at hlast hdiffer
  obtain ⟨hfirst, -⟩ := List.nodup_cons.mp hdiffer
  cases hwaiting : h.before.results with
  | nil => rfl
  | cons next rest =>
    rw [hwaiting] at hlast hfirst
    have hbehind : event ∈ next :: rest := List.mem_of_getLast? hlast
    exact absurd (List.mem_map.mpr ⟨event, hbehind, rfl⟩) hfirst

end Ordered

/-- With distinct callbacks, every callback is armed by its own trigger, and told of a failed one only if
that is its own, exactly if no other trigger result waits whenever one is handled while a callback is
pending. -/
theorem attributed_iff_untangled (world : Simulator) (hrest : world.AtRest) (roster : Roster)
    (historySize : Nat) (moves : List Move)
    (hdistinct : ((moves.filterMap (·.action?)).filterMap (·.focusCallback?)).Nodup) :
    let r := (Run.start world roster historySize).run moves
    Attributed r ↔ Untangled r := by
  intro r
  obtain ⟨-, -, hordered⟩ := Run.invariant_tenured Ordered (fun _ => True)
    (fun r move _ hr => ordered_meanwhile r move hr) (fun h past ht hr => hr.handle ht) world roster
    historySize (fun move (_ : move ∈ moves) => trivial)
    ⟨fun _ => ⟨rfl, rfl⟩, watched_silent hrest.repeating, nofun, List.nodup_nil, nofun⟩
  obtain ⟨-, haccounted⟩ := Run.accounted world roster historySize moves
  have hhandled := Run.handled_distinct world roster historySize moves hdistinct
  constructor
  · intro hattributed h hmem hresult hpending
    obtain ⟨later, past, hsplit⟩ := List.append_of_mem hmem
    have hsuffix : (h :: past) <:+ r.past := ⟨later, hsplit.symm⟩
    obtain ⟨tag, hpending⟩ := Option.isSome_iff_exists.mp hpending
    obtain ⟨ht, hr⟩ := hordered h past hsuffix
    have hpast : (past.filterMap (·.message.focusCallback?)).Nodup :=
      hhandled.sublist (((List.suffix_cons h past).trans hsuffix).sublist.filterMap _)
    have htenured : Run.Tenured ⟨h.before, past⟩ := { ht with }
    obtain ⟨harmed, hfailed⟩ := hattributed h past hsuffix tag
    rcases Message.triggerResult?_isSome.mp hresult with hcue | hcue
    · have hne : h.before.attached.armedFocus ≠ some tag :=
        (haccounted h past hsuffix).2.armed_ne hpast hpending
      have hstep := Handled.focus_step htenured.layered hr.attentive
      rw [Handled.recorded_focus, hcue] at hstep
      obtain ⟨frame, lens, hmessage, hown⟩ := harmed hne (hstep.arms hpending)
      exact hr.alone (hmessage ▸ rfl) hpending hpast hown
    · obtain ⟨frame, reason, hmessage⟩ := Message.cue?_triggerFailed hcue
      refine hr.alone (hmessage ▸ rfl) hpending hpast (hfailed frame reason hmessage ?_)
      rw [(Handled.told_append htenured.layered hr.attentive).2.1, hcue]
      exact List.mem_map.mpr ⟨tag, Option.mem_toList.mpr hpending, rfl⟩
  · intro huntangled h past hsuffix tag
    have hmem : h ∈ r.past := hsuffix.subset List.mem_cons_self
    obtain ⟨ht, hr⟩ := hordered h past hsuffix
    have htenured : Run.Tenured ⟨h.before, past⟩ := { ht with }
    constructor
    · intro hne harmed
      have hstep := Handled.focus_step htenured.layered hr.attentive
      rw [Handled.recorded_focus] at hstep
      rcases hstep.armed harmed with hbefore | ⟨hcue, hpending⟩
      · exact absurd hbefore hne
      · have hpending : h.before.attached.pendingFocus = some tag := hpending
        obtain ⟨frame, lens, hmessage⟩ := Message.cue?_triggered hcue
        have hnone := huntangled h hmem (hmessage ▸ rfl) (hpending ▸ rfl)
        exact ⟨frame, lens, hmessage, hr.own (hmessage ▸ rfl) hpending hnone⟩
    · intro frame reason hmessage htold
      rw [(Handled.told_append htenured.layered hr.attentive).2.1, hmessage] at htold
      rcases Focus.tells_cases htold with ⟨-, hcue | ⟨-, hpending⟩⟩ | ⟨hcue, -⟩
      · cases hcue
      · have hpending : h.before.attached.pendingFocus = some tag := hpending
        have hnone := huntangled h hmem (hmessage ▸ rfl) (hpending ▸ rfl)
        exact hr.own (hmessage ▸ rfl) hpending hnone
      · cases hcue

/-- The focus is asked for again once the first trigger has completed, and the second one fails. -/
def patientFocusMoves : List Move :=
  Run.startedMoves ++ [.ask (.autoFocus (some 5)), .handle, .handle, .stir (.arm .captureResult),
    .ask (.autoFocus (some 6)), .handle, .handle]

theorem patient_attributed : (withDevices ["0", "1"]).AtRest ∧
    ((patientFocusMoves.filterMap (·.action?)).filterMap (·.focusCallback?)).Nodup ∧
    (run patientFocusMoves).now.attached.armedFocus = some 5 ∧
    (run patientFocusMoves).now.told = [(6, false)] ∧ Attributed (run patientFocusMoves) := by
  have hattributed := (attributed_iff_untangled (withDevices ["0", "1"]) (withDevices_atRest _)
    (Roster.empty.update ["0", "1"]) 20 patientFocusMoves (by decide)).mpr (by decide)
  exact ⟨withDevices_atRest _, by decide, rfl, rfl, hattributed⟩

/-- The focus is asked for twice in a row, and the first trigger fails. -/
def hastyFocusMoves : List Move :=
  Run.startedMoves ++ [.stir (.arm .captureResult), .ask (.autoFocus (some 5)), .ask (.autoFocus (some 6)),
    .handle, .handle, .handle]

/-- The second callback is told of the failure, although its own trigger has completed. -/
theorem hasty_not_attributed :
    let r := run hastyFocusMoves
    r.now.told = [(6, false)] ∧
      (∃ q ∈ r.past, q.message = .action (.autoFocus (some 6)) ∧
        q.answers = [.completed .focusTrigger 2 (some .inactive)]) ∧
      ¬ Attributed r := by
  refine ⟨rfl, by decide, fun hattributed => ?_⟩
  obtain ⟨-, hfailed⟩ := hattributed _ _ (List.suffix_refl _) 6
  exact absurd (hfailed 1 .error rfl (List.mem_singleton_self _)) (by decide)

end Simulator

end CameraControl
