import Mathlib.Data.List.Nodup
import CameraControl.Proofs.Cues
import CameraControl.Proofs.Mailbox
import CameraControl.Proofs.Tenure

/-!
Where the callbacks of autofocus requests are. `whereabouts` lists them with their places: in the mailbox,
waiting for the trigger or for the lens, told, or dropped, and then why. No callback is lost or doubled, so
that with distinct callbacks each is in one place. Those told that the lens is sharp were armed before, and
none is told anything after the camera was given up.
-/
namespace CameraControl

/-- Why a focus callback was dropped. -/
inductive Loss
  | rejected | replaced | displaced | released
deriving DecidableEq, Repr

/-- Where a focus callback can be. -/
inductive Place
  | queued
  | pending
  | armed
  | told (sharp : Bool)
  | dropped (loss : Loss)
deriving DecidableEq, Repr

def Action.focusCallback? : Action → Option Tag
  | autoFocus callback => callback
  | _ => none

def Cue.callback? : Cue → Option Tag
  | asked callback => callback
  | _ => none

/-- No event asks for the focus, or gives the camera up. -/
theorem Event.cue?_modest {δ τ : Type} {event : Event δ τ} {cue : Cue} (hcue : event.cue? = some cue) :
    cue.callback? = none ∧ cue ≠ .released := by
  unfold cue? at hcue
  split at hcue
  · cases hcue
    exact ⟨rfl, nofun⟩
  · split_ifs at hcue
    cases hcue
    exact ⟨rfl, nofun⟩
  · cases hcue
    exact ⟨rfl, nofun⟩
  · cases hcue

namespace Message

variable {δ τ : Type}

def focusCallback? (message : Message δ τ) : Option Tag := message.action?.bind (·.focusCallback?)

theorem focusCallback?_eq (message : Message δ τ) :
    message.focusCallback? = message.cue?.bind (·.callback?) := by
  cases message with
  | action action => cases action <;> rfl
  | hardware event => exact (Option.bind_eq_none_iff.mpr fun _ hcue => (Event.cue?_modest hcue).1).symm
  | _ => rfl

theorem cue?_released {message : Message δ τ} : message.cue? = some .released ↔ message.isRelease := by
  cases message with
  | action action => cases action <;> simp [cue?, isRelease, Action.kind]
  | hardware event =>
    exact iff_of_false (fun hcue => (Event.cue?_modest hcue).2 rfl) (by simp [isRelease])
  | _ => simp [cue?, isRelease]

/-- A lens that is sharp was reported by a frame. -/
theorem cue?_sharp {message : Message δ τ} (hcue : message.cue? = some (.locked true)) :
    ∃ frame, message = .hardware (.completed .lensState frame (some .focusedLocked)) := by
  cases message with
  | action action => cases action <;> cases hcue
  | hardware event =>
    have hevent : event.cue? = some (.locked true) := hcue
    unfold Event.cue? at hevent
    split at hevent
    · cases hevent
    · next frame lens =>
      split_ifs at hevent
      have hlens : decide (lens = .focusedLocked) = true := Cue.locked.inj (Option.some.inj hevent)
      exact ⟨frame, by rw [of_decide_eq_true hlens]⟩
    · cases hevent
    · cases hevent
  | _ => cases hcue

theorem cue?_asked {message : Message δ τ} {callback : Option Tag}
    (hcue : message.cue? = some (.asked callback)) : message = .action (.autoFocus callback) := by
  cases message with
  | action action => cases action <;> cases hcue; rfl
  | hardware event =>
    have hevent : event.cue? = some (.asked callback) := hcue
    unfold Event.cue? at hevent
    split at hevent <;> try split_ifs at hevent
    all_goals cases hevent
  | _ => cases hcue

end Message

/-- A callback that is paired with what becomes of it is still there. -/
theorem unpaired {α β : Type} (b : β) : ((·.1) ∘ (·, b) : α → α) = id := rfl

/-- Where the values of a list are distinct, a value stands in one place. -/
theorem split_unique {α β : Type} {f : α → Option β} {front front' back back' : List α} {a a' : α}
    {b : β} (hnodup : ((front ++ a :: back).filterMap f).Nodup)
    (hsplit : front ++ a :: back = front' ++ a' :: back') (ha : f a = some b)
    (ha' : f a' = some b) : front = front' := by
  have hlater {front mid back : List α} {a a' : α} (ha : f a = some b) (ha' : f a' = some b) :
      ¬ ((front ++ a :: (mid ++ a' :: back)).filterMap f).Nodup := by
    intro hnodup
    rw [List.filterMap_append, List.filterMap_cons_some ha, List.nodup_middle, List.nodup_cons] at hnodup
    exact hnodup.1 (List.mem_append_right _ (List.mem_filterMap.mpr ⟨a', by simp, ha'⟩))
  rcases List.append_eq_append_iff.mp hsplit with ⟨mid, hfront, hmid⟩ | ⟨mid, hfront, hmid⟩
  · cases mid with
    | nil => rw [hfront, List.append_nil]
    | cons x mid =>
      obtain ⟨rfl, rfl⟩ := List.cons.inj hmid
      exact absurd hnodup (hlater ha ha')
  · cases mid with
    | nil => rw [hfront, List.append_nil]
    | cons x mid =>
      obtain ⟨rfl, rfl⟩ := List.cons.inj hmid
      rw [hsplit] at hnodup
      exact absurd hnodup (hlater ha' ha)

namespace Focus

variable {δ τ : Type}

/-- The callbacks that wait. -/
def waiting (k : Focus δ τ) : List Tag := k.pending.toList ++ k.armed.toList

/-- What a cue has callbacks told, where it may be that the trigger it submits is refused. -/
def tells (k : Focus δ τ) (refused : Bool) : Option Cue → List (Tag × Bool)
  | some (.asked callback) => if refused then callback.toList.map (·, false) else []
  | some .triggerFailed => k.pending.toList.map (·, false)
  | some (.locked sharp) => k.armed.toList.map (·, sharp)
  | _ => []

/-- The callbacks that a cue drops in a stage. -/
def dropped (k : Focus δ τ) (stage : Stage) (refused : Bool) : Option Cue → List (Tag × Loss)
  | some (.asked callback) =>
    if stage < .previewActive then callback.toList.map (·, .rejected)
    else if refused then [] else k.pending.toList.map (·, .replaced)
  | some .triggered => if k.pending.isSome then k.armed.toList.map (·, .displaced) else []
  | some .released => k.waiting.map (·, .released)
  | _ => []

theorem tells_cases {k : Focus δ τ} {refused : Bool} {cue : Option Cue} {tag : Tag} {sharp : Bool}
    (hmem : (tag, sharp) ∈ k.tells refused cue) :
    sharp = false ∧ (cue = some (.asked (some tag)) ∨ cue = some .triggerFailed ∧ k.pending = some tag) ∨
      cue = some (.locked sharp) ∧ k.armed = some tag := by
  unfold tells at hmem
  split at hmem
  · split_ifs at hmem
    · obtain ⟨callback, hcallback, heq⟩ := List.mem_map.mp hmem
      cases heq
      exact Or.inl ⟨rfl, Or.inl (by rw [Option.mem_toList.mp hcallback])⟩
    · cases hmem
  · obtain ⟨callback, hcallback, heq⟩ := List.mem_map.mp hmem
    cases heq
    exact Or.inl ⟨rfl, Or.inr ⟨rfl, Option.mem_toList.mp hcallback⟩⟩
  · obtain ⟨callback, hcallback, heq⟩ := List.mem_map.mp hmem
    cases heq
    exact Or.inr ⟨rfl, Option.mem_toList.mp hcallback⟩
  · cases hmem

namespace Step

variable {stage : Stage} {k k' : Focus δ τ} {cue : Option Cue} {tag : Tag}

/-- Who is told, and that every callback that waits or asks still waits, is told or is dropped. -/
theorem balance (h : k.Step stage cue k') : ∃ xs, k'.triggers = k.triggers ++ xs ∧
    let refused := xs.any (·.fault.isSome)
    k'.told = k.told ++ k.tells refused cue ∧
      ((cue.bind (·.callback?)).toList ++ k.waiting).Perm
        (k'.waiting ++ (k.tells refused cue).map (·.1) ++ (k.dropped stage refused cue).map (·.1)) := by
  have hnone : k.triggers = k.triggers ++ [] := (List.append_nil _).symm
  have hsilent : k.told = k.told ++ [] := (List.append_nil _).symm
  have hperm {l l' : List Tag} (hcount : ∀ tag, l.count tag = l'.count tag) : l.Perm l' :=
    List.perm_iff_count.mpr hcount
  cases h with
  | aside => exact ⟨[], hnone, hsilent, hperm fun tag => by simp [tells, dropped]⟩
  | rejected hstage =>
    refine ⟨[], hnone, hsilent, hperm fun tag => ?_⟩
    simp [tells, dropped, hstage, Cue.callback?, List.count_append, unpaired]
    omega
  | @submitted callback x hstage hfault =>
    refine ⟨[x], rfl, by simp [tells, hfault], hperm fun tag => ?_⟩
    simp [tells, dropped, waiting, Stage.not_lt.mpr hstage, hfault, Cue.callback?, List.count_append,
      unpaired]
    omega
  | @refused callback x hstage hfault =>
    refine ⟨[x], rfl, by simp [tells, hfault], hperm fun tag => ?_⟩
    simp [tells, dropped, waiting, Stage.not_lt.mpr hstage, hfault, Cue.callback?, List.count_append,
      unpaired]
    omega
  | triggered =>
    refine ⟨[], hnone, hsilent, hperm fun tag => ?_⟩
    cases hpending : k.pending with
    | none => simp [tells, dropped, waiting, hpending, Cue.callback?]
    | some pending =>
      simp [tells, dropped, waiting, hpending, Cue.callback?, List.count_cons, unpaired]
  | triggerFailed =>
    refine ⟨[], hnone, rfl, hperm fun tag => ?_⟩
    simp [tells, dropped, waiting, Cue.callback?, List.count_append, unpaired]
    omega
  | locked =>
    exact ⟨[], hnone, rfl, hperm fun tag => by simp [tells, dropped, waiting, Cue.callback?, unpaired]⟩
  | released =>
    exact ⟨[], hnone, hsilent, hperm fun tag => by simp [tells, dropped, waiting, Cue.callback?, unpaired]⟩

/-- With no camera open no callback begins to wait. -/
theorem unopened (h : k.Step .unopened cue k') (hpending : k.pending = none) (harmed : k.armed = none) :
    k'.pending = none ∧ k'.armed = none := by
  cases h with
  | aside | rejected | refused => exact ⟨hpending, harmed⟩
  | submitted hstage => exact absurd hstage (by decide)
  | triggered =>
    refine ⟨rfl, ?_⟩
    show k.pending.or k.armed = none
    rw [hpending, harmed, Option.none_or]
  | triggerFailed => exact ⟨rfl, harmed⟩
  | locked => exact ⟨hpending, rfl⟩
  | released => exact ⟨rfl, rfl⟩

theorem surrendered (h : k.Step stage (some .released) k') : k'.pending = none ∧ k'.armed = none := by
  cases h
  exact ⟨rfl, rfl⟩

/-- Whoever waits was not given up with the camera. -/
theorem kept (h : k.Step stage cue k') (hwaits : k'.pending = some tag ∨ k'.armed = some tag) :
    cue ≠ some .released := by
  rintro rfl
  obtain ⟨hpending, harmed⟩ := h.surrendered
  rw [hpending, harmed] at hwaits
  rcases hwaits with hwaits | hwaits <;> cases hwaits

/-- Who waits for the trigger did so before, or asks. -/
theorem pending (h : k.Step stage cue k') (hpending : k'.pending = some tag) :
    k.pending = some tag ∨ cue = some (.asked (some tag)) := by
  cases h with
  | aside | rejected | refused | locked => exact Or.inl hpending
  | @submitted callback =>
    have hcallback : callback = some tag := hpending
    exact Or.inr (by rw [hcallback])
  | triggered | triggerFailed | released => cases hpending

/-- Who waits for the lens did so before, or waited for the trigger that completes. -/
theorem armed (h : k.Step stage cue k') (harmed : k'.armed = some tag) :
    k.armed = some tag ∨ cue = some .triggered ∧ k.pending = some tag := by
  cases h with
  | aside | rejected | refused | submitted | triggerFailed => exact Or.inl harmed
  | triggered =>
    rcases Option.or_eq_some_iff.mp harmed with hpending | ⟨-, harmed⟩
    · exact Or.inr ⟨rfl, hpending⟩
    · exact Or.inl harmed
  | locked | released => cases harmed

/-- Only a request in a preview has a trigger submitted that can be refused. -/
theorem asked {xs : List (Exchange δ τ)} (h : k.Step stage cue k')
    (htriggers : k'.triggers = k.triggers ++ xs) (hrefused : xs.any (·.fault.isSome)) : ∃ callback, cue = some (.asked callback) := by
  have hsome (hnone : k.triggers = k.triggers ++ xs) : False := by
    rw [List.self_eq_append_right.mp hnone] at hrefused
    cases hrefused
  cases h with
  | submitted | refused => exact ⟨_, rfl⟩
  | _ => exact (hsome htriggers).elim

end Step

end Focus

variable {ε σ δ τ : Type} [Subsystem σ δ τ]

namespace Handled

variable (h : Handled σ δ τ)

/-- The trigger captures that were submitted to lock the focus. -/
def triggers : List (Exchange δ τ) := h.recorded.subsystem.record.filter (·.isTrigger)

/-- Such a capture was refused. -/
def isRefused : Bool := h.triggers.any (·.fault.isSome)

/-- What focus callbacks were told. -/
def told : List (Tag × Bool) := h.after.told.drop h.before.told.length

/-- The focus callbacks that were dropped. -/
def dropped : List (Tag × Loss) :=
  h.before.recorded.focus.dropped h.before.stage h.isRefused h.message.cue?

theorem recorded_focus : h.recorded.focus =
    ⟨h.after.attached.pendingFocus, h.after.attached.armedFocus, h.after.told, h.triggers⟩ := by
  rw [← h.recorded_bare]
  rfl

variable {h}

theorem focus_step (hc : h.before.Layered) (hattentive : h.before.Attentive) :
    h.before.recorded.focus.Step h.before.stage h.message.cue? h.recorded.focus :=
  Controller.handle_focus (c := h.before.recorded) h.message hc hattentive

theorem told_append (hc : h.before.Layered) (hattentive : h.before.Attentive) :
    h.after.told = h.before.told ++ h.told ∧
      h.told = h.before.recorded.focus.tells h.isRefused h.message.cue? ∧
      (h.message.focusCallback?.toList ++ h.before.recorded.focus.waiting).Perm
        (h.recorded.focus.waiting ++ h.told.map (·.1) ++ h.dropped.map (·.1)) := by
  obtain ⟨xs, htriggers, htold, hperm⟩ := (focus_step hc hattentive).balance
  have hxs : h.triggers = xs := by
    rw [recorded_focus] at htriggers
    exact htriggers
  rw [← hxs] at htold hperm
  have hafter : h.after.told = h.before.told ++
      h.before.recorded.focus.tells h.isRefused h.message.cue? := by
    rw [recorded_focus] at htold
    exact htold
  have hnew : h.told = h.before.recorded.focus.tells h.isRefused h.message.cue? := by
    unfold told
    rw [hafter, List.drop_left]
  refine ⟨hnew ▸ hafter, hnew, ?_⟩
  rw [hnew, Message.focusCallback?_eq]
  exact hperm

/-- While a callback waits afterwards, the camera was not given up. -/
theorem waiting_kept {tag : Tag} (hc : h.before.Layered) (hattentive : h.before.Attentive)
    (hwaits : h.after.attached.pendingFocus = some tag ∨ h.after.attached.armedFocus = some tag) :
    h.message.isRelease = false := by
  have hstep := focus_step hc hattentive
  rw [recorded_focus] at hstep
  exact Bool.eq_false_iff.mpr fun hrelease => hstep.kept hwaits (Message.cue?_released.mpr hrelease)

/-- A request whose trigger is refused has its callback told. -/
theorem told_refused (hc : h.before.Layered) (hattentive : h.before.Attentive) (hrefused : h.isRefused) :
    ∃ callback, h.message = .action (.autoFocus callback) ∧
      h.told = callback.toList.map (·, false) := by
  have hstep := focus_step hc hattentive
  rw [recorded_focus] at hstep
  obtain ⟨callback, hcue⟩ := hstep.asked (List.nil_append _).symm hrefused
  refine ⟨callback, Message.cue?_asked hcue, ?_⟩
  rw [(told_append hc hattentive).2.1, hcue, hrefused]
  rfl

end Handled

namespace Run

def Move.action? : Move ε → Option Action
  | ask action => some action
  | _ => none

/-- The actions that were handled, and those that are still to be. -/
def asked (r : Run σ δ τ) : List Action :=
  r.past.reverse.filterMap (·.message.action?) ++ r.now.mailbox.filterMap (·.action?)

/-- Every focus callback with its place. -/
def whereabouts (r : Run σ δ τ) : List (Tag × Place) :=
  (r.now.mailbox.filterMap (·.focusCallback?)).map (·, .queued) ++
    r.now.attached.pendingFocus.toList.map (·, .pending) ++
    r.now.attached.armedFocus.toList.map (·, .armed) ++
    r.now.told.map (fun (tag, sharp) => (tag, .told sharp)) ++
    (r.past.flatMap (·.dropped)).map (fun (tag, loss) => (tag, .dropped loss))

/-- The places of a focus callback. -/
def places (r : Run σ δ τ) (tag : Tag) : List Place :=
  (r.whereabouts.filter (·.1 = tag)).map (·.2)

/-- The callback's request was handled, and the camera was not given up since. -/
def Unreleased (past : List (Handled σ δ τ)) (tag : Tag) : Prop :=
  ∃ since h older, past = since ++ h :: older ∧ h.message = .action (.autoFocus (some tag)) ∧
    ∀ e ∈ since, e.message.isRelease = false

/-- Every focus callback that was handled is accounted for. -/
structure Accounted (r : Run σ δ τ) : Prop where
  attentive : r.now.Attentive
  balanced : (r.past.filterMap (·.message.focusCallback?)).Perm
    (r.now.attached.pendingFocus.toList ++ r.now.attached.armedFocus.toList ++
      r.now.told.map (·.1) ++ (r.past.flatMap (·.dropped)).map (·.1))
  pending : ∀ tag, r.now.attached.pendingFocus = some tag → Unreleased r.past tag
  armed : ∀ tag, r.now.attached.armedFocus = some tag → Unreleased r.past tag ∧
    ∃ e ∈ r.past, e.before.attached.pendingFocus = some tag ∧ e.after.attached.armedFocus = some tag

/-- A callback has as many places as it is listed times. -/
theorem places_length (r : Run σ δ τ) (tag : Tag) :
    (r.places tag).length = (r.whereabouts.map (·.1)).count tag := by
  have hsame : (fun entry : Tag × Place => decide (entry.1 = tag)) = (· == tag) ∘ (·.1) :=
    funext fun entry => (beq_eq_decide entry.1 tag).symm
  unfold places List.count
  rw [List.length_map, List.countP_map, List.countP_eq_length_filter, hsame]

variable {h : Handled σ δ τ} {past : List (Handled σ δ τ)} {tag : Tag}

omit [Subsystem σ δ τ] in
theorem Unreleased.cons (hpast : Unreleased past tag) (hkept : h.message.isRelease = false) :
    Unreleased (h :: past) tag := by
  obtain ⟨since, q, older, hsplit, hasked, hsince⟩ := hpast
  refine ⟨h :: since, q, older, congrArg (h :: ·) hsplit, hasked, ?_⟩
  exact List.forall_mem_cons.mpr ⟨hkept, hsince⟩

omit [Subsystem σ δ τ] in
theorem Unreleased.of_asked (hcue : h.message.cue? = some (.asked (some tag))) :
    Unreleased (h :: past) tag :=
  ⟨[], h, past, rfl, Message.cue?_asked hcue, List.forall_mem_nil _⟩

/-- No callback waits for the focus once the camera is given up. -/
theorem Tenured.attentive (ht : Tenured ⟨h.before, past⟩) (hattentive : h.before.Attentive) :
    h.after.Attentive := by
  intro hstage
  have hstep := Handled.focus_step ht.layered hattentive
  rw [Handled.recorded_focus] at hstep
  obtain ⟨hcustody, -, -⟩ := h.steps ht.held
  cases hcustody.turn fun hsome => decide_eq_true (ht.held hsome) with
  | adopts callback camera houtcomes hopen => exact absurd hstage (of_decide_eq_true hopen)
  | releases hrelease =>
    rw [Message.cue?_released.mpr hrelease] at hstep
    exact hstep.surrendered
  | continues hkept new houtcomes hnew hopen =>
    have hbefore : h.before.stage = .unopened :=
      not_not.mp fun hopened => (decide_eq_decide.mp hopen).mpr hopened hstage
    obtain ⟨hpending, harmed⟩ := hattentive hbefore
    rw [hbefore] at hstep
    exact hstep.unopened hpending harmed

namespace Accounted

/-- What the message does to the callbacks keeps the balance. -/
theorem balance (ht : Tenured ⟨h.before, past⟩) (hr : Accounted (before h past)) :
    ((h :: past).filterMap (·.message.focusCallback?)).Perm
      (h.after.attached.pendingFocus.toList ++ h.after.attached.armedFocus.toList ++
        h.after.told.map (·.1) ++ ((h :: past).flatMap (·.dropped)).map (·.1)) := by
  obtain ⟨htold, -, hstep⟩ := Handled.told_append ht.layered hr.attentive
  have hasked : (h :: past).filterMap (·.message.focusCallback?) =
      h.message.focusCallback?.toList ++ past.filterMap (·.message.focusCallback?) := by
    rw [List.filterMap_cons]
    cases h.message.focusCallback? <;> rfl
  rw [Handled.recorded_focus] at hstep
  rw [List.perm_iff_count] at hstep ⊢
  intro tag
  have hnew := hstep tag
  have hpast : (past.filterMap (·.message.focusCallback?)).Perm
      (h.before.attached.pendingFocus.toList ++ h.before.attached.armedFocus.toList ++
        h.before.told.map (·.1) ++ (past.flatMap (·.dropped)).map (·.1)) := hr.balanced
  have hold := List.perm_iff_count.mp hpast tag
  simp only [Focus.waiting, Controller.focus, Controller.recorded, List.count_append] at hnew hold
  rw [hasked, htold, List.flatMap_cons, List.map_append, List.map_append]
  simp only [List.count_append]
  omega

theorem handle (ht : Tenured ⟨h.before, past⟩) (hr : Accounted (before h past)) :
    Accounted ⟨h.after, h :: past⟩ := by
  have hstep := Handled.focus_step ht.layered hr.attentive
  rw [Handled.recorded_focus] at hstep
  refine ⟨ht.attentive hr.attentive, hr.balance ht, ?_, ?_⟩
  · intro tag hpending
    have hkept := Handled.waiting_kept ht.layered hr.attentive (Or.inl hpending)
    rcases hstep.pending hpending with hbefore | hasked
    · exact (hr.pending tag hbefore).cons hkept
    · exact .of_asked hasked
  · intro tag harmed
    have hkept := Handled.waiting_kept ht.layered hr.attentive (Or.inr harmed)
    rcases hstep.armed harmed with hbefore | ⟨-, hpending⟩
    · obtain ⟨hasked, e, he, harming⟩ := hr.armed tag hbefore
      exact ⟨hasked.cons hkept, e, List.mem_cons_of_mem h he, harming⟩
    · exact ⟨(hr.pending tag hpending).cons hkept, h, List.mem_cons_self, hpending, harmed⟩

/-- Whoever is told something asked for it, and the camera was not given up since. -/
theorem told (ht : Tenured ⟨h.before, past⟩) (hr : Accounted (before h past)) {sharp : Bool}
    (htold : (tag, sharp) ∈ h.told) : Unreleased (h :: past) tag ∧
      (sharp → (∃ frame, h.message = .hardware (.completed .lensState frame (some .focusedLocked))) ∧
        h.before.attached.armedFocus = some tag ∧
        ∃ e ∈ past, e.before.attached.pendingFocus = some tag ∧
          e.after.attached.armedFocus = some tag) := by
  have hkept {cue : Cue} (hcue : h.message.cue? = some cue) (hne : cue ≠ .released) :
      h.message.isRelease = false := by
    refine Bool.eq_false_iff.mpr fun hrelease => hne ?_
    exact Option.some.inj (hcue.symm.trans (Message.cue?_released.mpr hrelease))
  rw [(Handled.told_append ht.layered hr.attentive).2.1] at htold
  rcases Focus.tells_cases htold with ⟨rfl, hcue | ⟨hcue, hpending⟩⟩ | ⟨hcue, harmed⟩
  · exact ⟨.of_asked hcue, nofun⟩
  · exact ⟨(hr.pending tag hpending).cons (hkept hcue nofun), nofun⟩
  · obtain ⟨hasked, harming⟩ := hr.armed tag harmed
    refine ⟨hasked.cons (hkept hcue nofun), ?_⟩
    rintro rfl
    exact ⟨Message.cue?_sharp hcue, harmed, harming⟩

/-- With distinct callbacks, the one that is pending is not armed as well. -/
theorem armed_ne {r : Run σ δ τ} (hr : r.Accounted)
    (hdistinct : (r.past.filterMap (·.message.focusCallback?)).Nodup)
    (hpending : r.now.attached.pendingFocus = some tag) : r.now.attached.armedFocus ≠ some tag := by
  intro harmed
  have hall := hr.balanced.nodup_iff.mp hdistinct
  rw [hpending, harmed] at hall
  exact (List.nodup_cons.mp hall).1 List.mem_cons_self

end Accounted

section
variable [Spontaneous ε σ δ τ]

theorem asked_step (r : Run σ δ τ) (move : Move ε) :
    (r.step move).asked = r.asked ++ move.action?.toList := by
  have hposted (messages : List (Message δ τ)) :
      r.past.reverse.filterMap (·.message.action?) ++
          (r.now.mailbox ++ messages).filterMap (·.action?) =
        r.asked ++ messages.filterMap (·.action?) := by
    rw [List.filterMap_append, ← List.append_assoc]
    rfl
  have hsilent {messages : List (Message δ τ)} (hnone : messages.filterMap (·.action?) = []) :
      r.past.reverse.filterMap (·.message.action?) ++
          (r.now.mailbox ++ messages).filterMap (·.action?) = r.asked ++ [] := by
    rw [hposted, hnone]
  cases move with
  | ask action => exact hposted [.action action]
  | barrier ticket => exact hsilent rfl
  | shutdown => exact hsilent rfl
  | stir stimulus => exact hsilent (Message.filterMap_action_hardware _)
  | handle =>
    show r.advance.asked = r.asked ++ []
    rcases r.advance_cases with hnone | ⟨h, hbefore, hafter⟩
    · rw [hnone, List.append_nil]
    · obtain ⟨events, hmailbox⟩ := Controller.handle_mailbox h.before h.message
      have hhandled : h.after.mailbox = h.before.mailbox ++ events.map .hardware := hmailbox
      have hasked : r.asked = r.past.reverse.filterMap (·.message.action?) ++
          (h.message :: h.before.mailbox).filterMap (·.action?) :=
        congrArg asked hbefore
      rw [hafter, hasked, List.append_nil]
      unfold asked
      dsimp only
      rw [hhandled, List.filterMap_append, Message.filterMap_action_hardware, List.append_nil,
        List.reverse_cons, List.filterMap_append, List.append_assoc, List.filterMap_cons]
      cases haction : h.message.action? <;> simp [haction]
  | _ => exact (List.append_nil _).symm

/-- Actions are handled in the order in which they were asked for. -/
theorem asked_run (r : Run σ δ τ) (moves : List (Move ε)) :
    (r.run moves).asked = r.asked ++ moves.filterMap (·.action?) := by
  induction moves generalizing r with
  | nil => exact (List.append_nil _).symm
  | cons move moves ih =>
    show ((r.step move).run moves).asked = _
    rw [ih, asked_step, List.append_assoc, List.filterMap_cons]
    cases move.action? <;> rfl

variable (world : σ) (roster : Roster) (historySize : Nat)

/-- Requests with distinct callbacks have distinct ones when they are handled. -/
theorem handled_distinct (moves : List (Move ε))
    (hdistinct : ((moves.filterMap (·.action?)).filterMap (·.focusCallback?)).Nodup) :
    (((start world roster historySize).run moves).past.filterMap (·.message.focusCallback?)).Nodup := by
  have hasked : ((start world roster historySize).run moves).asked = moves.filterMap (·.action?) :=
    asked_run (start world roster historySize) moves
  rw [← hasked] at hdistinct
  unfold asked at hdistinct
  rw [List.filterMap_append, List.filterMap_filterMap, List.filterMap_reverse] at hdistinct
  exact List.nodup_reverse.mp hdistinct.of_append_left

theorem accounted (moves : List (Move ε)) :
    ((start world roster historySize).run moves).Accounted ∧
      ((start world roster historySize).run moves).Throughout fun r => r.Tenured ∧ r.Accounted := by
  have hinvariant := invariant_tenured Accounted (fun _ => True) ?_
    (fun h past ht hr => hr.handle ht) world roster historySize
    (fun move (_ : move ∈ moves) => trivial) ⟨fun _ => ⟨rfl, rfl⟩, .nil, nofun, nofun⟩
  · exact hinvariant.2
  · intro r move _ hr
    cases move <;> exact { hr with }

/-- The callbacks of autofocus requests are where `whereabouts` has them, each as often as it was asked
for. -/
theorem whereabouts_perm (moves : List (Move ε)) :
    (((start world roster historySize).run moves).whereabouts.map (·.1)).Perm
      ((moves.filterMap (·.action?)).filterMap (·.focusCallback?)) := by
  have hmoves : ((start world roster historySize).run moves).asked = moves.filterMap (·.action?) :=
    asked_run (start world roster historySize) moves
  obtain ⟨hr, -⟩ := accounted world roster historySize moves
  rw [← hmoves]
  generalize (start world roster historySize).run moves = r at hr
  unfold asked
  rw [List.filterMap_append, List.filterMap_filterMap, List.filterMap_filterMap, List.filterMap_reverse]
  have htold : ((·.1) ∘ fun (tag, sharp) => (tag, Place.told sharp) : Tag × Bool → Tag) = (·.1) := rfl
  have hdropped : ((·.1) ∘ fun (tag, loss) => (tag, Place.dropped loss) : Tag × Loss → Tag) = (·.1) := rfl
  have hasked : ((fun message => message.action?.bind (·.focusCallback?)) : Message δ τ → Option Tag) =
    (·.focusCallback?) := rfl
  unfold whereabouts
  rw [List.perm_iff_count]
  intro tag
  have hhandled := List.perm_iff_count.mp hr.balanced tag
  simp only [List.map_append, List.map_map, unpaired, htold, hdropped, List.map_id, List.count_append,
    List.count_reverse, hasked] at hhandled ⊢
  have hpast : (r.past.filterMap fun h => h.message.action?.bind (·.focusCallback?)).count tag =
    (r.past.filterMap (·.message.focusCallback?)).count tag := rfl
  omega

/-- With distinct callbacks each is in one place. A trigger that is refused or fails has its callback told so,
and none but a frame with a sharp lens tells one otherwise, which was armed before. Once a camera was given
up, the callbacks of requests that were handled before are told nothing more. -/
theorem focus_callbacks_accounted (moves : List (Move ε))
    (hdistinct : ((moves.filterMap (·.action?)).filterMap (·.focusCallback?)).Nodup) :
    let r := (start world roster historySize).run moves
    (∀ tag ∈ (moves.filterMap (·.action?)).filterMap (·.focusCallback?), ∃ place, r.places tag = [place]) ∧
      ∀ h past, (h :: past) <:+ r.past →
        (h.isRefused → ∃ callback, h.message = .action (.autoFocus callback) ∧
          h.told = callback.toList.map (·, false)) ∧
        (∀ frame reason, h.message = .hardware (.captureFailed .focusTrigger frame reason) →
          h.told = h.before.attached.pendingFocus.toList.map (·, false)) ∧
        ∀ tag sharp, (tag, sharp) ∈ h.told →
          (sharp → (∃ frame, h.message = .hardware (.completed .lensState frame (some .focusedLocked))) ∧
            h.before.attached.armedFocus = some tag ∧
            ∃ e ∈ past, e.before.attached.pendingFocus = some tag ∧
              e.after.attached.armedFocus = some tag) ∧
          ∀ since q older, h :: past = since ++ q :: older →
            q.message = .action (.autoFocus (some tag)) → ∀ e ∈ since, e.message.isRelease = false := by
  intro r
  obtain ⟨-, hbefore⟩ := accounted world roster historySize moves
  have hhandled := handled_distinct world roster historySize moves hdistinct
  refine ⟨?_, fun h past hsuffix => ?_⟩
  · intro tag hmem
    refine List.length_eq_one_iff.mp ?_
    rw [places_length, (whereabouts_perm world roster historySize moves).count_eq]
    exact List.count_eq_one_of_mem hdistinct hmem
  · obtain ⟨ht, hr⟩ := hbefore h past hsuffix
    have htenured : Tenured ⟨h.before, past⟩ := { ht with }
    refine ⟨Handled.told_refused htenured.layered hr.attentive, ?_, ?_⟩
    · intro frame reason hmessage
      rw [(Handled.told_append htenured.layered hr.attentive).2.1, hmessage]
      rfl
    · intro tag sharp htold
      obtain ⟨⟨since, q, older, hsplit, hq, hsince⟩, hsharp⟩ := hr.told htenured htold
      refine ⟨hsharp, ?_⟩
      intro since' q' older' hsplit' hq'
      have hcallback {e : Handled σ δ τ} (he : e.message = .action (.autoFocus (some tag))) :
          e.message.focusCallback? = some tag := by
        rw [he]
        rfl
      have hnodup : ((since ++ q :: older).filterMap (·.message.focusCallback?)).Nodup := by
        rw [← hsplit]
        exact hhandled.sublist (hsuffix.sublist.filterMap _)
      rw [← split_unique hnodup (hsplit.symm.trans hsplit') (hcallback hq) (hcallback hq')]
      exact hsince

end

/-- A camera is opened, and its preview is started. -/
def startedMoves : List Simulator.Move :=
  [.ask (.openCamera 0 0), .handle, .handle, .addTexture,
    .ask (.applySettings { preview := ⟨640, 480⟩, photo := ⟨640, 480⟩ }), .handle,
    .ask (.setPreviewTexture 1), .handle, .handle, .ask (.startPreview none), .handle, .handle]

/-- The focus is asked for a second time before the first trigger completes, and locks. Then it is asked for
once more. -/
def focusMoves : List Simulator.Move :=
  startedMoves ++ [.ask (.autoFocus (some 5)), .ask (.autoFocus (some 6)), .handle, .handle,
    .stir (.setLens .focusedLocked), .stir .frame, .ask (.autoFocus (some 7)), .handle, .handle, .handle]

theorem focus_locked_accounted :
    let r := Simulator.run focusMoves
    r.whereabouts = [(7, .queued), (6, .told true), (5, .dropped .replaced)] ∧
      (∀ tag ∈ [5, 6, 7], ∃ place, r.places tag = [place]) ∧
      ∃ h past, (h :: past) <:+ r.past ∧ (6, true) ∈ h.told ∧ h.before.attached.armedFocus = some 6 ∧
        ∀ since q older, h :: past = since ++ q :: older →
          q.message = .action (.autoFocus (some 6)) → ∀ e ∈ since, e.message.isRelease = false := by
  obtain ⟨hplaces, hpast⟩ := focus_callbacks_accounted (Simulator.withDevices ["0", "1"])
    (Roster.empty.update ["0", "1"]) 20 focusMoves (by decide)
  obtain ⟨-, -, htold⟩ := hpast _ _ (List.suffix_refl _)
  have hsharp := htold 6 true (List.mem_singleton_self _)
  exact ⟨rfl, hplaces, _, _, List.suffix_refl _, List.mem_singleton_self _, (hsharp.1 rfl).2.1, hsharp.2⟩

end Run

end CameraControl
