import CameraControl.Proofs.Ownership

/-!
Every opening has one outcome, and its own callback is told. It holds as long as no camera is asked for
while a device is still to be delivered, and no device error comes in between. A camera that is asked for
too early takes the place of the earlier opener, which is then never told anything.
-/
namespace CameraControl

variable {δ τ : Type} {κ κ' : Custody δ} {message : Message δ τ} {failure : Option Failure}
  {accepted : List DeviceId} {closed : List δ}

/-- How a message bears on what openers are told. -/
inductive Custody.Reply (κ : Custody δ) (message : Message δ τ) (accepted : List DeviceId)
    (κ' : Custody δ) : Prop
  | atOnce (index : Nat) (callback : Tag) (report : Report)
      (hopening : message.opening? = some (index, callback)) (haccepted : accepted = [])
      (hreport : report.opener? = some callback) (houtcomes : κ'.outcomes = κ.outcomes ++ [report])
      (hopener : κ'.opener = some callback ∨ (κ.isOpen ∧ κ'.opener = κ.opener))
  | later (index : Nat) (callback : Tag) (id : DeviceId)
      (hopening : message.opening? = some (index, callback)) (haccepted : accepted = [id])
      (houtcomes : κ'.outcomes = κ.outcomes) (hopener : κ'.opener = some callback)
  | delivery (callback : Tag) (report : Report) (hdelivered : message.delivered?.isSome)
      (haccepted : accepted = []) (hcallback : κ.opener = some callback)
      (hreport : report.opener? = some callback) (houtcomes : κ'.outcomes = κ.outcomes ++ [report])
      (hopener : κ'.opener = κ.opener)
  | none (hopening : message.opening? = none) (haccepted : accepted = [])
      (hdelivered : message.delivered?.isSome → κ.opener = none)
      (houtcomes : κ'.outcomes = κ.outcomes)
      (hopener : κ'.opener = κ.opener ∨ (κ.isOpen ∧ κ'.opener = none))

theorem Custody.Step.reply (h : κ.Step message failure accepted closed κ')
    (herror : ∀ code, message ≠ .hardware (.deviceError code)) :
    κ.Reply message accepted κ' := by
  have hnone (hdelivered : message.delivered? = none) :
      message.delivered?.isSome → κ.opener = none := fun hsome => by simp [hdelivered] at hsome
  cases h with
  | quiet hopening hrelease hdelivered | forfeited hopening hrelease hdelivered =>
    exact .none hopening rfl (hnone hdelivered) rfl (Or.inl rfl)
  | alreadyOpen info hopening hopen =>
    exact .atOnce _ _ _ hopening rfl rfl rfl (Or.inr ⟨hopen, rfl⟩)
  | disabled hopening | refused info hopening =>
    exact .atOnce _ _ _ hopening rfl rfl rfl (Or.inl rfl)
  | accepted hopening hopen hid => exact .later _ _ _ hopening rfl rfl rfl
  | released hrelease hopen =>
    exact .none (Message.release_no_opening hrelease) rfl
      (hnone (Message.release_no_delivery hrelease)) rfl (Or.inr ⟨hopen, rfl⟩)
  | idle hrelease =>
    exact .none (Message.release_no_opening hrelease) rfl
      (hnone (Message.release_no_delivery hrelease)) rfl (Or.inl rfl)
  | stray hdelivered hopener =>
    exact .none (Message.delivery_no_opening hdelivered) rfl (fun _ => hopener) rfl (Or.inl rfl)
  | adopted hdelivered hopener | broken info hdelivered hopener =>
    exact .delivery _ _ (by rw [hdelivered]; rfl) rfl hopener rfl rfl rfl
  | complained => exact absurd rfl (herror _)

namespace Run

variable {σ : Type}

/-- How often the callback was told how an opening ended. -/
def answers (r : Run σ δ τ) (callback : Tag) : Nat :=
  r.now.outcomes.countP (·.opener? = some callback)

/-- The callbacks of the openings that were handled, the latest first. -/
def openers (past : List (Handled σ δ τ)) : List Tag :=
  past.filterMap fun h => h.message.opening?.map (·.2)

/-- Every opening that was handled had one outcome, and its own callback was told. -/
def Answered (r : Run σ δ τ) : Prop :=
  ∀ callback, r.answers callback = (openers r.past).count callback

theorem openers_opening {h : Handled σ δ τ} {index : Nat} {opener : Tag}
    (hopening : h.message.opening? = some (index, opener)) (past : List (Handled σ δ τ)) :
    openers (h :: past) = opener :: openers past :=
  List.filterMap_cons_some (by rw [hopening]; rfl)

theorem openers_other {h : Handled σ δ τ} (hopening : h.message.opening? = none)
    (past : List (Handled σ δ τ)) : openers (h :: past) = openers past :=
  List.filterMap_cons_none (by rw [hopening]; rfl)

theorem count_openers {h : Handled σ δ τ} {index : Nat} {opener : Tag}
    (hopening : h.message.opening? = some (index, opener)) (past : List (Handled σ δ τ))
    (callback : Tag) : (openers (h :: past)).count callback =
      (openers past).count callback + if opener = callback then 1 else 0 := by
  rw [openers_opening hopening, List.count_cons]
  simp only [beq_iff_eq]

theorem nodup_openers {h : Handled σ δ τ} {past : List (Handled σ δ τ)}
    (hdistinct : (openers (h :: past)).Nodup) : (openers past).Nodup :=
  hdistinct.sublist ((List.sublist_cons_self h past).filterMap _)

/-- How often the callback is still to be told, which is once at most. -/
def owed (r : Run σ δ τ) (callback : Tag) : Nat :=
  if r.now.awaited ≠ [] ∧ r.now.attached.openCallback = some callback then 1 else 0

theorem owed_none {r : Run σ δ τ} (hawaited : r.now.awaited = []) (callback : Tag) :
    r.owed callback = 0 :=
  if_neg fun howed => howed.1 hawaited

theorem owed_some {r : Run σ δ τ} {opener : Tag} (hawaited : r.now.awaited ≠ [])
    (hopener : r.now.attached.openCallback = some opener) (callback : Tag) :
    r.owed callback = if opener = callback then 1 else 0 := by
  unfold owed
  rw [hopener]
  simp [hawaited]

theorem answered_once {before after : List Report} {report : Report} {opener : Tag}
    (houtcomes : after = before ++ [report]) (hreport : report.opener? = some opener)
    (callback : Tag) : after.countP (·.opener? = some callback) =
      before.countP (·.opener? = some callback) + if opener = callback then 1 else 0 := by
  rw [houtcomes, List.countP_append, List.countP_singleton, hreport]
  simp only [Option.some.injEq, decide_eq_true_eq]

/-- Whenever a camera was reported as opened, it was the one that the callback had asked for last, and its
device was the one that the roster had for it. -/
def Attributed [Subsystem σ δ τ] (r : Run σ δ τ) : Prop :=
  ∀ h past, (h :: past) <:+ r.past → ∀ callback camera, .opened callback camera ∈ h.outcomes →
    ∃ device, h.after.attached.device = some device ∧
      AskedFor past camera.index callback (Subsystem.idOf σ device)

end Run

namespace Simulator

open Run

/-- No device error waits to be handled. -/
def Errorless (r : Run Simulator Device Session) : Prop :=
  ∀ code, .hardware (.deviceError code) ∉ r.now.mailbox

/-- Of those who asked for a camera, only the one who waits for a device has not been told. -/
def Balanced (r : Run Simulator Device Session) : Prop :=
  Orderly r.past → ∀ callback, r.answers callback + r.owed callback = (openers r.past).count callback

variable {h : Handled Simulator Device Session} {past : List (Handled Simulator Device Session)}
  {r : Run Simulator Device Session}

theorem errorless_meanwhile {move : Move} (hmove : ∀ code, move ≠ .stir (.deviceError code))
    (hr : Errorless r) : Errorless { r with now := r.now.meanwhile move } := by
  intro code hmem
  cases move with
  | stir stimulus =>
    rcases List.mem_append.mp hmem with hmem | hposted
    · exact hr code hmem
    · obtain ⟨event, hevent, heq⟩ := List.mem_map.mp hposted
      cases heq
      have hother : ∀ code, stimulus ≠ .deviceError code := by
        intro code' hstimulus
        exact hmove code' (congrArg _ hstimulus)
      cases (stir_idle r.now.subsystem hother).mute _ hevent
  | ask action | barrier ticket | shutdown =>
    rcases List.mem_append.mp hmem with hmem | hposted
    · exact hr code hmem
    · cases List.mem_singleton.mp hposted
  | _ => exact hr code hmem

theorem errorless_handle (htenured : Tenured ⟨h.before, past⟩) (hr : Errorless (before h past)) :
    Errorless ⟨h.after, h :: past⟩ := by
  intro code hmem
  obtain ⟨-, htalk, hmailbox⟩ := h.steps htenured.held
  change .hardware (.deviceError code) ∈ h.after.mailbox at hmem
  rw [hmailbox] at hmem
  rcases List.mem_append.mp hmem with hmem | hposted
  · exact hr code (List.mem_cons_of_mem h.message hmem)
  · obtain ⟨event, hevent, heq⟩ := List.mem_map.mp hposted
    cases heq
    exact (talk_mints htalk).errorless code hevent

theorem message_errorless (hr : Errorless (before h past)) (code : Int) :
    h.message ≠ .hardware (.deviceError code) := by
  intro hmessage
  apply hr code
  rw [← hmessage]
  exact List.mem_cons_self

/-- Whoever waits for a device still waits for it, if nothing came of a message. -/
theorem owed_kept (htenured : Tenured ⟨h.before, past⟩)
    (hwaiting : (before h past).now.awaited = [] ∨ ∃ device, Awaits (before h past) device)
    (haccepted : h.accepted = [])
    (hdelivered : h.message.delivered?.isSome → h.before.attached.openCallback = none)
    (hopener : h.after.attached.openCallback = h.before.attached.openCallback ∨
      h.before.stage ≠ .unopened) (callback : Tag) :
    owed ⟨h.after, h :: past⟩ callback = (before h past).owed callback := by
  have hafter := after_awaited_none htenured haccepted
  rcases hwaiting with hnone | ⟨device, hawaits⟩
  · rw [owed_none hnone]
    rw [before_awaited] at hnone
    exact owed_none (hafter.trans (List.append_eq_nil_iff.mp hnone).2) callback
  · obtain ⟨opener, hasked, -⟩ := hawaits.asked
    have hsilent : h.message.delivered? = none := by
      apply Option.not_isSome_iff_eq_none.mp
      intro hsome
      cases hasked.symm.trans (hdelivered hsome)
    have hsame : h.after.awaited = (before h past).now.awaited := by
      rw [before_awaited, hsilent]
      exact hafter
    have hremembered : h.after.attached.openCallback =
        (before h past).now.attached.openCallback := by
      rcases hopener with hremembered | hopen
      · exact hremembered
      · exact absurd hawaits.unopened hopen
    unfold owed
    rw [hsame, hremembered]

theorem balanced_handle (htenured : Tenured ⟨h.before, past⟩) (herrorless : Errorless (before h past))
    (hwaiting : Waiting (before h past)) (hr : Balanced (before h past)) :
    Balanced ⟨h.after, h :: past⟩ := by
  intro horderly callback
  obtain ⟨hfree, hpast⟩ := List.forall_mem_cons.mp horderly
  obtain ⟨hstep, -, -⟩ := h.steps htenured.held
  have hbalance : (before h past).answers callback + (before h past).owed callback =
    (openers past).count callback := hr hpast callback
  show answers ⟨h.after, h :: past⟩ callback + owed ⟨h.after, h :: past⟩ callback =
    (openers (h :: past)).count callback
  cases hstep.reply (message_errorless herrorless) with
  | atOnce index opener report hopening haccepted hreport houtcomes hopener =>
    obtain ⟨hnone, hbefore⟩ := not_awaited past hfree hopening
    have hafter : h.after.awaited = [] := (after_awaited_none htenured haccepted).trans hnone
    have hanswers : answers ⟨h.after, h :: past⟩ callback =
      (before h past).answers callback + if opener = callback then 1 else 0 :=
      answered_once houtcomes hreport callback
    rw [owed_none hbefore] at hbalance
    rw [owed_none hafter, count_openers hopening, hanswers]
    omega
  | later index opener id hopening haccepted houtcomes hopener =>
    obtain ⟨hnone, hbefore⟩ := not_awaited past hfree hopening
    obtain ⟨device, -, hafter⟩ := after_awaited_one htenured haccepted
    have hsome : h.after.awaited ≠ [] := by
      rw [hafter, hnone]
      exact List.cons_ne_nil device []
    have hanswers : answers ⟨h.after, h :: past⟩ callback = (before h past).answers callback :=
      congrArg (List.countP _) houtcomes
    rw [owed_none hbefore] at hbalance
    rw [owed_some hsome hopener, count_openers hopening, hanswers]
    omega
  | delivery opener report hdelivered haccepted hcallback hreport houtcomes hopener =>
    obtain ⟨device, hdelivered⟩ := Option.isSome_iff_exists.mp hdelivered
    obtain ⟨hawaits, hlast⟩ := hwaiting.delivered hpast hdelivered
    have hsome : (before h past).now.awaited ≠ [] := by
      rw [hawaits.awaited]
      exact List.cons_ne_nil device []
    have hafter : h.after.awaited = [] := (after_awaited_none htenured haccepted).trans hlast
    have hanswers : answers ⟨h.after, h :: past⟩ callback =
      (before h past).answers callback + if opener = callback then 1 else 0 :=
      answered_once houtcomes hreport callback
    rw [owed_some hsome hcallback] at hbalance
    rw [owed_none hafter, openers_other (Message.delivery_no_opening hdelivered), hanswers]
    omega
  | none hopening haccepted hdelivered houtcomes hopener =>
    have hanswers : answers ⟨h.after, h :: past⟩ callback = (before h past).answers callback :=
      congrArg (List.countP _) houtcomes
    have howed : owed ⟨h.after, h :: past⟩ callback = (before h past).owed callback := by
      refine owed_kept htenured (hwaiting hpast) haccepted hdelivered ?_ callback
      exact hopener.imp_right fun hopen => of_decide_eq_true hopen.1
    rw [openers_other hopening, hanswers, howed, hbalance]

theorem balanced_meanwhile (r : Run Simulator Device Session) (move : Move) (hr : Balanced r) :
    Balanced { r with now := r.now.meanwhile move } := by
  intro horderly callback
  have hbalance := hr horderly callback
  obtain ⟨hawaited, -⟩ := meanwhile_opened r.now move
  have hopener : (r.now.meanwhile move).attached.openCallback = r.now.attached.openCallback := by
    cases move <;> rfl
  have hanswers : answers { r with now := r.now.meanwhile move } callback = r.answers callback := by
    cases move <;> rfl
  unfold owed at hbalance ⊢
  rw [hawaited, hopener, hanswers]
  exact hbalance

/-- Someone asked for a camera, has been told nothing, and is remembered no more. -/
structure Unanswered (r : Run Simulator Device Session) (callback : Tag) : Prop where
  answers : r.answers callback = 0
  asked : callback ∈ openers r.past
  forgotten : r.now.attached.openCallback ≠ some callback

/-- Where every opening has a callback of its own, a callback that asked for a camera and was told nothing
is never told, once it is forgotten or another one asks. -/
theorem unanswered_handle {callback : Tag} (htenured : Tenured ⟨h.before, past⟩)
    (herrorless : Errorless (before h past)) (hdistinct : (openers (h :: past)).Nodup)
    (hanswers : (before h past).answers callback = 0) (hasked : callback ∈ openers past)
    (hforgotten : h.before.attached.openCallback = some callback →
      h.message.opening?.isSome ∧ h.before.stage = .unopened) :
    Unanswered ⟨h.after, h :: past⟩ callback := by
  obtain ⟨hstep, -, -⟩ := h.steps htenured.held
  have hother {index : Nat} {opener : Tag} (hopening : h.message.opening? = some (index, opener)) :
      opener ≠ callback := by
    rw [openers_opening hopening] at hdistinct
    rintro rfl
    exact (List.nodup_cons.mp hdistinct).1 hasked
  have hkept : callback ∈ openers (h :: past) := by
    cases hopening : h.message.opening? with
    | none => rwa [openers_other hopening]
    | some asked =>
      rw [openers_opening hopening]
      exact List.mem_cons_of_mem _ hasked
  cases hstep.reply (message_errorless herrorless) with
  | atOnce index opener report hopening haccepted hreport houtcomes hopener =>
    refine ⟨?_, hkept, ?_⟩
    · refine (answered_once houtcomes hreport callback).trans ?_
      rw [if_neg (hother hopening)]
      exact hanswers
    · intro hsame
      rcases hopener with hopener | ⟨hopen, hopener⟩
      · exact hother hopening (Option.some.inj (hopener.symm.trans hsame))
      · exact of_decide_eq_true hopen (hforgotten (hopener.symm.trans hsame)).2
  | later index opener id hopening haccepted houtcomes hopener =>
    refine ⟨(congrArg (List.countP _) houtcomes).trans hanswers, hkept, ?_⟩
    intro hsame
    exact hother hopening (Option.some.inj (hopener.symm.trans hsame))
  | delivery opener report hdelivered haccepted hcallback hreport houtcomes hopener =>
    obtain ⟨device, hdelivered⟩ := Option.isSome_iff_exists.mp hdelivered
    have hneither : h.before.attached.openCallback ≠ some callback := by
      intro hsame
      have hopening := (hforgotten hsame).1
      rw [Message.delivery_no_opening hdelivered] at hopening
      cases hopening
    refine ⟨?_, hkept, fun hsame => hneither (hopener.symm.trans hsame)⟩
    refine (answered_once houtcomes hreport callback).trans ?_
    rw [if_neg fun hsame => hneither (hcallback.trans (congrArg some hsame))]
    exact hanswers
  | none hopening haccepted hdelivered houtcomes hopener =>
    refine ⟨(congrArg (List.countP _) houtcomes).trans hanswers, hkept, ?_⟩
    intro hsame
    rcases hopener with hopener | ⟨-, hopener⟩
    · have hsome := (hforgotten (hopener.symm.trans hsame)).1
      rw [hopening] at hsome
      cases hsome
    · cases hopener.symm.trans hsame

/-- The opener who waits for a device is forgotten when another one comes. -/
theorem unanswered_of_overlap (htenured : Tenured ⟨h.before, past⟩)
    (herrorless : Errorless (before h past)) (hdistinct : (openers (h :: past)).Nodup)
    (hwaiting : (before h past).now.awaited = [] ∨ ∃ device, Awaits (before h past) device)
    (hbalanced : ∀ callback, (before h past).answers callback + (before h past).owed callback =
      (openers past).count callback) (hoverlaps : h.Overlaps) :
    ∃ callback, Unanswered ⟨h.after, h :: past⟩ callback := by
  obtain ⟨hopening, hawaited⟩ := hoverlaps
  have hpending : (before h past).now.awaited ≠ [] := by
    rw [before_awaited]
    exact List.append_ne_nil_of_right_ne_nil _ hawaited
  rcases hwaiting with hnone | ⟨device, hawaits⟩
  · exact absurd hnone hpending
  obtain ⟨callback, hcallback, q, hq, hasked, -⟩ := hawaits.asked
  have hmem : callback ∈ openers past :=
    List.mem_filterMap.mpr ⟨q, List.mem_of_find?_eq_some hq, by rw [hasked]; rfl⟩
  have hanswers : (before h past).answers callback = 0 := by
    have hbalance := hbalanced callback
    have hone := List.nodup_iff_count_le_one.mp (nodup_openers hdistinct) callback
    rw [owed_some hpending hcallback, if_pos rfl] at hbalance
    omega
  exact ⟨callback, unanswered_handle htenured herrorless hdistinct hanswers hmem
    fun _ => ⟨hopening, hawaits.unopened⟩⟩

/-- What is known of the openings in a run of the simulator without device errors. -/
structure Accounted (r : Run Simulator Device Session) : Prop where
  errorless : Errorless r
  waiting : Waiting r
  balanced : Balanced r
  unanswered : (openers r.past).Nodup → Orderly r.past ∨ ∃ callback, Unanswered r callback

theorem accounted_handle (htenured : Tenured ⟨h.before, past⟩) (hr : Accounted (before h past)) :
    Accounted ⟨h.after, h :: past⟩ where
  errorless := errorless_handle htenured hr.errorless
  waiting := waiting_handle htenured hr.waiting
  balanced := balanced_handle htenured hr.errorless hr.waiting hr.balanced
  unanswered hdistinct := by
    rcases hr.unanswered (nodup_openers hdistinct) with horderly | ⟨callback, hunanswered⟩
    · by_cases hoverlaps : h.Overlaps
      · exact Or.inr (unanswered_of_overlap htenured hr.errorless hdistinct (hr.waiting horderly)
          (hr.balanced horderly) hoverlaps)
      · exact Or.inl (List.forall_mem_cons.mpr ⟨hoverlaps, horderly⟩)
    · exact Or.inr ⟨callback, unanswered_handle htenured hr.errorless hdistinct
        hunanswered.answers hunanswered.asked fun hsame => absurd hsame hunanswered.forgotten⟩

theorem accounted_meanwhile {move : Move} (hmove : ∀ code, move ≠ .stir (.deviceError code))
    (hr : Accounted r) : Accounted { r with now := r.now.meanwhile move } where
  errorless := errorless_meanwhile hmove hr.errorless
  waiting := waiting_meanwhile r move hr.waiting
  balanced := balanced_meanwhile r move hr.balanced
  unanswered hdistinct := by
    rcases hr.unanswered hdistinct with horderly | ⟨callback, hunanswered⟩
    · exact Or.inl horderly
    · refine Or.inr ⟨callback, ?_, hunanswered.asked, ?_⟩
      · cases move <;> exact hunanswered.answers
      · cases move <;> exact hunanswered.forgotten

theorem accounted_start (world : Simulator) (roster : Roster) (historySize : Nat) :
    Accounted (start world roster historySize) where
  errorless _ hmem := by cases hmem
  waiting _ := Or.inl rfl
  balanced _ _ := rfl
  unanswered _ := Or.inl fun _ hmem => by cases hmem

theorem attributed (hbefore : r.Throughout fun r => r.Tenured ∧ Waiting r)
    (horderly : Orderly r.past) : r.Attributed := by
  intro h past hsuffix callback camera hopened
  obtain ⟨htenured, hwaiting⟩ := hbefore h past hsuffix
  have hheld : h.before.attached.device.isSome → h.before.stage ≠ .unopened := htenured.held
  obtain ⟨hstep, -, -⟩ := h.steps hheld
  obtain ⟨device, hdelivered, hopener, hindex, hdevice⟩ := hstep.adopting hopened
  have hpast : Orderly past := fun e he => horderly e (hsuffix.subset (List.mem_cons_of_mem h he))
  refine ⟨device, hdevice, ?_⟩
  obtain ⟨hawaits, -⟩ := hwaiting.delivered hpast hdelivered
  obtain ⟨asker, hasker, hasked⟩ := hawaits.asked
  have hsame : asker = callback := Option.some.inj (hasker.symm.trans hopener)
  rw [hindex, ← hsame]
  exact hasked

/-- Without device errors, every opening has one outcome that its own callback is told, and a camera that is
reported as opened is the one that was asked for, as long as no camera is asked for while a device is still
to be delivered. Where every opening has a callback of its own, nothing else will do. -/
theorem answered_iff_orderly (world : Simulator) (roster : Roster) (historySize : Nat)
    (moves : List Move) (hmoves : ∀ move ∈ moves, ∀ code, move ≠ .stir (.deviceError code)) :
    let r := (Run.start world roster historySize).run moves
    (Orderly r.past → (r.now.mailbox = [] → r.Answered) ∧ r.Attributed) ∧
      ((openers r.past).Nodup → r.Answered → Orderly r.past) := by
  intro r
  obtain ⟨-, hr, hbefore⟩ := invariant_tenured Accounted
    (fun move => ∀ code, move ≠ .stir (.deviceError code))
    (fun r move hmove hr => accounted_meanwhile hmove hr)
    (fun h past htenured hr => accounted_handle htenured hr) world roster historySize hmoves
    (accounted_start world roster historySize)
  refine ⟨fun horderly => ⟨?_, ?_⟩, ?_⟩
  · intro hmailbox callback
    have hbalance := hr.balanced horderly callback
    have hnone : r.now.awaited = [] := congrArg (List.filterMap _) hmailbox
    rwa [owed_none hnone, Nat.add_zero] at hbalance
  · refine attributed ?_ horderly
    intro h past hsuffix
    obtain ⟨htenured, haccounted⟩ := hbefore h past hsuffix
    exact ⟨htenured, haccounted.waiting⟩
  · intro hdistinct hanswered
    rcases hr.unanswered hdistinct with horderly | ⟨callback, hunanswered⟩
    · exact horderly
    · have hcount := hanswered callback
      rw [hunanswered.answers] at hcount
      exact absurd hunanswered.asked (List.count_eq_zero.mp hcount.symm)

/-- A camera is asked for, and another one once it has come. -/
def patientMoves : List Move :=
  [.ask (.openCamera 0 0), .handle, .handle, .ask (.openCamera 1 1), .handle]

theorem patient_answered : (run patientMoves).Answered ∧ (run patientMoves).Attributed := by
  obtain ⟨hanswered, -⟩ := answered_iff_orderly (withDevices ["0", "1"])
    (Roster.empty.update ["0", "1"]) 20 patientMoves (by simp [patientMoves])
  obtain ⟨hanswered, hattributed⟩ := hanswered (by decide)
  exact ⟨hanswered rfl, hattributed⟩

/-- The camera that is asked for too early does not exist, but the one before it is then reported to the
wrong callback, and the first callback is told nothing. -/
theorem impatient_not_answered :
    let r := run [.ask (.openCamera 0 0), .ask (.openCamera 9 1), .handle, .handle, .handle]
    r.now.mailbox = [] ∧ ¬ r.Answered :=
  ⟨rfl, fun hanswered => absurd (hanswered 0) (by decide)⟩

end Simulator

end CameraControl
