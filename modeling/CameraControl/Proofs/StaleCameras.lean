import Mathlib.Data.List.Induction
import CameraControl.Agent.Calls
import CameraControl.Proofs.ActionTable
import CameraControl.Proofs.Standstill
import CameraControl.Proofs.Targets

/-!
Cameras in the hands of callers. All that a caller's camera adds to what is asked through it is its index,
and only when it is asked for again. Two agents are compared here with a blurred eye, which cannot make out
the index that a reconnect carries, nor what the answer to it says of the index. As long as every reconnect
finds a camera open, agents that look alike go on alike, so it does not matter through which camera something
is asked: it is done to the camera that is open when its turn comes.
-/
namespace CameraControl

/-- An action without the index of the camera that is asked for again. -/
def Action.blur : Action → Action
  | reconnect _ callback => reconnect 0 callback
  | action => action

theorem Action.blur_other {action : Action} (h : ∀ index callback, action ≠ .reconnect index callback) :
    action.blur = action := by
  cases action <;> first | rfl | exact absurd rfl (h _ _)

/-- Actions that look alike are the same, or are both reconnects. -/
theorem Action.eq_of_blur {action action' : Action} (h : action.blur = action'.blur) :
    action = action' ∨ ∃ index index' callback,
      action = .reconnect index callback ∧ action' = .reconnect index' callback := by
  by_cases hother : ∀ index callback, action ≠ .reconnect index callback
  · left
    rw [blur_other hother] at h
    cases action' with
    | reconnect index' callback' => exact absurd h (hother _ _)
    | _ => exact h
  · simp only [ne_eq, not_forall, not_not] at hother
    obtain ⟨index, callback, rfl⟩ := hother
    cases action' with
    | reconnect index' callback' =>
      cases h
      exact Or.inr ⟨index, index', callback, rfl, rfl⟩
    | _ => cases h

def Report.blur : Report → Report
  | alreadyOpen callback _ _ => alreadyOpen callback 0 ""
  | report => report

def Reported.blur (r : Reported) : Reported := { r with report := r.report.blur }

section

variable {σ δ τ : Type}

def Message.blur : Message δ τ → Message δ τ
  | action a => action a.blur
  | message => message

def Controller.blur (c : Controller σ δ τ) : Controller σ δ τ :=
  { c with mailbox := c.mailbox.map .blur, reports := c.reports.map .blur }

def Handled.blur (h : Handled σ δ τ) : Handled σ δ τ := ⟨h.before.blur, h.message.blur⟩

/-- The calls that a message came to. -/
def Handled.calls [Subsystem σ δ τ] (h : Handled σ δ τ) : List (Exchange δ τ) := h.recorded.subsystem.record

/-- If this is a reconnect, a camera is open. -/
def Handled.FoundOpen (h : Handled σ δ τ) : Prop :=
  ∀ index callback, h.message = .action (.reconnect index callback) → h.before.stage ≠ .unopened

theorem Message.eq_of_blur {message message' : Message δ τ} (h : message.blur = message'.blur) :
    message = message' ∨ ∃ index index' callback,
      message = .action (.reconnect index callback) ∧ message' = .action (.reconnect index' callback) := by
  cases message with
  | action action =>
    cases message' with
    | action action' =>
      rcases Action.eq_of_blur (Message.action.inj h) with rfl | ⟨index, index', callback, rfl, rfl⟩
      · exact Or.inl rfl
      · exact Or.inr ⟨index, index', callback, rfl, rfl⟩
    | _ => cases h
  | _ =>
    left
    cases message' <;> cases h
    rfl

end

namespace Dispatcher

variable {κ κ' : Type} (f : κ → κ')

def Item.map : Item κ → Item κ'
  | job j => job (f j)
  | stop => stop

def Worker.map : Worker κ → Worker κ'
  | idle => idle
  | running job => running (f job)
  | ended => ended

/-- The dispatcher with other jobs in place of its own. -/
def map (d : Dispatcher κ) : Dispatcher κ' where
  capacity := d.capacity
  queue := d.queue.map (.map f)
  worker := d.worker.map f
  listening := d.listening
  marker := d.marker
  accepted := d.accepted.map f
  finished := d.finished.map f

variable (d : Dispatcher κ)

theorem current?_map : (d.map f).current? = d.current?.map f := by
  unfold current? map
  cases d.worker <;> rfl

theorem hasEnded_map : (d.map f).hasEnded = d.hasEnded := by
  unfold hasEnded map
  cases d.worker <;> rfl

theorem hasRoom_map : (d.map f).hasRoom = d.hasRoom := by
  have hidle : (d.map f).isIdle = d.isIdle := by
    unfold isIdle map
    cases d.worker <;> rfl
  unfold hasRoom
  rw [hidle]
  simp only [map, List.isEmpty_map, List.length_map]

theorem accepts_map : (d.map f).accepts = d.accepts := by
  unfold accepts
  rw [hasRoom_map]
  rfl

theorem submit_map (job : κ) : (d.map f).submit (f job) = (d.submit job).map (map f) := by
  unfold submit
  rw [hasEnded_map, accepts_map]
  split_ifs
  · rfl
  · simp only [map, Except.map, List.map_append, List.map_cons, List.map_nil, Item.map]
  · rfl

theorem take?_map : (d.map f).take? = d.take?.map (map f) := by
  unfold take? map
  rcases d.worker with _ | job | _
  · rcases d.queue with _ | ⟨_ | _, rest⟩ <;> rfl
  · rfl
  · rfl

theorem finish?_map : (d.map f).finish? = d.finish?.map (map f) := by
  unfold finish? map
  cases d.marker <;> cases d.worker <;>
    simp only [Worker.map, Option.map, List.map_append, List.map_cons, List.map_nil]

theorem place?_map : (d.map f).place? = d.place?.map (map f) := by
  have hmarker : (d.map f).marker = d.marker := rfl
  unfold place?
  rw [hmarker, hasRoom_map]
  cases d.marker <;> dsimp only <;> try rfl
  all_goals
    split_ifs
    · simp only [map, Option.map, List.map_append, List.map_cons, List.map_nil, Item.map]
    · rfl

theorem shutDown_map : (d.map f).shutDown = d.shutDown.map f := by
  have hmarker : (d.map f).marker = d.marker := rfl
  unfold shutDown claim
  rw [hmarker]
  split_ifs <;> rfl

end Dispatcher

namespace Controller

variable {σ δ τ : Type} {c c' : Controller σ δ τ}

/-- The controller without what waits and what was reported. -/
def alone (c : Controller σ δ τ) : Controller σ δ τ := { c with mailbox := [], reports := [] }

/-- The guise that adds what waits and what was reported. -/
def carried (c : Controller σ δ τ) : Guise σ σ δ τ :=
  { world := id, mailbox := c.mailbox, reports := c.reports }

theorem alone_under (c : Controller σ δ τ) : c.alone.under c.carried = c := by
  unfold alone under carried
  simp only [List.append_nil, Nat.zero_add, Option.or_none, id]

theorem under_blur (h : c.blur = c'.blur) (x : Controller σ δ τ) :
    (x.under c.carried).blur = (x.under c'.carried).blur := by
  have hmailbox : c.mailbox.map Message.blur = c'.mailbox.map Message.blur := congrArg mailbox h
  have hreports : c.reports.map Reported.blur = c'.reports.map Reported.blur := congrArg reports h
  unfold blur under carried
  simp only [List.map_append, hmailbox, hreports]

variable [Subsystem σ δ τ]

/-- A message is handled alike by controllers that look alike. -/
theorem handle_alike (h : c.blur = c'.blur) (message : Message δ τ) :
    (c.handle message).blur = (c'.handle message).blur := by
  have hfaithful (c : Controller σ δ τ) : c.carried.Faithful :=
    ⟨fun _ _ => rfl, fun _ => rfl, fun _ _ _ => rfl, fun _ _ => rfl⟩
  have hhandle (c : Controller σ δ τ) : c.handle message = (c.alone.handle message).under c.carried := by
    rw [← handle_under (hfaithful c) c.alone (Or.inl rfl), alone_under]
  have halone : c.blur.alone = c'.blur.alone := congrArg alone h
  rw [hhandle c, hhandle c']
  exact (under_blur h _).trans (congrArg (fun x => ((x.handle message).under c'.carried).blur) halone)

/-- While a camera is open, it makes no difference which one is asked for again. -/
theorem handle_reconnect (hopen : c.stage ≠ .unopened) (index index' : Nat) (callback : Tag) :
    (c.handle (.action (.reconnect index callback))).blur =
      (c.handle (.action (.reconnect index' callback))).blur := by
  have hsuits (index : Nat) : ¬ (Action.reconnect index callback).Suits c.stage := hopen
  show (c.act _).blur = (c.act _).blur
  rw [act_refused (hsuits index), act_refused (hsuits index'), refuse_eq, refuse_eq]
  unfold blur
  simp only [List.map_append]
  rfl

/-- As long as a reconnect finds a camera open, messages that look alike are handled alike. -/
theorem handle_blur (h : c.blur = c'.blur) {message message' : Message δ τ}
    (hmessage : message.blur = message'.blur)
    (hopen : ∀ index callback, message = .action (.reconnect index callback) → c.stage ≠ .unopened) :
    (c.handle message).blur = (c'.handle message').blur := by
  rcases Message.eq_of_blur hmessage with rfl | ⟨index, index', callback, rfl, rfl⟩
  · exact handle_alike h message
  · rw [handle_reconnect (hopen index callback rfl) index index']
    exact handle_alike h _

end Controller

section

variable {σ δ τ : Type} [Subsystem σ δ τ] {h h' : Handled σ δ τ}

theorem Handled.after_alike (hopen : h.FoundOpen) (halike : h.blur = h'.blur) :
    h.after.blur = h'.after.blur := by
  obtain ⟨hbefore, hmessage⟩ := Handled.mk.inj halike
  exact Controller.handle_blur hbefore hmessage hopen

theorem Handled.calls_alike (hopen : h.FoundOpen) (halike : h.blur = h'.blur) : h.calls = h'.calls := by
  obtain ⟨hbefore, hmessage⟩ := Handled.mk.inj halike
  have hrecorded : h.before.recorded.blur = h'.before.recorded.blur :=
    congrArg Controller.recorded hbefore
  have hafter : h.recorded.blur = h'.recorded.blur :=
    Controller.handle_blur hrecorded hmessage hopen
  exact congrArg (·.subsystem.record) hafter

/-- Nothing comes of an action that is not let in, or that only reads. -/
theorem Handled.nothing_done {h : Handled σ δ τ} {action : Action} (haction : h.message = .action action)
    (hidle : ¬ action.Suits h.before.stage ∨ ∃ ticket, action = .querySettings ticket) :
    h.after.attached = h.before.attached ∧ h.after.cell = h.before.cell ∧
      h.after.subsystem = h.before.subsystem ∧ h.calls = [] := by
  unfold Handled.after Handled.calls Handled.recorded
  rw [haction]
  rcases hidle with hsuits | ⟨ticket, rfl⟩
  · have hrecorded : ¬ action.Suits h.before.recorded.stage := hsuits
    show (h.before.act action).attached = _ ∧ (h.before.act action).cell = _ ∧
      (h.before.act action).subsystem = _ ∧ (h.before.recorded.act action).subsystem.record = []
    rw [Controller.act_refused hsuits, Controller.act_refused hrecorded, Controller.refuse_eq,
      Controller.refuse_eq]
    exact ⟨rfl, rfl, rfl, rfl⟩
  · exact ⟨rfl, rfl, rfl, rfl⟩

/-- Messages that came one after the other, and those that look alike. -/
theorem Handled.map_calls_alike {past past' : List (Handled σ δ τ)} (hopen : ∀ h ∈ past, h.FoundOpen)
    (halike : past.map Handled.blur = past'.map Handled.blur) :
    past.map Handled.calls = past'.map Handled.calls := by
  induction past generalizing past' with
  | nil =>
    obtain rfl := List.map_eq_nil_iff.mp halike.symm
    rfl
  | cons h past ih =>
    obtain ⟨h', rest', rfl, hh, hrest⟩ := List.map_eq_cons_iff.mp halike.symm
    obtain ⟨hfirst, hothers⟩ := List.forall_mem_cons.mp hopen
    rw [List.map_cons, List.map_cons, calls_alike hfirst hh.symm, ih hothers hrest.symm]

end

namespace Agent

variable {σ δ τ : Type}

def Job.blur : Job → Job
  | post wanted action => post wanted action.blur
  | release ticket => release ticket

def blur (a : Agent σ δ τ) : Agent σ δ τ :=
  { a with controller := a.controller.blur, dispatcher := a.dispatcher.map Job.blur }

def Move.blur : Move σ δ τ → Move σ δ τ
  | submit job => submit job.blur
  | move => move

section
variable (a : Agent σ δ τ)

theorem isServed_blur : a.blur.isServed = a.isServed := rfl

theorem deliver_blur (messages : List (Message δ τ)) :
    a.blur.deliver (messages.map .blur) = (a.deliver messages).blur := by
  unfold deliver
  rw [isServed_blur]
  split_ifs
  · unfold blur Controller.blur
    simp only [List.map_append]
  · rfl

theorem bury_blur : a.blur.bury = a.bury.blur := by
  unfold bury
  rw [isServed_blur]
  split_ifs <;> rfl

theorem finish?_blur : a.blur.finish? = a.finish?.map blur := by
  have hfinish : a.blur.dispatcher.finish? = a.dispatcher.finish?.map (.map Job.blur) :=
    Dispatcher.finish?_map Job.blur a.dispatcher
  unfold finish?
  rw [hfinish]
  cases a.dispatcher.finish? <;> rfl

theorem work?_blur (job : Job) : a.blur.work? job.blur = (a.work? job).map blur := by
  have hcell : a.blur.controller.cell = a.controller.cell := rfl
  have hposted (action : Action) : (a.blur.deliver [.action action.blur]).finish? =
      ((a.deliver [.action action]).finish?).map blur := by
    rw [← finish?_blur, ← deliver_blur]
    rfl
  cases job with
  | post wanted action =>
    cases wanted with
    | none => exact hposted action
    | some wanted =>
      simp only [work?, Job.blur, hcell]
      rcases a.controller.cell.check wanted with _ | _ | _
      · rfl
      · exact finish?_blur a
      · exact hposted action
  | release ticket =>
    have hreleasing : a.blur.releasing = a.releasing := rfl
    have hacknowledged : a.blur.controller.acknowledged = a.controller.acknowledged := rfl
    simp only [work?, Job.blur, isServed_blur, hreleasing, hacknowledged]
    cases a.isServed with
    | false => exact finish?_blur a
    | true =>
      cases a.releasing with
      | unposted =>
        exact congrArg (fun a : Agent σ δ τ => some { a with releasing := .posted })
          (deliver_blur a [.action .release])
      | posted =>
        exact congrArg (fun a : Agent σ δ τ => some { a with releasing := .awaiting })
          (deliver_blur a [.barrier ticket])
      | awaiting =>
        by_cases hpassed : ticket ∈ a.controller.acknowledged
        · simp only [if_pos hpassed]
          exact finish?_blur a
        · simp only [if_neg hpassed]
          rfl

theorem giveUp?_blur : a.blur.giveUp? = a.giveUp?.map blur := by
  have hreleasing : a.blur.releasing = a.releasing := rfl
  unfold giveUp?
  rw [hreleasing]
  split_ifs
  · exact finish?_blur a
  · rfl

theorem dispatch?_blur : a.blur.dispatch? = a.dispatch?.map blur := by
  have hplace : a.blur.dispatcher.place? = a.dispatcher.place?.map (.map Job.blur) :=
    Dispatcher.place?_map Job.blur a.dispatcher
  have htake : a.blur.dispatcher.take? = a.dispatcher.take?.map (.map Job.blur) :=
    Dispatcher.take?_map Job.blur a.dispatcher
  have hcurrent : a.blur.dispatcher.current? = a.dispatcher.current?.map Job.blur :=
    Dispatcher.current?_map Job.blur a.dispatcher
  unfold dispatch?
  rw [hplace, hcurrent, htake]
  cases a.dispatcher.place? with
  | some d => rfl
  | none =>
    cases a.dispatcher.current? with
    | some job => exact work?_blur a job
    | none => cases a.dispatcher.take? <;> rfl

theorem recycle_blur : a.blur.recycle = a.recycle.blur := by
  have hrecycling : a.blur.recycling = a.recycling := rfl
  unfold recycle
  rw [hrecycling]
  cases a.recycling with
  | unasked =>
    exact congrArg (fun a : Agent σ δ τ => { a with recycling := .awaitingController })
      (deliver_blur a [.shutdown])
  | _ => rfl

theorem proceed?_blur : a.blur.proceed? = a.proceed?.map blur := by
  have hrecycling : a.blur.recycling = a.recycling := rfl
  have hshut : a.blur.dispatcher.shutDown = a.dispatcher.shutDown.map Job.blur :=
    Dispatcher.shutDown_map Job.blur a.dispatcher
  have hended : a.blur.dispatcher.hasEnded = a.dispatcher.hasEnded :=
    Dispatcher.hasEnded_map Job.blur a.dispatcher
  unfold proceed?
  rw [hrecycling, isServed_blur, hshut, hended]
  cases a.recycling with
  | awaitingController => cases a.isServed <;> rfl
  | awaitingDispatcher => cases a.dispatcher.hasEnded <;> rfl
  | _ => rfl

theorem submit_blur (job : Job) : (a.blur.submit job.blur).toOption = (a.submit job).toOption.map blur := by
  have hsubmit : a.blur.dispatcher.submit job.blur = (a.dispatcher.submit job).map (.map Job.blur) :=
    Dispatcher.submit_map Job.blur a.dispatcher job
  unfold submit
  rw [hsubmit]
  cases a.dispatcher.submit job <;> rfl

theorem environment_blur (world : σ) (events : List (Event δ τ)) :
    a.blur.environment world events = (a.environment world events).blur := by
  have hevents : (events.map Message.hardware).map Message.blur = events.map Message.hardware := by
    rw [List.map_map]
    rfl
  have hdelivered := deliver_blur { a with controller := { a.controller with subsystem := world } }
    (events.map .hardware)
  rw [hevents] at hdelivered
  exact hdelivered

/-- What the controller handles next. -/
def facing? : Option (Handled σ δ τ) :=
  match a.controller.status, a.controller.mailbox with
  | .running, message :: rest => some ⟨{ a.controller with mailbox := rest }, message⟩
  | _, _ => none

theorem facing?_blur : a.blur.facing? = a.facing?.map Handled.blur := by
  have hstatus : a.blur.controller.status = a.controller.status := rfl
  have hmailbox : a.blur.controller.mailbox = a.controller.mailbox.map .blur := rfl
  unfold facing?
  rw [hstatus, hmailbox]
  cases a.controller.status <;> cases a.controller.mailbox <;> rfl

variable [Subsystem σ δ τ]

/-- All moves but those of the controller are made with a blurred eye, too. -/
theorem step?_blur {move : Move σ δ τ} (hmove : move ≠ .handle) :
    a.blur.step? move.blur = (a.step? move).map blur := by
  cases move with
  | submit job => exact submit_blur a job
  | environment world events => exact congrArg some (environment_blur a world events)
  | recycle => exact congrArg some (recycle_blur a)
  | handle => exact absurd rfl hmove
  | dispatch => exact dispatch?_blur a
  | giveUp => exact giveUp?_blur a
  | proceed => exact proceed?_blur a
  | _ => rfl

theorem handle?_eq : a.handle? = a.facing?.map fun h => { a with controller := h.after }.bury := by
  cases hstatus : a.controller.status <;> cases hmailbox : a.controller.mailbox <;>
    simp only [handle?, Controller.step?, facing?, hstatus, hmailbox, Option.map, Handled.after]

end

variable {a b : Agent σ δ τ}

theorem facing?_alike (halike : a.blur = b.blur) :
    a.facing?.map Handled.blur = b.facing?.map Handled.blur := by
  rw [← facing?_blur, ← facing?_blur, halike]

variable [Subsystem σ δ τ]

/-- Agents that look alike make a move alike, as long as a reconnect finds a camera open. -/
theorem step?_alike (halike : a.blur = b.blur) {move : Move σ δ τ}
    (hopen : move = .handle → ∀ h ∈ a.facing?, h.FoundOpen) :
    (a.step? move).map blur = (b.step? move).map blur := by
  by_cases hmove : move = .handle
  · subst hmove
    have hfacing := facing?_alike halike
    have hopen := hopen rfl
    show a.handle?.map blur = b.handle?.map blur
    rw [handle?_eq, handle?_eq]
    cases hh : a.facing? with
    | none =>
      rw [hh] at hfacing
      rw [Option.map_eq_none_iff.mp hfacing.symm]
      rfl
    | some h =>
      rw [hh] at hfacing
      obtain ⟨h', hh', hblur⟩ := Option.map_eq_some_iff.mp hfacing.symm
      have hafter := Handled.after_alike (hopen h hh) hblur.symm
      have hblurred (x : Agent σ δ τ) (c : Controller σ δ τ) :
          ({ x with controller := c } : Agent σ δ τ).bury.blur =
            ({ x.blur with controller := c.blur } : Agent σ δ τ).bury := (bury_blur _).symm
      rw [hh']
      simp only [Option.map, hblurred, halike, hafter]
  · rw [← step?_blur a hmove, ← step?_blur b hmove, halike]

namespace Course

/-- Two courses that look alike. -/
structure Alike (s s' : Course σ δ τ) : Prop where
  now : s.now.blur = s'.now.blur
  past : s.past.map Handled.blur = s'.past.map Handled.blur

theorem handle_past (s : Course σ δ τ) : s.handle.past = s.now.facing?.toList ++ s.past := by
  cases hstatus : s.now.controller.status <;> cases hmailbox : s.now.controller.mailbox <;>
    simp only [handle, handle?, Controller.step?, facing?, hstatus, hmailbox, Option.map,
      Option.toList, List.nil_append, List.cons_append]

theorem step_past (s : Course σ δ τ) {move : Move σ δ τ} (hmove : move ≠ .handle) :
    (s.step move).past = s.past := by
  have h := s.step_cases move
  generalize s.step move = s' at h
  cases h with
  | handled => exact absurd rfl hmove
  | _ => rfl

theorem Alike.step {s s' : Course σ δ τ} (h : s.Alike s') {move : Move σ δ τ}
    (hopen : ∀ h ∈ (s.step move).past, h.FoundOpen) : (s.step move).Alike (s'.step move) := by
  constructor
  · have hstep : (s.now.step? move).map blur = (s'.now.step? move).map blur := by
      refine step?_alike h.now ?_
      rintro rfl x hx
      refine hopen x ?_
      show x ∈ s.handle.past
      rw [handle_past]
      exact List.mem_append_left _ (Option.mem_toList.mpr hx)
    rw [step_now, step_now, ← Option.getD_map blur, ← Option.getD_map blur, hstep, h.now]
  · by_cases hmove : move = .handle
    · subst hmove
      have hfacing := congrArg Option.toList (facing?_alike h.now)
      rw [Option.toList_map, Option.toList_map] at hfacing
      show s.handle.past.map Handled.blur = s'.handle.past.map Handled.blur
      rw [handle_past, handle_past, List.map_append, List.map_append, hfacing, h.past]
    · rw [step_past s hmove, step_past s' hmove, h.past]

theorem past_subset_step (s : Course σ δ τ) (move : Move σ δ τ) : s.past ⊆ (s.step move).past := by
  by_cases hmove : move = .handle
  · subst hmove
    show s.past ⊆ s.handle.past
    rw [handle_past]
    exact List.subset_append_right _ _
  · rw [step_past s hmove]
    exact List.Subset.refl _

theorem Alike.run {s s' : Course σ δ τ} (h : s.Alike s') (moves : List (Move σ δ τ))
    (hopen : ∀ h ∈ (s.run moves).past, h.FoundOpen) : (s.run moves).Alike (s'.run moves) := by
  induction moves using List.reverseRecOn with
  | nil => exact h
  | append_singleton moves move ih =>
    rw [run_append] at hopen ⊢
    rw [run_append]
    have hrun := ih fun h hh => hopen h (past_subset_step _ move hh)
    exact hrun.step hopen

end Course

/-- What a caller can ask through a camera that was opened for it. -/
inductive Operation
  | applySettings (settings : Settings)
  | querySettings
  | setPreviewTexture (texture : TextureId)
  | startPreview (callback : Option Tag)
  | stopPreview
  | autoFocus (callback : Option Tag)
  | cancelAutoFocus
  | setMoveCallback (callback : Option Tag)
  | reconnect (callback : Tag)
  | release
deriving DecidableEq, Repr

/-- What the controller is asked to do, where settings are to be handed over under a ticket. -/
def Operation.action (camera : Camera) (ticket : Ticket) : Operation → Action
  | applySettings settings => .applySettings settings
  | querySettings => .querySettings ticket
  | setPreviewTexture texture => .setPreviewTexture texture
  | startPreview callback => .startPreview callback
  | stopPreview => .stopPreview
  | autoFocus callback => .autoFocus callback
  | cancelAutoFocus => .cancelAutoFocus
  | setMoveCallback callback => .setMoveCallback callback
  | reconnect callback => .reconnect camera.index callback
  | release => .release

def Operation.isReconnect : Operation → Bool
  | reconnect _ => true
  | _ => false

variable {σ δ τ : Type}

def operate (a : Agent σ δ τ) (camera : Camera) : Operation → Except Failure (Agent σ δ τ)
  | .applySettings settings => a.applySettings settings
  | .querySettings => a.querySettings.map Prod.fst
  | .setPreviewTexture texture => a.setPreviewTexture texture
  | .startPreview callback => a.startPreview callback
  | .stopPreview => a.stopPreview
  | .autoFocus callback => a.autoFocus callback
  | .cancelAutoFocus => a.cancelAutoFocus
  | .setMoveCallback callback => a.setMoveCallback callback
  | .reconnect callback => a.reconnect camera callback
  | .release => a.close

section

variable {a b : Agent σ δ τ}

theorem submit_controller {job : Job} (hsubmit : a.submit job = .ok b) : b.controller = a.controller := by
  unfold submit at hsubmit
  cases hd : a.dispatcher.submit job with
  | error failure =>
    rw [hd] at hsubmit
    cases hsubmit
  | ok d =>
    rw [hd] at hsubmit
    cases hsubmit
    rfl

/-- A call queues its action as a job, which waits for the stages that the action needs and for no others. -/
theorem operate_awaits {camera : Camera} {op : Operation} (hcalled : a.operate camera op = .ok b) :
    let action := op.action camera a.tickets
    ∃ tickets, ({ a with tickets } : Agent σ δ τ).submit (.post action.awaited action) = .ok b := by
  cases op with
  | applySettings settings =>
    have happlied : a.applySettings settings = .ok b := hcalled
    unfold applySettings at happlied
    split at happlied
    · cases happlied
    · exact ⟨a.tickets, happlied⟩
  | querySettings =>
    have hqueried : a.querySettings.map Prod.fst = .ok b := hcalled
    unfold querySettings ask at hqueried
    dsimp only at hqueried
    cases hsubmit : a.issue.1.submit (.post none (.querySettings a.issue.2)) with
    | error failure =>
      rw [hsubmit] at hqueried
      cases hqueried
    | ok asked =>
      rw [hsubmit] at hqueried
      cases hqueried
      exact ⟨a.tickets + 1, hsubmit⟩
  | _ => exact ⟨a.tickets, hcalled⟩

/-- A call does nothing to the controller. -/
theorem operate_controller {camera : Camera} {op : Operation} (hcalled : a.operate camera op = .ok b) :
    b.controller = a.controller := by
  obtain ⟨tickets, hsubmit⟩ := operate_awaits hcalled
  exact submit_controller (a := { a with tickets }) hsubmit

/-- The camera that it is called through is of no account for an operation, but for its index. -/
theorem operate_alike {old : Camera} (new : Camera) {op : Operation} (hcalled : a.operate old op = .ok b) :
    ∃ b', a.operate new op = .ok b' ∧ b.blur = b'.blur ∧ (op.isReconnect = false → b = b') := by
  cases op with
  | reconnect callback =>
    have hold := submit_blur a (.post none (.reconnect old.index callback))
    have hnew := submit_blur a (.post none (.reconnect new.index callback))
    have hsubmit : a.submit (.post none (.reconnect old.index callback)) = .ok b := hcalled
    have halike := hold.symm.trans hnew
    rw [hsubmit] at halike
    show ∃ b', a.submit (.post none (.reconnect new.index callback)) = .ok b' ∧ _
    cases hsubmit' : a.submit (.post none (.reconnect new.index callback)) with
    | error failure =>
      rw [hsubmit'] at halike
      cases halike
    | ok b' =>
      rw [hsubmit'] at halike
      exact ⟨b', rfl, Option.some.inj halike, nofun⟩
  | _ => exact ⟨b, hcalled, rfl, fun _ => rfl⟩

end

variable [Subsystem σ δ τ]

/-- Through whichever camera something is asked, be it one that was released long ago: the call itself
changes nothing of the camera that is open now, and from then on everything goes as if it were asked through
the camera that is open now, whatever is done and in whatever order. Only the index that a reconnect carries
is the camera's own, and it does not matter as long as reconnects find a camera open. What an action calls on
when its turn comes is the device and the session held then; if the stage does not suit it, or it only reads
the settings, it calls on nothing and changes nothing. -/
theorem cameras_interchangeable (a : Agent σ δ τ) (old new : Camera) (op : Operation) {b : Agent σ δ τ}
    (hcalled : a.operate old op = .ok b) :
    b.controller = a.controller ∧ ∃ b', a.operate new op = .ok b' ∧ ∀ later : List (Move σ δ τ),
      let s := (Course.start b).run later
      let s' := (Course.start b').run later
      ((op.isReconnect → ∀ h ∈ s.past, h.FoundOpen) →
        s.now.controller.attached = s'.now.controller.attached ∧
        s.now.controller.cell = s'.now.controller.cell ∧
        s.now.controller.subsystem = s'.now.controller.subsystem ∧
        s.past.map Handled.calls = s'.past.map Handled.calls) ∧
      ∀ h ∈ s.past, ∀ action, h.message = .action action →
        (∀ x ∈ h.calls, h.before.attached.Covers x.call) ∧
        (¬ action.Suits h.before.stage ∨ (∃ ticket, action = .querySettings ticket) →
          h.after.attached = h.before.attached ∧ h.after.cell = h.before.cell ∧
          h.after.subsystem = h.before.subsystem ∧ h.calls = []) := by
  obtain ⟨b', hcalled', halike, hsame⟩ := operate_alike new hcalled
  refine ⟨operate_controller hcalled, b', hcalled', ?_⟩
  intro later s s'
  refine ⟨?_, fun h _ action haction => ⟨Handled.calls_covered haction, Handled.nothing_done haction⟩⟩
  intro hopen
  cases hop : op.isReconnect with
  | false =>
    obtain rfl := hsame hop
    exact ⟨rfl, rfl, rfl, rfl⟩
  | true =>
    have hfound := hopen hop
    have hstart : (Course.start b).Alike (Course.start b') := ⟨halike, rfl⟩
    have hrun := hstart.run later hfound
    have hseen {α : Type} (see : Controller σ δ τ → α) :
        see s.now.controller.blur = see s'.now.controller.blur :=
      congrArg (fun a : Agent σ δ τ => see a.controller) hrun.now
    exact ⟨hseen Controller.attached, hseen Controller.cell, hseen Controller.subsystem,
      Handled.map_calls_alike hfound hrun.past⟩

/-- An agent of a simulator with two devices. The first one was opened and released, then the other one was
opened. -/
def reopened : Agent Simulator Simulator.Device Simulator.Session :=
  let paired : Agent Simulator Simulator.Device Simulator.Session := {
    jobTimeout := 3500
    controller := {
      subsystem := .withDevices ["0", "1"]
      roster := Roster.empty.update ["0", "1"]
      history := .ofSize 400 }
    dispatcher := { capacity := 256 } }
  ((Course.start paired).run
    [.submit (.post none (.openCamera 0 0)), .dispatch, .dispatch, .handle, .handle,
      .submit (.post none .release), .dispatch, .dispatch, .handle,
      .submit (.post none (.openCamera 1 1)), .dispatch, .dispatch, .handle, .handle]).now

/-- The camera that was released. -/
def releasedFirst : Camera := ⟨0, Simulator.standard .back⟩

/-- The camera that is open. -/
def openSecond : Camera := ⟨1, Simulator.standard .front⟩

/-- What was asked last is done. -/
def oneJob : List (Move Simulator Simulator.Device Simulator.Session) := [.dispatch, .dispatch, .handle]

theorem reopened_interchangeable :
    reopened.cameras = [releasedFirst, openSecond] ∧ reopened.controller.attached.camera = some openSecond ∧
    ∃ b b', reopened.operate releasedFirst (.reconnect 9) = .ok b ∧
      reopened.operate openSecond (.reconnect 9) = .ok b' ∧
      let s := (Course.start b).run oneJob
      let s' := (Course.start b').run oneJob
      s.past.map (·.message) = [.action (.reconnect 0 9)] ∧
        s'.past.map (·.message) = [.action (.reconnect 1 9)] ∧
        s.now.controller.attached = s'.now.controller.attached ∧
        s.now.controller.attached = reopened.controller.attached := by
  let asked := (reopened.operate releasedFirst (.reconnect 9)).toOption.getD reopened
  have hcalled : reopened.operate releasedFirst (.reconnect 9) = .ok asked := rfl
  obtain ⟨-, b', hcalled', hlater⟩ := cameras_interchangeable reopened releasedFirst openSecond _ hcalled
  obtain ⟨halike, hhandled⟩ := hlater oneJob
  have hfound : ∀ h ∈ ((Course.start asked).run oneJob).past, h.FoundOpen := by
    intro h hh index callback _
    obtain rfl := List.mem_singleton.mp hh
    decide
  have hkept := (hhandled _ (List.mem_singleton_self _) _ rfl).2 (Or.inl (by decide))
  have hsame : reopened.operate openSecond (.reconnect 9) =
    .ok ((reopened.operate openSecond (.reconnect 9)).toOption.getD reopened) := rfl
  obtain rfl := Except.ok.inj (hcalled'.symm.trans hsame)
  exact ⟨rfl, rfl, asked, _, hcalled, hsame, rfl, rfl, (halike fun _ => hfound).1, hkept.1⟩

/-- The camera that was released is released once more, and with that the other one is closed. -/
theorem released_again_closes_other :
    reopened.cameras = [releasedFirst, openSecond] ∧ reopened.controller.attached.camera = some openSecond ∧
    reopened.controller.stage = .unconfigured ∧
    ∃ b, reopened.operate releasedFirst .release = .ok b ∧
      let s := (Course.start b).run oneJob
      s.past.map (·.message) = [.action .release] ∧ s.now.controller.stage = .unopened ∧
        s.now.controller.attached = {} ∧
        s.past.map Handled.calls = [[⟨.closeDevice ⟨"1", 1⟩, none, []⟩]] :=
  ⟨rfl, rfl, rfl, _, rfl, rfl, rfl, rfl, rfl⟩

end Agent

end CameraControl
