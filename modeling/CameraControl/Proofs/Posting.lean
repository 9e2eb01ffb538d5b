import CameraControl.Agent.Calls
import CameraControl.Proofs.Threads

/-!
Calls and the messages that come of them. The dispatcher runs the accepted calls one after the other, and
the controller handles what it posts one after the other, so the actions reach the controller in the order in
which their calls were accepted. None is left out while the controller is there and the stage cell is valid.
-/
namespace CameraControl.Agent

variable {σ δ τ : Type}

namespace Course

variable {s s' : Course σ δ τ} {now : Agent σ δ τ}

/-- The messages that were handled, oldest first. -/
def handled (s : Course σ δ τ) : List (Message δ τ) := s.past.reverse.map (·.message)

/-- Messages are handled in the order in which they came. -/
structure Filed (s : Course σ δ τ) : Prop where
  ahead : s.handled ++ s.now.controller.mailbox <+: s.delivered
  whole : s.now.isServed → s.handled ++ s.now.controller.mailbox = s.delivered

theorem Filed.of_whole (h : s.handled ++ s.now.controller.mailbox = s.delivered) : s.Filed :=
  ⟨h ▸ List.prefix_refl _, fun _ => h⟩

theorem Filed.advance {new : List (Message δ τ)} (hs : s.Filed)
    (hserved : now.isServed = s.now.isServed) (hmailbox : now.controller.mailbox =
      s.now.controller.mailbox ++ if s.now.isServed then new else []) : (s.advance now).Filed := by
  have hjoined := joined_eq hmailbox
  have hwhole (hwas : s.now.isServed) :
      s.handled ++ now.controller.mailbox = s.delivered ++ s.now.joined now := by
    rw [hjoined, hmailbox, ← List.append_assoc, hs.whole hwas]
  constructor
  · show s.handled ++ now.controller.mailbox <+: s.delivered ++ s.now.joined now
    by_cases hwas : s.now.isServed
    · exact hwhole hwas ▸ List.prefix_refl _
    · rw [hjoined, hmailbox, if_neg hwas, List.append_nil, List.append_nil]
      exact hs.ahead
  · intro his
    exact hwhole (hserved ▸ his)

theorem Filed.still (hs : s.Filed) (hmailbox : now.controller.mailbox = s.now.controller.mailbox)
    (hstatus : now.controller.status = s.now.controller.status) : (s.advance now).Filed := by
  have hnone : now.controller.mailbox =
      s.now.controller.mailbox ++ if s.now.isServed then [] else [] := by
    rw [hmailbox, ite_self, List.append_nil]
  exact hs.advance (isServed_of_status hstatus) hnone

theorem handled_cons (h : Handled σ δ τ) (s : Course σ δ τ) :
    ({ s with past := h :: s.past } : Course σ δ τ).handled = s.handled ++ [h.message] := by
  unfold handled
  simp

/-- What was handled before a message stands before it among what was delivered. -/
theorem Filed.delivered_before (hs : s.Filed) {h : Handled σ δ τ} {older : List (Handled σ δ τ)}
    (hpast : (h :: older) <:+ s.past) :
    older.reverse.map (·.message) ++ [h.message] <+: s.delivered := by
  have hprefix := (List.reverse_prefix.mpr hpast).map (·.message)
  rw [List.reverse_cons, List.map_append] at hprefix
  exact hprefix.trans ((List.prefix_append _ _).trans hs.ahead)

theorem Filed.step [Subsystem σ δ τ] {move : Move σ δ τ} (h : s.Step move s') (hs : s.Filed) :
    s'.Filed := by
  cases h with
  | idle => exact hs
  | aside haside => exact hs.advance haside.served haside.mailbox
  | submitted hsubmit => exact hs.still rfl rfl
  | dispatched hdispatch =>
    obtain ⟨new, hnew⟩ := hdispatch.gains
    have hserved : _ = s.now.isServed := isServed_of_status (by rw [hnew])
    have hadvanced := hs.advance hserved (by rw [hnew])
    exact ⟨hadvanced.ahead, hadvanced.whole⟩
  | givenUp hawaiting hfinish => exact hs.still rfl rfl
  | stopping hserved => exact hs.still rfl rfl
  | handled h hserved hbefore =>
    obtain ⟨events, hevents⟩ := Controller.handle_mailbox h.before h.message
    have hevents : h.after.mailbox = h.before.mailbox ++ events.map .hardware := hevents
    have hwhole := hs.whole hserved
    rw [hbefore] at hwhole
    have hwhole : s.handled ++ h.message :: h.before.mailbox = s.delivered := hwhole
    rw [hevents, List.drop_left]
    have hall : s.handled ++ [h.message] ++ h.after.mailbox =
        s.delivered ++ events.map Message.hardware := by
      rw [hevents, ← hwhole]
      simp
    have hpast := handled_cons h s
    rcases ({ s.now with controller := h.after } : Agent σ δ τ).bury_cases with
      ⟨his, hsame⟩ | ⟨hended, hempty⟩
    · rw [hsame]
      refine .of_whole ?_
      show ({ s with past := h :: s.past } : Course σ δ τ).handled ++ h.after.mailbox = _
      rw [hpast, hall]
    · refine ⟨?_, fun his => ?_⟩
      · show ({ s with past := h :: s.past } : Course σ δ τ).handled ++ _ <+: _
        rw [hpast, hempty, List.append_nil, ← hall]
        exact List.prefix_append _ _
      · exact absurd his (by rw [hended]; exact Bool.false_ne_true)

/-- Which of the accepted calls the posted actions come from. -/
structure Numbered (s : Course σ δ τ) : Prop where
  actions : s.posted.map Prod.fst = s.delivered.filterMap (·.action?)
  order : s.posted.Sublist (s.now.dispatched.map Job.action).zipIdx
  complete : s.now.isServed → s.now.controller.cell.invalid = false →
    s.posted = (s.now.dispatched.map Job.action).zipIdx

/-- Nothing is posted, and a job ends only if its action was posted before or never will be. -/
theorem Numbered.advance (hs : s.Numbered)
    (hjoined : (s.now.joined now).filterMap (·.action?) = [])
    (hdispatched : s.now.dispatched <+: now.dispatched)
    (hcomplete : now.isServed → now.controller.cell.invalid = false →
      s.now.isServed ∧ s.now.controller.cell.invalid = false ∧
        now.dispatched = s.now.dispatched) : (s.advance now).Numbered := by
  constructor
  · show s.posted.map Prod.fst = (s.delivered ++ s.now.joined now).filterMap (·.action?)
    rw [List.filterMap_append, hjoined, List.append_nil]
    exact hs.actions
  · show s.posted.Sublist (now.dispatched.map Job.action).zipIdx
    obtain ⟨more, hmore⟩ := hdispatched
    rw [← hmore, List.map_append, List.zipIdx_append]
    exact hs.order.trans (List.sublist_append_left _ _)
  · show now.isServed → now.controller.cell.invalid = false →
      s.posted = (now.dispatched.map Job.action).zipIdx
    intro his hvalid
    obtain ⟨hwas, hvalid, hsame⟩ := hcomplete his hvalid
    rw [hsame]
    exact hs.complete hwas hvalid

theorem dispatchTo_silent (hjoined : (s.now.joined now).filterMap (·.action?) = []) :
    s.dispatchTo now = s.advance now := by
  unfold dispatchTo
  rw [hjoined, List.map_nil, List.append_nil]
  rfl

/-- The job that runs has its action posted, if there still is a controller. -/
theorem Numbered.post {job : Job} (hs : s.Numbered)
    (hbefore : s.now.dispatched = s.now.dispatcher.finished)
    (hafter : now.dispatched = s.now.dispatcher.finished ++ [job])
    (hcontroller : now.controller = (s.now.deliver [.action job.action]).controller) :
    (s.dispatchTo now).Numbered := by
  rw [deliver_eq] at hcontroller
  have hjoined : s.now.joined now = if s.now.isServed then [.action job.action] else [] :=
    joined_eq (by rw [hcontroller])
  have hserved : now.isServed = s.now.isServed := isServed_of_status (by rw [hcontroller])
  have hzip : (now.dispatched.map Job.action).zipIdx = (s.now.dispatched.map Job.action).zipIdx ++
      [(job.action, s.now.dispatcher.finished.length)] := by
    rw [hafter, hbefore, List.map_append, List.zipIdx_append]
    simp
  by_cases hwas : s.now.isServed
  · rw [if_pos hwas] at hjoined
    have hposted : (s.dispatchTo now).posted =
        s.posted ++ [(job.action, s.now.dispatcher.finished.length)] := by
      unfold dispatchTo
      rw [hjoined]
      rfl
    constructor
    · rw [hposted]
      show _ = (s.delivered ++ s.now.joined now).filterMap (·.action?)
      rw [hjoined, List.map_append, hs.actions, List.filterMap_append]
      rfl
    · rw [hposted]
      show List.Sublist _ (now.dispatched.map Job.action).zipIdx
      rw [hzip]
      exact hs.order.append (List.Sublist.refl _)
    · rw [hposted]
      show now.isServed → now.controller.cell.invalid = false →
        _ = (now.dispatched.map Job.action).zipIdx
      rw [hzip, hcontroller]
      intro _ hvalid
      rw [hs.complete hwas hvalid]
  · rw [if_neg hwas] at hjoined
    have hsilent : (s.now.joined now).filterMap (·.action?) = [] := by
      rw [hjoined]
      rfl
    rw [dispatchTo_silent hsilent]
    refine hs.advance hsilent ?_ ?_
    · rw [hbefore, hafter]
      exact List.prefix_append _ _
    · intro his
      rw [hserved] at his
      exact absurd his hwas

/-- The running job ends without its action being posted now. -/
theorem Numbered.over {job : Job} (hs : s.Numbered) (hmailbox : now.controller = s.now.controller)
    (hjob : s.now.dispatcher.current? = some job)
    (hfinish : s.now.dispatcher.finish? = some now.dispatcher) (hunposted : now.releasing = .unposted)
    (hposted : s.now.isServed → s.now.controller.cell.invalid = false →
      s.now.releasing ≠ .unposted) : (s.advance now).Numbered := by
  have hdispatched := dispatched_finish hjob hfinish hunposted
  have hprefix := s.now.dispatched_prefix
  rw [hjob] at hprefix
  have hsilent := joined_silent (congrArg Controller.mailbox hmailbox)
  refine hs.advance hsilent (hdispatched ▸ hprefix) ?_
  unfold isServed
  rw [hmailbox]
  intro hwas hvalid
  refine ⟨hwas, hvalid, ?_⟩
  rw [hdispatched, dispatched_posted (hposted hwas hvalid), hjob]
  rfl

theorem Numbered.dispatch (hs : s.Numbered) (ha : s.now.Sound) (h : s.now.Dispatch now) :
    (s.dispatchTo now).Numbered := by
  have hnone (hmailbox : now.controller.mailbox = s.now.controller.mailbox) :
      s.dispatchTo now = s.advance now := dispatchTo_silent (joined_silent hmailbox)
  cases h with
  | placed hplace =>
    rw [hnone rfl]
    obtain rfl := Dispatcher.place?_eq hplace
    exact hs.advance (joined_silent rfl) (List.prefix_refl _) fun hwas hvalid => ⟨hwas, hvalid, rfl⟩
  | @taken d htake =>
    rw [hnone rfl]
    have hunposted := ha.idle_unposted htake
    have hfinished : (s.now.dispatching d).dispatched = s.now.dispatched := by
      rw [dispatched_unposted hunposted, dispatched_unposted (a := s.now.dispatching d) hunposted]
      obtain ⟨-, ⟨job, rest, -, rfl⟩ | ⟨rest, -, rfl⟩⟩ := Dispatcher.take?_cases htake <;> rfl
    refine hs.advance (joined_silent rfl) ?_ fun hwas hvalid => ⟨hwas, hvalid, hfinished⟩
    exact hfinished ▸ List.prefix_refl _
  | posted hjob hreached hfinish =>
    exact hs.post (dispatched_unposted (ha.post_unposted hjob)) (dispatched_finish hjob hfinish rfl)
      rfl
  | abandoned hjob hinvalid hfinish =>
    rw [hnone rfl]
    refine hs.over rfl hjob hfinish rfl fun _ hvalid => ?_
    rw [hinvalid] at hvalid
    cases hvalid
  | @releasing ticket hjob hserved hunposted =>
    have hafter : ({ s.now.deliver [.action .release] with releasing := .posted } :
        Agent σ δ τ).dispatched = s.now.dispatcher.finished ++ [.release ticket] := by
      rw [dispatched_posted Releasing.noConfusion, deliver_eq, hjob]
      rfl
    exact hs.post (dispatched_unposted hunposted) hafter rfl
  | @barring ticket hjob hserved hposted =>
    have hjoined : s.now.joined { s.now.deliver [.barrier ticket] with releasing := .awaiting } =
        [.barrier ticket] := by
      refine joined_eq ?_
      rw [deliver_eq, if_pos hserved]
    have hdispatched : ({ s.now.deliver [.barrier ticket] with releasing := .awaiting } :
        Agent σ δ τ).dispatched = s.now.dispatched := by
      have hposted : s.now.releasing ≠ .unposted := by
        rw [hposted]
        exact Releasing.noConfusion
      rw [dispatched_posted hposted, dispatched_posted Releasing.noConfusion, deliver_eq]
    have hsilent : (s.now.joined { s.now.deliver [.barrier ticket] with
        releasing := .awaiting }).filterMap (·.action?) = [] := by
      rw [hjoined]
      rfl
    rw [dispatchTo_silent hsilent]
    refine hs.advance hsilent ?_ ?_
    · exact hdispatched ▸ List.prefix_refl _
    · rw [hdispatched, deliver_eq]
      intro hwas hvalid
      exact ⟨hwas, hvalid, rfl⟩
  | released hjob hover hfinish =>
    rw [hnone rfl]
    refine hs.over rfl hjob hfinish rfl fun hwas _ => ?_
    rw [(hover hwas).1]
    exact Releasing.noConfusion

theorem bury_dispatcher (a : Agent σ δ τ) : a.bury.dispatcher = a.dispatcher := by
  unfold bury
  split_ifs <;> rfl

theorem bury_dispatched (a : Agent σ δ τ) : a.bury.dispatched = a.dispatched := by
  unfold bury
  split_ifs <;> rfl

variable [Subsystem σ δ τ]

theorem Numbered.step {move : Move σ δ τ} (h : s.Step move s') (ha : s.now.Sound)
    (hs : s.Numbered) : s'.Numbered := by
  cases h with
  | idle => exact hs
  | aside haside hnew =>
    have hdispatched := dispatched_same (congrArg Dispatcher.finished haside.dispatcher)
      (congrArg Dispatcher.current? haside.dispatcher) haside.releasing
    refine hs.advance ?_ ?_ ?_
    · rw [joined_eq haside.mailbox]
      split_ifs
      · exact hnew
      · rfl
    · exact hdispatched ▸ List.prefix_refl _
    · rw [hdispatched, haside.served]
      intro hwas hvalid
      exact ⟨hwas, haside.valid hvalid, rfl⟩
  | @submitted job d hsubmit =>
    obtain ⟨-, rfl⟩ := Dispatcher.submit_eq hsubmit
    exact hs.advance (joined_silent rfl) (List.prefix_refl _) fun hwas hvalid => ⟨hwas, hvalid, rfl⟩
  | dispatched hdispatch => exact hs.dispatch ha hdispatch
  | givenUp hawaiting hfinish =>
    obtain ⟨job, hjob, -⟩ := Dispatcher.finish?_eq hfinish
    refine hs.over rfl hjob hfinish rfl fun _ _ => ?_
    rw [hawaiting]
    exact Releasing.noConfusion
  | stopping hserved =>
    obtain ⟨marker, heq⟩ := s.now.dispatcher.claim_eq .outside
    refine hs.advance (joined_silent rfl) ?_ ?_
    · have hshut : s.now.dispatcher.shutDown = { s.now.dispatcher with marker } := heq
      exact hshut ▸ List.prefix_refl _
    · intro hwas
      have hwas : s.now.isServed := hwas
      rw [hserved] at hwas
      cases hwas
  | handled h hserved hbefore =>
    obtain ⟨events, hevents⟩ := Controller.handle_mailbox h.before h.message
    have hdispatched : ({ s.now with controller := h.after }.bury : Agent σ δ τ).dispatched =
        s.now.dispatched := bury_dispatched _
    constructor
    · have hevents : h.after.mailbox = h.before.mailbox ++ events.map .hardware := hevents
      rw [hevents, List.drop_left, List.filterMap_append, Message.filterMap_action_hardware,
        List.append_nil]
      exact hs.actions
    · rw [hdispatched]
      exact hs.order
    · rw [hdispatched]
      rcases ({ s.now with controller := h.after } : Agent σ δ τ).bury_cases with
        ⟨-, hsame⟩ | ⟨hended, -⟩
      · rw [hsame]
        intro _ hvalid
        have hkept := Controller.handle_invalid h.before h.message
        refine hs.complete hserved ?_
        rw [hbefore]
        exact hkept.symm.trans hvalid
      · rw [hended]
        intro hserved
        cases hserved

/-- The threads stand to each other as they should, and the records say what happened. -/
structure Ordered (s : Course σ δ τ) : Prop where
  sound : s.now.Sound
  filed : s.Filed
  numbered : s.Numbered

theorem Ordered.step {move : Move σ δ τ} (hs : s.Ordered) : (s.step move).Ordered := by
  have h := s.step_cases move
  exact ⟨hs.sound.step h, hs.filed.step h, hs.numbered.step h hs.sound⟩

/-- An agent that is about to start. -/
def start (a : Agent σ δ τ) : Course σ δ τ := { now := a }

theorem start_eq {config : Config} {world : σ} {clock : String} {a : Agent σ δ τ}
    (hstart : Agent.start config world clock = .ok a) : ∃ roster history, a = {
      jobTimeout := config.jobTimeout
      controller := { subsystem := world, roster, history, clock }
      dispatcher := { capacity := config.queueCapacity } } := by
  unfold Agent.start at hstart
  split at hstart
  · cases hstart
  · cases hstart
    exact ⟨_, _, rfl⟩

theorem ordered {config : Config} {world : σ} {clock : String} {a : Agent σ δ τ}
    (hstart : Agent.start config world clock = .ok a) (moves : List (Move σ δ τ)) :
    ((start a).run moves).Ordered := by
  refine invariant Ordered (fun _ => True) (fun s move _ hs => hs.step)
    (fun move (_ : move ∈ moves) => trivial) ?_
  obtain ⟨roster, history, rfl⟩ := start_eq hstart
  refine ⟨⟨Dispatcher.inOrder_new _, fun _ => Dispatcher.unstopped_new _, ?_, ?_⟩, .of_whole rfl, ?_⟩
  · intro hposted
    exact absurd rfl hposted
  · intro _ hawaiting
    cases hawaiting
  · exact ⟨rfl, List.Sublist.refl _, fun _ _ => rfl⟩

end Course

/-- The call that a move makes. -/
def Move.job? : Move σ δ τ → Option Job
  | submit job => some job
  | _ => none

namespace Course

variable [Subsystem σ δ τ]

/-- A call is accepted when it is made or never. -/
theorem accepted_step {s s' : Course σ δ τ} {move : Move σ δ τ} (h : s.Step move s') :
    ∃ new, s'.now.dispatcher.accepted = s.now.dispatcher.accepted ++ new ∧
      new.Sublist move.job?.toList := by
  have hnone {d : Dispatcher Job} (hsame : d.accepted = s.now.dispatcher.accepted) :
      ∃ new, d.accepted = s.now.dispatcher.accepted ++ new ∧ new.Sublist move.job?.toList :=
    ⟨[], hsame.trans (List.append_nil _).symm, List.nil_sublist _⟩
  cases h with
  | idle => exact hnone rfl
  | aside haside => exact hnone (congrArg Dispatcher.accepted haside.dispatcher)
  | submitted hsubmit =>
    obtain ⟨-, rfl⟩ := Dispatcher.submit_eq hsubmit
    exact ⟨_, rfl, List.Sublist.refl _⟩
  | handled h => exact hnone (by rw [bury_dispatcher])
  | dispatched hdispatch => exact hnone hdispatch.accepted
  | @givenUp d hawaiting hfinish =>
    obtain ⟨job, -, rfl⟩ := Dispatcher.finish?_eq hfinish
    exact hnone rfl
  | stopping =>
    obtain ⟨marker, heq⟩ := s.now.dispatcher.claim_eq .outside
    have hsame : s.now.dispatcher.shutDown.accepted = s.now.dispatcher.accepted := by
      show (s.now.dispatcher.claim .outside).accepted = _
      rw [heq]
    exact hnone hsame

theorem accepted_called (s : Course σ δ τ) (moves : List (Move σ δ τ)) :
    ∃ new, (s.run moves).now.dispatcher.accepted = s.now.dispatcher.accepted ++ new ∧
      new.Sublist (moves.filterMap (·.job?)) := by
  induction moves generalizing s with
  | nil => exact ⟨[], (List.append_nil _).symm, List.Sublist.refl _⟩
  | cons move moves ih =>
    obtain ⟨first, hfirst, hmove⟩ := accepted_step (s.step_cases move)
    obtain ⟨rest, hrest, hmoves⟩ := ih (s.step move)
    refine ⟨first ++ rest, ?_, ?_⟩
    · show ((s.step move).run moves).now.dispatcher.accepted = _
      rw [hrest, hfirst, List.append_assoc]
    · have hcons : (move :: moves).filterMap (·.job?) =
          move.job?.toList ++ moves.filterMap (·.job?) := by
        cases hjob : move.job? with
        | none => exact List.filterMap_cons_none hjob
        | some job => exact List.filterMap_cons_some hjob
      rw [hcons]
      exact hmove.append hmoves

theorem start_accepted {config : Config} {world : σ} {clock : String} {a : Agent σ δ τ}
    (hstart : Agent.start config world clock = .ok a) :
    (start a).now.dispatcher.accepted = [] := by
  obtain ⟨roster, history, rfl⟩ := start_eq hstart
  rfl

/-- The actions reach the controller in the order in which their calls were made and accepted, each at most
once, whoever makes them. As long as the controller is there and the stage cell is valid, no call that comes
before the running job is passed over: its action was posted, and is handled or waits in the mailbox. -/
theorem posted_in_order {config : Config} {world : σ} {clock : String} {a : Agent σ δ τ}
    (hstart : Agent.start config world clock = .ok a) (moves : List (Move σ δ τ)) :
    let s := (start a).run moves
    let d := s.now.dispatcher
    d.accepted.Sublist (moves.filterMap (·.job?)) ∧
    s.posted.Sublist (d.accepted.map Job.action).zipIdx ∧
    s.handled.filterMap (·.action?) <+: s.posted.map Prod.fst ∧
    (s.now.isServed → s.now.controller.cell.invalid = false →
      d.accepted = d.finished ++ d.current?.toList ++ d.pending ∧
      (d.finished.map Job.action).zipIdx <+: s.posted ∧
      s.posted.map Prod.fst = s.handled.filterMap (·.action?) ++
        s.now.controller.mailbox.filterMap (·.action?)) := by
  intro s d
  have hs : s.Ordered := ordered hstart moves
  have hqueue := hs.sound.jobs
  refine ⟨?_, ?_, ?_, ?_⟩
  · obtain ⟨new, hnew, hcalled⟩ := accepted_called (start a) moves
    rw [start_accepted hstart, List.nil_append] at hnew
    rw [← hnew] at hcalled
    exact hcalled
  · -- What is dispatched comes first among what was accepted, so the places are the same.
    obtain ⟨more, hmore⟩ := s.now.dispatched_prefix.trans
      ((List.prefix_append _ d.pending).trans hqueue.ahead)
    have hzip : (d.accepted.map Job.action).zipIdx = (s.now.dispatched.map Job.action).zipIdx ++
        (more.map Job.action).zipIdx (s.now.dispatched.map Job.action).length := by
      rw [← hmore, List.map_append, List.zipIdx_append, Nat.zero_add]
    rw [hzip]
    exact hs.numbered.order.trans (List.sublist_append_left _ _)
  · rw [hs.numbered.actions]
    exact ((List.prefix_append _ _).trans hs.filed.ahead).filterMap _
  · intro hserved hvalid
    refine ⟨(hqueue.whole (hs.sound.unstopped hserved).running).symm, ?_, ?_⟩
    · rw [hs.numbered.complete hserved hvalid]
      unfold dispatched
      rw [List.map_append, List.zipIdx_append]
      exact List.prefix_append _ _
    · rw [hs.numbered.actions, ← hs.filed.whole hserved, List.filterMap_append]

/-- A camera is opened and configured and is being closed, while settings are still to be read. -/
def busyMoves : List (Move Simulator Simulator.Device Simulator.Session) :=
  [.submit (.post none (.openCamera 0 0)), .dispatch, .dispatch, .handle,
    .submit (.post (some (.atLeast .unconfigured)) (.applySettings
      { preview := ⟨640, 480⟩, photo := ⟨640, 480⟩ })), .dispatch, .submit (.release 7), .handle,
    .dispatch, .dispatch, .submit (.post none (.querySettings 8)), .dispatch]

/-- The agent of a simulator with one device, before it starts. -/
def simulated : Agent Simulator Simulator.Device Simulator.Session where
  jobTimeout := 3500
  controller := {
    subsystem := .withDevices ["0"]
    roster := Roster.empty.update ["0"]
    history := .ofSize 400 }
  dispatcher := { capacity := 256 }

theorem busy_posted_in_order :
    Agent.start {} (Simulator.withDevices ["0"]) "" = .ok simulated ∧
    let s := (start simulated).run busyMoves
    s.now.isServed ∧ s.now.controller.cell.invalid = false ∧
      s.posted.map Prod.snd = [0, 1, 2] ∧ s.now.dispatcher.pending = [.post none (.querySettings 8)] ∧
      (s.now.dispatcher.finished.map Job.action).zipIdx <+: s.posted := by
  have hstart : Agent.start {} (Simulator.withDevices ["0"]) "" = .ok simulated := rfl
  have hposted := posted_in_order hstart busyMoves
  exact ⟨hstart, rfl, rfl, rfl, rfl, (hposted.2.2.2 rfl rfl).2.1⟩

end Course

end CameraControl.Agent
