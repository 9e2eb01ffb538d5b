import Mathlib.Data.List.Nodup
import CameraControl.Proofs.Release
import CameraControl.Proofs.Traced

/-!
Closes that wait for the controller. The dispatcher posts a release and then a barrier, and is done with the
close when the barrier is acknowledged. By then everything that was asked for before has been handled, and
nothing but events after the release. So no camera is open, unless one that had been asked for before is taken
up between the two, which takes a release that finds no camera open. The dispatcher is also done with a close
when it finds that the controller has ended, or gives up its wait. The caller cannot tell the difference.
-/
namespace CameraControl

section released

variable {σ δ τ : Type} [Subsystem σ δ τ] {h r : Handled σ δ τ} {past : List (Handled σ δ τ)}

theorem Controller.release_stage (c : Controller σ δ τ) : c.release.stage = .unopened := by
  by_cases hunopened : c.stage = .unopened
  · rw [release_unopened hunopened]
    exact hunopened
  · exact (release_opened hunopened).1

theorem tenure_released (htenured : Run.Tenured ⟨r.before, past⟩)
    (hrelease : r.message = .action .release) : tenure (r :: past) = none := by
  have hunopened : r.after.stage = .unopened := by
    rw [Handled.after_release hrelease]
    exact Controller.release_stage _
  have hfits : r.after.Fits (tenure (r :: past)) := htenured.handle.fits
  cases htenure : tenure (r :: past) with
  | none => rfl
  | some held =>
    rw [htenure] at hfits
    exact absurd hunopened hfits.1

/-- A tenure only begins when a camera is taken up. -/
theorem tenure_unadopted {between : List (Handled σ δ τ)} (hnone : tenure past = none)
    (hunadopted : ∀ e ∈ between, e.adopts = false) : tenure (between ++ past) = none := by
  induction between with
  | nil => exact hnone
  | cons e between ih =>
    obtain ⟨hadopts, hunadopted⟩ := List.forall_mem_cons.mp hunadopted
    have hbefore := ih hunadopted
    cases hrelease : e.message.isRelease with
    | true => exact tenure_releases hadopts hrelease
    | false =>
      have hcontinues : tenure (e :: (between ++ past)) = _ := tenure_continues hadopts hrelease
      rw [List.cons_append, hcontinues, hbefore]
      rfl

/-- It goes on as long as nothing gives the camera up. -/
theorem tenure_kept {between : List (Handled σ δ τ)} {e : Handled σ δ τ} (hmem : e ∈ between)
    (hadopts : e.adopts) (hkept : ∀ e ∈ between, e.message.isRelease = false) :
    (tenure (between ++ past)).isSome := by
  induction between with
  | nil => cases hmem
  | cons latest between ih =>
    obtain ⟨hlatest, hkept⟩ := List.forall_mem_cons.mp hkept
    cases hlater : latest.adopts with
    | true =>
      have hbegins : tenure (latest :: (between ++ past)) = some [] := tenure_adopts hlater
      rw [List.cons_append, hbegins]
      rfl
    | false =>
      have hcontinues : tenure (latest :: (between ++ past)) = _ := tenure_continues hlater hlatest
      rw [List.cons_append, hcontinues, Option.isSome_map]
      rcases List.mem_cons.mp hmem with rfl | holder
      · cases hlater.symm.trans hadopts
      · exact ih holder hkept

namespace Message

variable {message : Message δ τ}

theorem opening?_of_action? (hquiet : message.action? = none) : message.opening? = none := by
  cases message with
  | action action => cases hquiet
  | _ => rfl

theorem isRelease_of_action? (hquiet : message.action? = none) (hgoing : message ≠ .shutdown) :
    message.isRelease = false := by
  cases message with
  | action action => cases hquiet
  | shutdown => exact absurd rfl hgoing
  | _ => rfl

end Message

/-- After a release that was not followed by another, a camera is open exactly if one was taken up since. -/
theorem Run.unopened_iff_unadopted {now : Run σ δ τ} {between : List (Handled σ δ τ)}
    (hbefore : now.Throughout fun now => now.Tenured ∧ now.Relinquished)
    (hpast : (h :: (between ++ r :: past)) <:+ now.past) (hrelease : r.message = .action .release)
    (hkept : ∀ e ∈ between, e.message.isRelease = false) :
    h.before.stage = .unopened ↔ ∀ e ∈ between, e.adopts = false := by
  have hfits : h.before.Fits (tenure (between ++ r :: past)) := (hbefore h _ hpast).1.fits
  constructor
  · intro hunopened e hmem
    by_contra hadopts
    have hsome : (tenure (between ++ r :: past)).isSome :=
      tenure_kept hmem (eq_true_of_ne_false hadopts) hkept
    obtain ⟨held, hheld⟩ := Option.isSome_iff_exists.mp hsome
    rw [hheld] at hfits
    exact hfits.1 hunopened
  · intro hunadopted
    have hreleased : (r :: past) <:+ now.past :=
      ((List.suffix_append _ _).trans (List.suffix_cons h _)).trans hpast
    have hnone : tenure (r :: past) = none :=
      tenure_released { (hbefore r past hreleased).1 with } hrelease
    rw [tenure_unadopted hnone hunadopted] at hfits
    exact hfits.1

end released

namespace Agent

variable {σ δ τ : Type}

/-- The ticket of a close that is waited for. -/
def Job.ticket? : Job → Option Ticket
  | release ticket => some ticket
  | post _ _ => none

theorem release_unique {jobs before after : List Job} {ticket : Ticket}
    (hnodup : (jobs.filterMap Job.ticket?).Nodup) (hjobs : jobs = before ++ .release ticket :: after) :
    .release ticket ∉ before ++ after := by
  intro hmem
  have htickets : jobs.filterMap Job.ticket? =
      before.filterMap Job.ticket? ++ ticket :: after.filterMap Job.ticket? := by
    rw [hjobs, List.filterMap_append]
    rfl
  rw [htickets, List.nodup_middle, List.nodup_cons, ← List.filterMap_append] at hnodup
  exact hnodup.1 (List.mem_filterMap.mpr ⟨_, hmem, rfl⟩)

theorem awaitRelease_ok {a : Agent σ δ τ} {ticket : Ticket} (hok : a.awaitRelease ticket = .ok ()) :
    .release ticket ∈ a.dispatcher.finished := by
  unfold awaitRelease at hok
  split_ifs at hok with hfinished
  exact hfinished

/-- The dispatcher is done with one job at a time. -/
theorem finished_mem {d d' : Dispatcher Job} {job : Job} (hfinish : d.finish? = some d')
    (hmem : job ∈ d'.finished) : job ∈ d.finished ∨ d.current? = some job := by
  obtain ⟨ended, hjob, rfl⟩ := Dispatcher.finish?_eq hfinish
  rcases List.mem_append.mp hmem with hbefore | hlast
  · exact Or.inl hbefore
  · rw [List.mem_singleton.mp hlast]
    exact Or.inr hjob

/-- The move ends the validity of the stage cell from outside. -/
def Move.invalidates : Move σ δ τ → Bool
  | invalidate => true
  | _ => false

namespace Course

variable {s s' : Course σ δ τ} {move : Move σ δ τ} {ticket : Ticket}

section finished

/-- The dispatcher is done with a close whose barrier was acknowledged, or when the controller has ended. -/
theorem dispatch_finished {now : Agent σ δ τ} (h : s.now.Dispatch now)
    (hmem : .release ticket ∈ now.dispatcher.finished) :
    .release ticket ∈ s.now.dispatcher.finished ∨
      s.now.dispatcher.current? = some (.release ticket) ∧
        (ticket ∈ s.now.controller.acknowledged ∨ s.now.isServed = false) := by
  cases h with
  | placed hplace =>
    obtain rfl := Dispatcher.place?_eq hplace
    exact Or.inl hmem
  | taken htake =>
    obtain ⟨-, ⟨job, rest, -, rfl⟩ | ⟨rest, -, rfl⟩⟩ := Dispatcher.take?_cases htake <;>
      exact Or.inl hmem
  | posted hjob _ hfinish | abandoned hjob _ hfinish =>
    rcases finished_mem hfinish hmem with hbefore | hcurrent
    · exact Or.inl hbefore
    · cases hjob.symm.trans hcurrent
  | releasing | barring =>
    rw [deliver_eq] at hmem
    exact Or.inl hmem
  | @released ended d hjob hover hfinish =>
    rcases finished_mem hfinish hmem with hbefore | hcurrent
    · exact Or.inl hbefore
    · cases hjob.symm.trans hcurrent
      refine Or.inr ⟨hcurrent, ?_⟩
      cases hserved : s.now.isServed with
      | true => exact Or.inl (hover hserved).2
      | false => exact Or.inr rfl

/-- The dispatcher leaves a close to itself, since it has waited too long or finds the controller gone. -/
def Forsakes (s : Course σ δ τ) (move : Move σ δ τ) (ticket : Ticket) : Prop :=
  s.now.dispatcher.current? = some (.release ticket) ∧
    (move = .giveUp ∧ s.now.releasing = .awaiting ∨ move = .dispatch ∧ s.now.isServed = false)

variable [Subsystem σ δ τ]

theorem finished_step (h : s.Step move s') (hmem : .release ticket ∈ s'.now.dispatcher.finished) :
    .release ticket ∈ s.now.dispatcher.finished ∨ ticket ∈ s.now.controller.acknowledged ∨
      s.Forsakes move ticket := by
  cases h with
  | idle => exact Or.inl hmem
  | aside haside => exact Or.inl (haside.dispatcher ▸ hmem)
  | submitted hsubmit =>
    obtain ⟨-, rfl⟩ := Dispatcher.submit_eq hsubmit
    exact Or.inl hmem
  | handled h =>
    dsimp only at hmem
    rw [bury_dispatcher] at hmem
    exact Or.inl hmem
  | dispatched hdispatch =>
    rcases dispatch_finished hdispatch hmem with hbefore | ⟨hcurrent, hacknowledged | hended⟩
    · exact Or.inl hbefore
    · exact Or.inr (Or.inl hacknowledged)
    · exact Or.inr (Or.inr ⟨hcurrent, Or.inr ⟨rfl, hended⟩⟩)
  | givenUp hawaiting hfinish =>
    rcases finished_mem hfinish hmem with hbefore | hcurrent
    · exact Or.inl hbefore
    · exact Or.inr (Or.inr ⟨hcurrent, Or.inl ⟨rfl, hawaiting⟩⟩)
  | stopping hserved =>
    have hmem : .release ticket ∈ (s.now.dispatcher.claim .outside).finished := hmem
    rw [(s.now.dispatcher.claim_same .outside).2.2] at hmem
    exact Or.inl hmem

/-- A barrier is acknowledged when it is handled. -/
theorem acknowledged_step (h : s.Step move s') : ∃ new, s'.handled = s.handled ++ new ∧
    s'.now.controller.acknowledged =
      s.now.controller.acknowledged ++ new.filterMap (·.barrier?) := by
  have hnone {now : Agent σ δ τ}
      (hsame : now.controller.acknowledged = s.now.controller.acknowledged) :
      ∃ new, s.handled = s.handled ++ new ∧ now.controller.acknowledged =
        s.now.controller.acknowledged ++ new.filterMap (·.barrier?) :=
    ⟨[], (List.append_nil _).symm, hsame.trans (List.append_nil _).symm⟩
  cases h with
  | idle | submitted | givenUp | stopping => exact hnone rfl
  | aside haside => exact hnone haside.acknowledged
  | @dispatched now hdispatch =>
    obtain ⟨new, hnew⟩ := hdispatch.gains
    have hsame : now.controller.acknowledged = s.now.controller.acknowledged := by rw [hnew]
    exact hnone hsame
  | handled h hserved hbefore =>
    refine ⟨[h.message], handled_cons h s, ?_⟩
    have hafter := Controller.handle_acknowledged h.before h.message
    have hburied : ({ s.now with controller := h.after }.bury : Agent σ δ τ).controller.acknowledged =
        h.after.acknowledged := by
      unfold bury
      split_ifs <;> rfl
    have hwas : s.now.controller.acknowledged = h.before.acknowledged := by
      rw [hbefore]
      rfl
    have hone : [h.message].filterMap (·.barrier?) = h.message.barrier?.toList := by
      cases hbarrier : h.message.barrier? with
      | none => exact List.filterMap_cons_none hbarrier
      | some ticket => exact List.filterMap_cons_some hbarrier
    rw [hburied, hwas, hone]
    exact hafter

theorem acknowledged_run (s : Course σ δ τ) (moves : List (Move σ δ τ)) :
    ∃ new, (s.run moves).handled = s.handled ++ new ∧ (s.run moves).now.controller.acknowledged =
      s.now.controller.acknowledged ++ new.filterMap (·.barrier?) := by
  induction moves generalizing s with
  | nil => exact ⟨[], (List.append_nil _).symm, (List.append_nil _).symm⟩
  | cons move moves ih =>
    obtain ⟨first, hhandled, hacknowledged⟩ := acknowledged_step (s.step_cases move)
    obtain ⟨rest, hrest, hlater⟩ := ih (s.step move)
    refine ⟨first ++ rest, ?_, ?_⟩
    · show ((s.step move).run moves).handled = _
      rw [hrest, hhandled, List.append_assoc]
    · show ((s.step move).run moves).now.controller.acknowledged = _
      rw [hlater, hacknowledged, List.filterMap_append, List.append_assoc]

/-- The dispatcher is done with a close only if its barrier was acknowledged, or if at some point it left
it to itself. -/
theorem finished_run (s : Course σ δ τ) (moves : List (Move σ δ τ))
    (hmem : .release ticket ∈ (s.run moves).now.dispatcher.finished) :
    .release ticket ∈ s.now.dispatcher.finished ∨
      ticket ∈ (s.run moves).now.controller.acknowledged ∨
      ∃ earlier move rest, moves = earlier ++ move :: rest ∧ (s.run earlier).Forsakes move ticket := by
  induction moves generalizing s with
  | nil => exact Or.inl hmem
  | cons move moves ih =>
    rcases ih (s.step move) hmem with hended | hacknowledged | ⟨earlier, left, rest, rfl, hleft⟩
    · rcases finished_step (s.step_cases move) hended with hbefore | hacknowledged | hleft
      · exact Or.inl hbefore
      · obtain ⟨new, -, hlater⟩ := s.acknowledged_run (move :: moves)
        rw [hlater]
        exact Or.inr (Or.inl (List.mem_append_left _ hacknowledged))
      · exact Or.inr (Or.inr ⟨[], move, moves, rfl, hleft⟩)
    · exact Or.inr (Or.inl hacknowledged)
    · exact Or.inr (Or.inr ⟨move :: earlier, left, rest, rfl, hleft⟩)

theorem mem_acknowledged {config : Config} {world : σ} {clock : String} {a : Agent σ δ τ}
    (hstart : Agent.start config world clock = .ok a) (moves : List (Move σ δ τ)) :
    let s := (start a).run moves
    ticket ∈ s.now.controller.acknowledged ↔ .barrier ticket ∈ s.handled := by
  intro s
  obtain ⟨handled, hhandled, hacknowledged⟩ := (start a).acknowledged_run moves
  have hstarted : (start a).now.controller.acknowledged = [] := by
    obtain ⟨roster, history, rfl⟩ := start_eq hstart
    rfl
  have hnothing : (start a).handled = [] := rfl
  rw [hstarted, List.nil_append] at hacknowledged
  rw [hnothing, List.nil_append] at hhandled
  rw [hacknowledged, hhandled, List.mem_filterMap]
  constructor
  · rintro ⟨message, hmem, hticket⟩
    exact Message.eq_of_barrier? hticket ▸ hmem
  · intro hmem
    exact ⟨_, hmem, rfl⟩

end finished

section going

/-- The controller handles nothing once it has come to a shutdown. -/
structure Going (s : Course σ δ τ) : Prop where
  served : s.now.isServed → ∀ e ∈ s.past, e.message ≠ .shutdown
  before : ∀ h past, (h :: past) <:+ s.past → ∀ e ∈ past, e.message ≠ .shutdown

namespace Going

theorem still (hs : s.Going) (hserved : s'.now.isServed → s.now.isServed) (hpast : s'.past = s.past) :
    s'.Going := by
  refine ⟨fun his => ?_, ?_⟩
  · rw [hpast]
    exact hs.served (hserved his)
  · rw [hpast]
    exact hs.before

variable [Subsystem σ δ τ]

theorem step (hs : s.Going) (h : s.Step move s') : s'.Going := by
  cases h with
  | idle => exact hs
  | aside haside => exact hs.still (haside.served ▸ id) rfl
  | submitted | givenUp | stopping => exact hs.still id rfl
  | @dispatched now hdispatch =>
    obtain ⟨new, hnew⟩ := hdispatch.gains
    have hserved : now.isServed = s.now.isServed := isServed_of_status (by rw [hnew])
    exact hs.still (hserved ▸ id) rfl
  | handled h hserved =>
    refine ⟨fun his e hmem => ?_, ?_⟩
    · rcases List.mem_cons.mp hmem with rfl | holder
      · intro hshutdown
        have hstopped : e.after.status = .stopped := by
          unfold Handled.after
          rw [hshutdown]
          rfl
        rcases ({ s.now with controller := e.after } : Agent σ δ τ).bury_cases with
          ⟨hrunning, -⟩ | ⟨hended, -⟩
        · cases (of_decide_eq_true hrunning : e.after.status = .running).symm.trans hstopped
        · cases hended.symm.trans his
      · exact hs.served hserved e holder
    · intro later past hsuffix
      rcases List.suffix_cons_iff.mp hsuffix with heq | holder
      · obtain ⟨rfl, rfl⟩ := List.cons.inj heq
        exact hs.served hserved
      · exact hs.before later past holder

end Going

variable [Subsystem σ δ τ]

theorem going (a : Agent σ δ τ) (moves : List (Move σ δ τ)) : ((start a).run moves).Going := by
  refine invariant Going (fun _ => True) (fun s move _ hs => hs.step (s.step_cases move))
    (fun _ _ => trivial) ⟨fun _ e hmem => ?_, fun h past hsuffix => ?_⟩
  · cases hmem
  · exact absurd (List.suffix_nil.mp hsuffix) (List.cons_ne_nil h past)

end going

/-- As long as only the end of the controller makes the stage cell invalid, a barrier comes behind the actions
of all calls up to the close that it stands for, and the release is the last of these. -/
structure Fenced (s : Course σ δ τ) : Prop where
  valid : s.now.isServed → s.now.controller.cell.invalid = false
  fences : ∀ earlier ticket, earlier ++ [.barrier ticket] <+: s.delivered →
    ∃ before after, s.now.dispatcher.accepted = before ++ .release ticket :: after ∧
      earlier.filterMap (·.action?) = (before ++ [.release ticket]).map Job.action

namespace Fenced

/-- No barrier comes in with messages that are none. -/
theorem barrier_before {earlier delivered new : List (Message δ τ)}
    (hnew : new.filterMap (·.barrier?) = [])
    (hbarrier : earlier ++ [.barrier ticket] <+: delivered ++ new) :
    earlier ++ [.barrier ticket] <+: delivered := by
  obtain ⟨rest, hrest⟩ := hbarrier
  rcases List.append_eq_append_iff.mp hrest with ⟨more, hdelivered, -⟩ | ⟨more, hearlier, hmore⟩
  · exact ⟨more, hdelivered.symm⟩
  · rcases List.eq_nil_or_concat' more with rfl | ⟨first, last, rfl⟩
    · rw [List.append_nil] at hearlier
      exact hearlier ▸ List.prefix_refl _
    · rw [← List.append_assoc] at hearlier
      obtain ⟨-, hlast⟩ := List.append_inj' hearlier rfl
      rw [hmore, ← hlast, List.filterMap_append, List.filterMap_append] at hnew
      cases (List.append_eq_nil_iff.mp (List.append_eq_nil_iff.mp hnew).1).2

theorem grows (hs : s.Fenced) (hvalid : s'.now.isServed → s'.now.controller.cell.invalid = false)
    (haccepted : s.now.dispatcher.accepted <+: s'.now.dispatcher.accepted)
    {new : List (Message δ τ)} (hdelivered : s'.delivered = s.delivered ++ new)
    (hnew : new.filterMap (·.barrier?) = []) : s'.Fenced := by
  refine ⟨hvalid, ?_⟩
  intro earlier ticket hbarrier
  rw [hdelivered] at hbarrier
  obtain ⟨before, after, hbefore, hactions⟩ := hs.fences earlier ticket (barrier_before hnew hbarrier)
  obtain ⟨more, hmore⟩ := haccepted
  refine ⟨before, after ++ more, ?_, hactions⟩
  rw [← hmore, hbefore, List.append_assoc]
  rfl

/-- When the dispatcher comes to post a barrier, the release has been delivered, after all that came before. -/
theorem posted (hordered : s.Ordered) (hserved : s.now.isServed)
    (hvalid : s.now.controller.cell.invalid = false) (hposted : s.now.releasing = .posted)
    (hjob : s.now.dispatcher.current? = some (.release ticket)) :
    ∃ before after, s.now.dispatcher.accepted = before ++ .release ticket :: after ∧
      s.delivered.filterMap (·.action?) = (before ++ [.release ticket]).map Job.action := by
  have hjobs := hordered.sound.jobs.whole (hordered.sound.unstopped hserved).running
  have hdispatched : s.now.dispatched =
      s.now.dispatcher.finished ++ s.now.dispatcher.current?.toList := by
    refine dispatched_posted ?_
    rw [hposted]
    exact Releasing.noConfusion
  rw [hjob] at hjobs hdispatched
  refine ⟨s.now.dispatcher.finished, s.now.dispatcher.pending, ?_, ?_⟩
  · rw [← hjobs, List.append_assoc]
    rfl
  · rw [← hordered.numbered.actions, hordered.numbered.complete hserved hvalid, List.zipIdx_map_fst,
      hdispatched]
    rfl

theorem dispatch (hs : s.Fenced) (hordered : s.Ordered) {now : Agent σ δ τ}
    (h : s.now.Dispatch now) (hvalid : now.isServed → now.controller.cell.invalid = false) :
    (s.dispatchTo now).Fenced := by
  have haccepted : (s.dispatchTo now).now.dispatcher.accepted = s.now.dispatcher.accepted := h.accepted
  have hdelivered {new : List (Message δ τ)}
      (hmailbox : now.controller.mailbox = s.now.controller.mailbox ++ new) :
      (s.dispatchTo now).delivered = s.delivered ++ new :=
    congrArg (s.delivered ++ ·) (joined_eq hmailbox)
  have hprefix : s.now.dispatcher.accepted <+: (s.dispatchTo now).now.dispatcher.accepted :=
    ⟨[], by rw [List.append_nil, haccepted]⟩
  cases h with
  | placed | taken | abandoned | released =>
    exact hs.grows hvalid hprefix (hdelivered (List.append_nil _).symm) rfl
  | posted | releasing =>
    refine hs.grows hvalid hprefix (hdelivered (by rw [deliver_eq])) ?_
    split_ifs <;> rfl
  | @barring current hjob hserved hposted =>
    have hmailbox : (s.now.deliver [.barrier current]).controller.mailbox =
        s.now.controller.mailbox ++ [.barrier current] := by
      rw [deliver_eq, if_pos hserved]
    refine ⟨hvalid, ?_⟩
    rw [hdelivered hmailbox, haccepted]
    intro earlier ticket hbarrier
    rcases List.prefix_concat_iff.mp hbarrier with hlast | hbefore
    · obtain ⟨rfl, hticket⟩ := List.append_inj' hlast rfl
      cases hticket
      exact posted hordered hserved (hs.valid hserved) hposted hjob
    · exact hs.fences earlier ticket hbefore

variable [Subsystem σ δ τ]

theorem valid_step (h : s.Step move s') (hmove : move.invalidates = false)
    (hvalid : s.now.isServed → s.now.controller.cell.invalid = false) :
    s'.now.isServed → s'.now.controller.cell.invalid = false := by
  cases h with
  | idle | submitted | givenUp => exact hvalid
  | aside haside hnew hstage hinvalid =>
    intro his
    have hwas := hvalid (haside.served.symm.trans his)
    rcases hinvalid with hsame | rfl
    · exact hsame.trans hwas
    · cases hmove
  | @dispatched now hdispatch =>
    obtain ⟨new, hnew⟩ := hdispatch.gains
    have hserved : now.isServed = s.now.isServed := isServed_of_status (by rw [hnew])
    have hcell : now.controller.cell = s.now.controller.cell := by rw [hnew]
    intro his
    show now.controller.cell.invalid = false
    rw [hcell]
    exact hvalid (hserved.symm.trans his)
  | handled h hserved hbefore =>
    rcases ({ s.now with controller := h.after } : Agent σ δ τ).bury_cases with
      ⟨-, hsame⟩ | ⟨hended, -⟩
    · intro _
      dsimp only
      rw [hsame]
      have hwas := hvalid hserved
      rw [hbefore] at hwas
      exact (Controller.handle_invalid h.before h.message).trans hwas
    · intro his
      cases hended.symm.trans his
  | stopping hended =>
    intro his
    cases hended.symm.trans his

theorem step (hs : s.Fenced) (hordered : s.Ordered) (hmove : move.invalidates = false) :
    (s.step move).Fenced := by
  have h := s.step_cases move
  have hvalid := valid_step h hmove hs.valid
  have haccepted : s.now.dispatcher.accepted <+: (s.step move).now.dispatcher.accepted := by
    obtain ⟨new, hnew, -⟩ := accepted_step h
    exact ⟨new, hnew.symm⟩
  generalize s.step move = s' at h hvalid haccepted
  cases h with
  | idle => exact hs
  | aside haside hnew hstage hinvalid hbarriers =>
    refine hs.grows hvalid haccepted (congrArg (s.delivered ++ ·) (joined_eq haside.mailbox)) ?_
    split_ifs
    · exact hbarriers
    · rfl
  | submitted | givenUp | stopping =>
    exact hs.grows hvalid haccepted (congrArg (s.delivered ++ ·) (joined_same rfl)) rfl
  | dispatched hdispatch => exact hs.dispatch hordered hdispatch hvalid
  | handled h hserved hbefore =>
    obtain ⟨events, hevents⟩ := Controller.handle_mailbox h.before h.message
    have hevents : h.after.mailbox = h.before.mailbox ++ events.map .hardware := hevents
    refine hs.grows hvalid haccepted rfl ?_
    rw [hevents, List.drop_left]
    exact Message.filterMap_barrier_hardware events

end Fenced

variable [Subsystem σ δ τ]

theorem fenced {config : Config} {world : σ} {clock : String} {a : Agent σ δ τ}
    (hstart : Agent.start config world clock = .ok a) {moves : List (Move σ δ τ)}
    (hmoves : ∀ move ∈ moves, move.invalidates = false) : ((start a).run moves).Fenced := by
  have hordered : (start a).Ordered := ordered hstart []
  have hboth := invariant (fun s => s.Ordered ∧ s.Fenced) (·.invalidates = false)
    (fun s move hmove hs => ⟨hs.1.step, hs.2.step hs.1 hmove⟩) hmoves ⟨hordered, ?_⟩
  · exact hboth.2
  · obtain ⟨roster, history, rfl⟩ := start_eq hstart
    refine ⟨fun _ => rfl, ?_⟩
    intro earlier ticket hbarrier
    exact absurd (List.prefix_nil.mp hbarrier) (List.append_ne_nil_of_right_ne_nil _
      (List.cons_ne_nil _ _))

/-- The controller came to the barrier of a close, `h`, when it had handled the actions of all calls that
were accepted before the close, then its release, `r`, and then nothing that anyone asked for. -/
structure Completed (s : Course σ δ τ) (ticket : Ticket) (h : Handled σ δ τ)
    (between : List (Handled σ δ τ)) (r : Handled σ δ τ) (older : List (Handled σ δ τ)) : Prop where
  past : (h :: (between ++ r :: older)) <:+ s.past
  barrier : h.message = .barrier ticket
  between : ∀ e ∈ between, e.message.action? = none
  release : r.message = .action .release
  calls : ∃ before after, s.now.dispatcher.accepted = before ++ .release ticket :: after ∧
    .release ticket ∉ before ++ after ∧
    older.reverse.filterMap (·.message.action?) = before.map Job.action

omit [Subsystem σ δ τ] in
theorem Completed.handled {h r : Handled σ δ τ} {between older : List (Handled σ δ τ)}
    (hs : s.Completed ticket h between r older) : .barrier ticket ∈ s.handled :=
  List.mem_map.mpr ⟨h, List.mem_reverse.mpr (hs.past.subset List.mem_cons_self), hs.barrier⟩

omit [Subsystem σ δ τ] in
theorem Fenced.completed (hs : s.Fenced) (hfiled : s.Filed)
    (hcalls : (s.now.dispatcher.accepted.filterMap Job.ticket?).Nodup)
    (hhandled : .barrier ticket ∈ s.handled) :
    ∃ h between r older, s.Completed ticket h between r older := by
  obtain ⟨h, hmem, hbarrier⟩ := List.mem_map.mp hhandled
  obtain ⟨newer, all, hpast⟩ := List.append_of_mem (List.mem_reverse.mp hmem)
  have hsuffix : (h :: all) <:+ s.past := ⟨newer, hpast.symm⟩
  have hdelivered := hfiled.delivered_before hsuffix
  rw [hbarrier] at hdelivered
  obtain ⟨before, after, haccepted, hactions⟩ := hs.fences _ ticket hdelivered
  -- The release is the last action before the barrier.
  have hlatest : all.filterMap (·.message.action?) = .release :: (before.map Job.action).reverse := by
    rw [List.filterMap_map, List.filterMap_reverse, List.map_append] at hactions
    have hreversed := congrArg List.reverse hactions
    rw [List.reverse_reverse, List.reverse_append] at hreversed
    exact hreversed
  obtain ⟨between, r, older, rfl, hbetween, hrelease, holder⟩ := List.filterMap_eq_cons_iff.mp hlatest
  refine ⟨h, between, r, older, hsuffix, hbarrier, hbetween, Message.eq_of_action? hrelease, before,
    after, haccepted, release_unique hcalls haccepted, ?_⟩
  rw [List.filterMap_reverse, holder, List.reverse_reverse]

/-- A close that returns without a timeout either was left to itself, because the controller had ended or
because it took too long, or its barrier was acknowledged. As long as nobody else makes the stage cell
invalid, it was if and only if the controller has come to the barrier having handled all that was accepted
before the close, its release, and no action since. If nobody else writes to the stage cell at all, no camera
was open at that moment if and only if none was taken up between the release and the barrier, and none was if
the release found a camera open. -/
theorem close_completed {config : Config} {world : σ} {clock : String} {a : Agent σ δ τ}
    (hstart : Agent.start config world clock = .ok a) (moves : List (Move σ δ τ))
    (hcalls : ((moves.filterMap (·.job?)).filterMap Job.ticket?).Nodup) (ticket : Ticket) :
    let s := (start a).run moves
    s.now.awaitRelease ticket = .ok () →
      (ticket ∉ s.now.controller.acknowledged → ∃ earlier move rest,
        moves = earlier ++ move :: rest ∧ ((start a).run earlier).Forsakes move ticket) ∧
      ((∀ move ∈ moves, move.invalidates = false) →
        (ticket ∈ s.now.controller.acknowledged ↔
          ∃ h between r older, s.Completed ticket h between r older)) ∧
      ((∀ move ∈ moves, move.meddles = false) →
        ∀ h between r older, s.Completed ticket h between r older →
          (h.before.stage = .unopened ↔ ∀ e ∈ between, e.adopts = false) ∧
          (r.before.stage ≠ .unopened → h.before.stage = .unopened)) := by
  intro s hok
  have hs : s.Ordered := ordered hstart moves
  refine ⟨?_, fun hmoves => ?_, fun hmoves h between r older hcompleted => ?_⟩
  · intro hnot
    rcases (start a).finished_run moves (awaitRelease_ok hok) with hbefore | hdone | hleft
    · obtain ⟨roster, history, rfl⟩ := start_eq hstart
      cases hbefore
    · exact absurd hdone hnot
    · exact hleft
  · have hnodup : (s.now.dispatcher.accepted.filterMap Job.ticket?).Nodup := by
      obtain ⟨new, hnew, hcalled⟩ := accepted_called (start a) moves
      rw [start_accepted hstart, List.nil_append] at hnew
      rw [hnew]
      exact (hcalled.filterMap Job.ticket?).nodup hcalls
    refine (mem_acknowledged hstart moves).trans
      ⟨(fenced hstart hmoves).completed hs.filed hnodup, ?_⟩
    rintro ⟨h, between, r, older, hcompleted⟩
    exact hcompleted.handled
  · obtain ⟨roster, historySize, steps, htraces⟩ := traced hstart hmoves
    have hpast : (h :: (between ++ r :: older)) <:+
        ((Run.start world roster historySize).run steps).past := htraces.past ▸ hcompleted.past
    have hthroughout := (Run.relinquished world roster historySize steps).2
    have hkept : ∀ e ∈ between, e.message.isRelease = false := by
      intro e hmem
      exact Message.isRelease_of_action? (hcompleted.between e hmem)
        ((going a moves).before h _ hcompleted.past e (List.mem_append_left _ hmem))
    refine ⟨Run.unopened_iff_unadopted hthroughout hpast hcompleted.release hkept, fun hopen => ?_⟩
    exact ((hthroughout h _ hpast).2 r between older rfl hcompleted.release hopen
      fun e hmem => Message.opening?_of_action? (hcompleted.between e hmem)).1

/-- A camera is opened and its settings are asked for, then it is closed. -/
def closingMoves : List (Move Simulator Simulator.Device Simulator.Session) :=
  [.submit (.post none (.openCamera 0 0)), .dispatch, .dispatch, .handle, .handle,
    .submit (.post none (.querySettings 6)), .submit (.release 7), .dispatch, .dispatch, .dispatch,
    .dispatch, .dispatch, .handle, .handle, .handle, .dispatch]

/-- Nothing takes the failure that the lock ends in, so the controller ends. Then the camera is closed. -/
def crashedMoves : List (Move Simulator Simulator.Device Simulator.Session) :=
  [.submit (.post none (.openCamera 0 0)), .submit (.post none .lock), .dispatch, .dispatch, .handle,
    .handle, .dispatch, .dispatch, .handle, .submit (.release 7), .dispatch, .dispatch]

/-- One close waits until its barrier is acknowledged, and one finds the controller gone. -/
theorem orderly_close_completed :
    Agent.start {} (Simulator.withDevices ["0"]) "" = .ok simulated ∧
    ((closingMoves.filterMap (·.job?)).filterMap Job.ticket?).Nodup ∧
    (∀ move ∈ closingMoves, move.invalidates = false) ∧
    (∀ move ∈ closingMoves, move.meddles = false) ∧
    (let s := (start simulated).run closingMoves
     s.now.awaitRelease 7 = .ok () ∧ 7 ∈ s.now.controller.acknowledged ∧
     ∃ h between r older, s.Completed 7 h between r older ∧ r.before.stage = .unconfigured ∧
      h.before.stage = .unopened ∧ ∀ e ∈ between, e.adopts = false) ∧
    ((crashedMoves.filterMap (·.job?)).filterMap Job.ticket?).Nodup ∧
    let s := (start simulated).run crashedMoves
    s.now.awaitRelease 7 = .ok () ∧ 7 ∉ s.now.controller.acknowledged ∧
      ∃ earlier move rest, crashedMoves = earlier ++ move :: rest ∧
        ((start simulated).run earlier).Forsakes move 7 := by
  have hstart : Agent.start {} (Simulator.withDevices ["0"]) "" = .ok simulated := rfl
  have hcalls : ((closingMoves.filterMap (·.job?)).filterMap Job.ticket?).Nodup := by decide
  have hvalid : ∀ move ∈ closingMoves, move.invalidates = false := by decide
  have hmoves : ∀ move ∈ closingMoves, move.meddles = false := by decide
  obtain ⟨-, hbarrier, hstage⟩ := close_completed hstart closingMoves hcalls 7 rfl
  have hcompleted : ((start simulated).run closingMoves).Completed 7 _ [] _ _ :=
    { past := List.suffix_refl _, barrier := rfl, between := List.forall_mem_nil _, release := rfl
      calls := ⟨[.post none (.openCamera 0 0), .post none (.querySettings 6)], [], rfl, by decide, rfl⟩ }
  have hacknowledged := (hbarrier hvalid).mpr ⟨_, _, _, _, hcompleted⟩
  obtain ⟨hunadopted, hunopened⟩ := hstage hmoves _ _ _ _ hcompleted
  have hclosed := hunopened (by decide)
  refine ⟨hstart, hcalls, hvalid, hmoves, ⟨rfl, hacknowledged, _, _, _, _, hcompleted, rfl, hclosed,
    hunadopted.mp hclosed⟩, ?_⟩
  have hcalls : ((crashedMoves.filterMap (·.job?)).filterMap Job.ticket?).Nodup := by decide
  have hunheard : 7 ∉ ((start simulated).run crashedMoves).now.controller.acknowledged := by decide
  exact ⟨hcalls, rfl, hunheard, (close_completed hstart crashedMoves hcalls 7 rfl).1 hunheard⟩

/-- The wait for the barrier is given up before the controller has handled anything. -/
def overdueMoves : List (Move Simulator Simulator.Device Simulator.Session) :=
  [.submit (.post none (.openCamera 0 0)), .submit (.release 7), .dispatch, .dispatch, .dispatch,
    .dispatch, .dispatch, .giveUp]

/-- The device comes between the release and the barrier. -/
def adoptingMoves : List (Move Simulator Simulator.Device Simulator.Session) :=
  [.submit (.post none (.openCamera 0 0)), .submit (.release 7), .dispatch, .dispatch, .dispatch,
    .dispatch, .handle, .dispatch, .handle, .handle, .handle, .dispatch]

/-- The stage cell is invalidated by a caller while a call waits for a stage. -/
def invalidatingMoves : List (Move Simulator Simulator.Device Simulator.Session) :=
  [.submit (.post (some (.atLeast .previewReady)) (.startPreview none)), .submit (.release 7), .dispatch,
    .invalidate, .dispatch, .dispatch, .dispatch, .dispatch, .handle, .handle, .dispatch]

/-- The stage is written by a caller between the release and the barrier. -/
def forcingMoves : List (Move Simulator Simulator.Device Simulator.Session) :=
  [.submit (.release 7), .dispatch, .dispatch, .dispatch, .handle, .force .configured, .handle, .dispatch]

/-- A close can return without its release, or a call before it, having been handled, and with a camera open
when its barrier is. -/
theorem close_not_completed :
    (let s := (start simulated).run crashedMoves
     s.now.awaitRelease 7 = .ok () ∧
       s.handled.filterMap (·.action?) = [.openCamera 0 0, .lock] ∧
       s.now.controller.stage = .unconfigured) ∧
    (let s := (start simulated).run overdueMoves
     s.now.awaitRelease 7 = .ok () ∧ s.handled = [] ∧ s.now.isServed) ∧
    (let s := (start simulated).run adoptingMoves
     s.now.awaitRelease 7 = .ok () ∧
       ∃ h past, s.past = h :: past ∧ h.message = .barrier 7 ∧ h.before.stage = .unconfigured) ∧
    (let s := (start simulated).run invalidatingMoves
     s.now.awaitRelease 7 = .ok () ∧ s.handled = [.action .release, .barrier 7] ∧
       s.now.dispatcher.accepted =
         [.post (some (.atLeast .previewReady)) (.startPreview none), .release 7]) ∧
    let s := (start simulated).run forcingMoves
    s.now.awaitRelease 7 = .ok () ∧
      ∃ h past, s.past = h :: past ∧ h.message = .barrier 7 ∧ h.before.stage = .configured :=
  ⟨⟨rfl, rfl, rfl⟩, ⟨rfl, rfl, rfl⟩, ⟨rfl, _, _, rfl, rfl, rfl⟩, ⟨rfl, rfl, rfl⟩,
    rfl, _, _, rfl, rfl, rfl⟩

end Course

end Agent

end CameraControl
