import Mathlib.Tactic.ByContra
import CameraControl.Proofs.Courses

/-!
How the two threads of an agent stand to each other. As long as the controller is there the dispatcher has
not been stopped, and a release that waits for its barrier waits for something that will come. What the
dispatcher does never touches more of the controller than its mailbox.
-/
namespace CameraControl.Agent

variable {σ δ τ : Type}

/-- How the threads of an agent stand to each other. -/
structure Sound (a : Agent σ δ τ) : Prop where
  jobs : a.dispatcher.InOrder
  unstopped : a.isServed → a.dispatcher.Unstopped
  release : a.releasing ≠ .unposted → ∃ ticket, a.dispatcher.current? = some (.release ticket)
  barrier : a.isServed → a.releasing = .awaiting →
    ∀ ticket, a.dispatcher.current? = some (.release ticket) →
      ticket ∈ a.controller.acknowledged ∨ .barrier ticket ∈ a.controller.mailbox

namespace Sound

variable {a a' : Agent σ δ τ}

theorem aside {new : List (Message δ τ)} (ha : a.Sound) (h : a.Aside new a') : a'.Sound := by
  constructor
  · rw [h.dispatcher]
    exact ha.jobs
  · rw [h.dispatcher, h.served]
    exact ha.unstopped
  · rw [h.dispatcher, h.releasing]
    exact ha.release
  · rw [h.dispatcher, h.releasing, h.served, h.acknowledged, h.mailbox]
    intro hserved hawaiting ticket hjob
    rcases ha.barrier hserved hawaiting ticket hjob with hdone | hqueued
    · exact Or.inl hdone
    · exact Or.inr (List.mem_append_left _ hqueued)

/-- No release is on its way once the running job has ended. -/
theorem finished (ha : a.Sound) (hfinish : a.dispatcher.finish? = some a'.dispatcher)
    (hserved : a'.isServed = a.isServed) (hreleasing : a'.releasing = .unposted) : a'.Sound := by
  constructor
  · exact ha.jobs.finish hfinish
  · rw [hserved]
    intro hwas
    exact (ha.unstopped hwas).finish hfinish
  · intro hposted
    exact absurd hreleasing hposted
  · intro _ hawaiting
    rw [hreleasing] at hawaiting
    cases hawaiting

/-- A worker that takes a job has no release on its way. -/
theorem idle_unposted (ha : a.Sound) {d : Dispatcher Job} (htake : a.dispatcher.take? = some d) :
    a.releasing = .unposted := by
  by_contra hposted
  obtain ⟨ticket, hjob⟩ := ha.release hposted
  rw [Dispatcher.current?_idle (Dispatcher.take?_cases htake).1] at hjob
  cases hjob

theorem deliver_served (a : Agent σ δ τ) (messages : List (Message δ τ)) :
    (a.deliver messages).isServed = a.isServed := by
  rw [deliver_eq]
  rfl

theorem dispatch (ha : a.Sound) (h : a.Dispatch a') : a'.Sound := by
  cases h with
  | placed hplace =>
    refine ⟨ha.jobs.place hplace, ?_, ?_, ?_⟩
    · intro hserved
      rw [(ha.unstopped hserved).place] at hplace
      cases hplace
    · obtain rfl := Dispatcher.place?_eq hplace
      exact ha.release
    · obtain rfl := Dispatcher.place?_eq hplace
      exact ha.barrier
  | taken htake =>
    have hunposted := ha.idle_unposted htake
    refine ⟨ha.jobs.take htake, fun hserved => (ha.unstopped hserved).take htake, ?_, ?_⟩
    · intro hposted
      exact absurd hunposted hposted
    · intro _ hawaiting
      cases hunposted.symm.trans hawaiting
  | posted hjob hreached hfinish => exact ha.finished hfinish (deliver_served a _) rfl
  | abandoned hjob hinvalid hfinish => exact ha.finished hfinish rfl rfl
  | released hjob hover hfinish => exact ha.finished hfinish rfl rfl
  | releasing hjob hserved hunposted =>
    rw [deliver_eq]
    refine ⟨ha.jobs, ha.unstopped, fun _ => ⟨_, hjob⟩, ?_⟩
    intro _ hawaiting
    cases hawaiting
  | barring hjob hserved hposted =>
    rw [deliver_eq, if_pos hserved]
    refine ⟨ha.jobs, ha.unstopped, fun _ => ⟨_, hjob⟩, ?_⟩
    intro _ _ ticket hsame
    cases hjob.symm.trans hsame
    exact Or.inr (List.mem_append_right _ (List.mem_singleton_self _))

variable [Subsystem σ δ τ]

theorem buried (ha : a.Sound) {h : Handled σ δ τ} {past : List (Handled σ δ τ)}
    (hserved : a.isServed) (hbefore : a.controller = (Run.before h past).now) :
    ({ a with controller := h.after }.bury).Sound := by
  unfold bury
  split_ifs with his
  · refine ⟨ha.jobs, fun _ => ha.unstopped hserved, ha.release, ?_⟩
    intro _ hawaiting ticket hjob
    have hqueued := ha.barrier hserved hawaiting ticket hjob
    obtain ⟨events, hevents⟩ := Controller.handle_mailbox h.before h.message
    have hacknowledged := Controller.handle_acknowledged h.before h.message
    show ticket ∈ h.after.acknowledged ∨ .barrier ticket ∈ h.after.mailbox
    unfold Handled.after
    rw [hevents, hacknowledged]
    rw [hbefore] at hqueued
    rcases hqueued with hdone | hqueued
    · exact Or.inl (List.mem_append_left _ hdone)
    · rcases List.mem_cons.mp hqueued with hnext | hlater
      · left
        rw [← hnext]
        exact List.mem_append_right _ (List.mem_singleton_self _)
      · exact Or.inr (List.mem_append_left _ hlater)
  · exact ⟨ha.jobs, fun h => absurd h his, ha.release, fun h => absurd h his⟩

theorem step {s s' : Course σ δ τ} {move : Move σ δ τ} (h : s.Step move s') (hs : s.now.Sound) :
    s'.now.Sound := by
  cases h with
  | idle => exact hs
  | aside haside => exact hs.aside haside
  | submitted hsubmit =>
    obtain ⟨-, heq⟩ := Dispatcher.submit_eq hsubmit
    refine ⟨hs.jobs.submit hsubmit, fun hserved => (hs.unstopped hserved).submit hsubmit, ?_, ?_⟩
    · rw [heq]
      exact hs.release
    · rw [heq]
      exact hs.barrier
  | handled h hserved hbefore => exact hs.buried hserved hbefore
  | dispatched hdispatch => exact hs.dispatch hdispatch
  | givenUp hawaiting hfinish => exact hs.finished hfinish rfl rfl
  | stopping hserved =>
    have hended : s.now.isServed = true → False := by
      rw [hserved]
      exact Bool.false_ne_true
    refine ⟨hs.jobs.claim .outside, fun h => absurd h hended, ?_, fun h => absurd h hended⟩
    obtain ⟨marker, heq⟩ := s.now.dispatcher.claim_eq .outside
    show s.now.releasing ≠ .unposted → ∃ ticket, (s.now.dispatcher.claim .outside).current? = _
    rw [heq]
    exact hs.release

end Sound

section dispatched

variable {a : Agent σ δ τ}

theorem dispatched_unposted (hunposted : a.releasing = .unposted) :
    a.dispatched = a.dispatcher.finished := by
  unfold dispatched
  rw [if_pos hunposted, List.append_nil]

theorem dispatched_posted (hposted : a.releasing ≠ .unposted) :
    a.dispatched = a.dispatcher.finished ++ a.dispatcher.current?.toList := by
  unfold dispatched
  rw [if_neg hposted]

theorem dispatched_prefix (a : Agent σ δ τ) :
    a.dispatched <+: a.dispatcher.finished ++ a.dispatcher.current?.toList := by
  by_cases hunposted : a.releasing = .unposted
  · rw [dispatched_unposted hunposted]
    exact List.prefix_append _ _
  · exact dispatched_posted hunposted ▸ List.prefix_refl _

theorem dispatched_same {a' : Agent σ δ τ} (hfinished : a'.dispatcher.finished = a.dispatcher.finished)
    (hcurrent : a'.dispatcher.current? = a.dispatcher.current?)
    (hreleasing : a'.releasing = a.releasing) : a'.dispatched = a.dispatched := by
  unfold dispatched
  rw [hfinished, hcurrent, hreleasing]

/-- The job that ends is the one that ran. -/
theorem dispatched_finish {a' : Agent σ δ τ} {job : Job} (hjob : a.dispatcher.current? = some job)
    (hfinish : a.dispatcher.finish? = some a'.dispatcher) (hunposted : a'.releasing = .unposted) :
    a'.dispatched = a.dispatcher.finished ++ [job] := by
  obtain ⟨job', hjob', heq⟩ := Dispatcher.finish?_eq hfinish
  cases hjob.symm.trans hjob'
  rw [dispatched_unposted hunposted, heq]

/-- A job that only posts leaves no release on its way. -/
theorem Sound.post_unposted (ha : a.Sound) {wanted : Option Stage.Set} {action : Action}
    (hjob : a.dispatcher.current? = some (.post wanted action)) : a.releasing = .unposted := by
  by_contra hposted
  obtain ⟨ticket, hrelease⟩ := ha.release hposted
  cases hjob.symm.trans hrelease

end dispatched

/-- The dispatcher does no more to the controller than to put messages into its mailbox. -/
theorem Dispatch.gains {a a' : Agent σ δ τ} (h : a.Dispatch a') : ∃ new : List (Message δ τ),
    a'.controller = { a.controller with
      mailbox := a.controller.mailbox ++ if a.isServed then new else [] } := by
  have hnone : a.controller = { a.controller with
      mailbox := a.controller.mailbox ++ if a.isServed then [] else [] } := by
    rw [ite_self, List.append_nil]
  cases h with
  | placed | taken | abandoned | released => exact ⟨[], hnone⟩
  | posted | releasing | barring =>
    rw [deliver_eq]
    exact ⟨_, rfl⟩

theorem Dispatch.accepted {a a' : Agent σ δ τ} (h : a.Dispatch a') :
    a'.dispatcher.accepted = a.dispatcher.accepted := by
  have hfinished {d : Dispatcher Job} (hfinish : a.dispatcher.finish? = some d) :
      d.accepted = a.dispatcher.accepted := by
    obtain ⟨job, -, rfl⟩ := Dispatcher.finish?_eq hfinish
    rfl
  cases h with
  | placed hplace =>
    obtain rfl := Dispatcher.place?_eq hplace
    rfl
  | taken htake =>
    obtain ⟨-, ⟨job, rest, -, rfl⟩ | ⟨rest, -, rfl⟩⟩ := Dispatcher.take?_cases htake <;> rfl
  | posted _ _ hfinish | abandoned _ _ hfinish | released _ _ hfinish => exact hfinished hfinish
  | releasing | barring =>
    rw [deliver_eq]

end CameraControl.Agent
