import CameraControl.Proofs.Release

/-!
Two runs in lockstep: one controller in two guises, to which the same things happen. The two tell the same,
but for a lens state that one of them may remember from before. The worst that comes of it is that a single
report is kept back: that a passive lens moves or has settled, which is not news to the one that remembers.
-/
namespace CameraControl

/-- A report that a passive lens moves or has settled. -/
def Reported.TellsOf (reported : Reported) (lens : Lens) : Prop :=
  lens.isPassive ∧ ∃ tag camera stage, reported = ⟨.moved tag (lens = .passiveScan) camera, stage⟩

/-- The first reports are the second ones, but for one that tells of the lens state, if there is any. -/
def AgreeButFor (lens? : Option Lens) (stale fresh : List Reported) : Prop :=
  stale = fresh ∨ ∃ (lens : Lens) (kept : Reported) (before after : List Reported),
    lens? = some lens ∧ kept.TellsOf lens ∧ stale = before ++ after ∧ fresh = before ++ kept :: after

namespace Controller

section
variable {σ σ' δ τ : Type}

/-- Under a guise that remembers the same lens state already, a frame is not news. -/
theorem onLens_under_same (g : Guise σ σ' δ τ) (c : Controller σ δ τ) {lens : Lens}
    (hlens : g.lens = some lens) (hlast : c.lastLens = none) :
    (c.under g).onLens lens = (c.onLens lens).under g ∨
      ∃ reported : Reported, reported.TellsOf lens ∧
        (c.under g).onLens lens = { c with lastLens := some lens }.under { g with lens := none } ∧
        c.onLens lens =
          { c with lastLens := some lens, reports := c.reports ++ [reported] } := by
  have hsame : (c.under g).lastLens = some lens := by
    show c.lastLens.or g.lens = some lens
    rw [hlast, hlens]
    rfl
  have hseen : { c.under g with lastLens := some lens } =
    ({ c with lastLens := some lens } : Controller σ δ τ).under g := rfl
  unfold onLens
  dsimp only
  rw [hseen, attached_under]
  simp only [hsame, hlast, ne_eq, not_true_eq_false, reduceCtorEq, not_false_eq_true, if_false, if_true]
  cases c.attached.camera with
  | none => exact Or.inl rfl
  | some camera =>
    dsimp only
    split_ifs with hpassive hlocked
    · cases hcallback : c.attached.moveCallback with
      | none => exact Or.inl rfl
      | some tag => exact Or.inr ⟨_, ⟨hpassive, tag, camera, c.stage, rfl⟩, rfl, rfl⟩
    · left
      rw [attach_under]
      exact reportTo_under g _ _ _
    · exact Or.inl rfl

/-- A frame is watched alike, unless it is news without the guise only. -/
theorem onLens_under_lens (g : Guise σ σ' δ τ) (c : Controller σ δ τ) (lens : Lens) :
    (c.under g).onLens lens = (c.onLens lens).under g ∨
      ∃ reported : Reported, g.lens = some lens ∧ reported.TellsOf lens ∧
        (c.under g).onLens lens = { c with lastLens := some lens }.under { g with lens := none } ∧
        c.onLens lens =
          { c with lastLens := some lens, reports := c.reports ++ [reported] } := by
  by_cases hlast : c.lastLens.or g.lens ≠ some lens ↔ c.lastLens ≠ some lens
  · exact Or.inl (onLens_under g c lens hlast)
  · obtain ⟨hnone, hlens⟩ : c.lastLens = none ∧ g.lens = some lens := by
      cases hseen : c.lastLens with
      | some seen => rw [hseen] at hlast; exact absurd Iff.rfl hlast
      | none =>
        rw [hseen, Option.none_or] at hlast
        simpa using hlast
    exact (onLens_under_same g c hlens hnone).imp_right fun ⟨reported, htells⟩ =>
      ⟨reported, hlens, htells⟩

variable [Subsystem σ δ τ] [Subsystem σ' δ τ] {g : Guise σ σ' δ τ}

theorem release_under_lens (hg : g.Faithful) (c : Controller σ δ τ) :
    ∃ lens, (lens = none ∨ lens = g.lens) ∧ (c.under g).release = c.release.under { g with lens } := by
  by_cases hstage : c.stage = .unopened
  · refine ⟨g.lens, Or.inr rfl, ?_⟩
    rw [release_unopened hstage, release_unopened (c := c.under g) hstage]
    exact reject_under g c
  · exact ⟨none, Or.inl rfl, release_under_opened hg c hstage⟩

/-- Whatever lens state a guise remembers, the most that it can do is to keep one report back. -/
theorem handle_under_lens (hg : g.Faithful) (c : Controller σ δ τ) (message : Message δ τ) :
    (∃ lens, (lens = none ∨ lens = g.lens) ∧
      (c.under g).handle message = (c.handle message).under { g with lens }) ∨
    ∃ (lens : Lens) (reported : Reported) (d : Controller σ δ τ),
      g.lens = some lens ∧ reported.TellsOf lens ∧
      (c.under g).handle message = d.under { g with lens := none } ∧
      c.handle message = { d with reports := d.reports ++ [reported] } := by
  by_cases hheeds : message.heedsLens = false
  · exact Or.inl ⟨g.lens, Or.inr rfl, handle_under hg c (Or.inr hheeds)⟩
  cases message with
  | barrier ticket => exact absurd rfl hheeds
  | action action =>
    have hrelease : action = .release := by
      cases action <;> first | rfl | exact absurd rfl hheeds
    rw [hrelease]
    exact Or.inl (release_under_lens hg (c.record .release))
  | shutdown =>
    left
    show ∃ lens, _ ∧ (c.under g).shutDown = c.shutDown.under { g with lens }
    unfold shutDown
    rw [stage_under]
    by_cases hstage : c.stage = .unopened
    · simp only [hstage, if_true]
      exact ⟨g.lens, Or.inr rfl, rfl⟩
    · obtain ⟨lens, hlens, hrelease⟩ := release_under_lens hg c
      simp only [hstage, if_false, hrelease]
      exact ⟨lens, hlens, rfl⟩
  | hardware event =>
    cases event with
    | completed listener frame lens =>
      obtain ⟨rfl, lens, rfl⟩ : listener = .lensState ∧ ∃ seen, lens = some seen := by
        cases listener <;> cases lens <;> first | exact ⟨rfl, _, rfl⟩ | exact absurd rfl hheeds
      rcases onLens_under_lens g c.countEvent lens with
        hsame | ⟨reported, hlens, htells, hstale, hfresh⟩
      · exact Or.inl ⟨g.lens, Or.inr rfl, hsame⟩
      · exact Or.inr ⟨lens, reported, { c.countEvent with lastLens := some lens }, hlens, htells,
          hstale, hfresh⟩
    | _ => exact absurd rfl hheeds

end

variable {ε σ σ' δ τ : Type} [Spontaneous ε σ δ τ]

theorem meanwhile_under [Spontaneous ε σ' δ τ] {g : Guise σ σ' δ τ} (c : Controller σ δ τ)
    (hstir : ∀ (s : σ) (stimulus : ε), Spontaneous.stir (g.world s) stimulus =
      (Spontaneous.stir s stimulus).map g.world id) (move : Run.Move ε) :
    (c.under g).meanwhile move = (c.meanwhile move).under g := by
  cases move with
  | ask action => exact post_under g c _
  | barrier ticket => exact post_under g c _
  | shutdown => exact post_under g c _
  | stir stimulus =>
    have hworld : Spontaneous.stir (c.under g).subsystem stimulus =
      (Spontaneous.stir c.subsystem stimulus).map g.world id := hstir c.subsystem stimulus
    show postAll { c.under g with subsystem := (Spontaneous.stir (c.under g).subsystem stimulus).1 }
      (Spontaneous.stir (c.under g).subsystem stimulus).2 = _
    rw [hworld]
    exact postAll_under g { c with subsystem := (Spontaneous.stir c.subsystem stimulus).1 } _
  | _ => rfl

variable [Subsystem σ δ τ] {c : Controller σ δ τ}

/-- What a move makes of a controller, leaving the past out. -/
def proceed (c : Controller σ δ τ) : Run.Move ε → Controller σ δ τ
  | .handle => (c.step?.map (·.2)).getD c
  | move => c.meanwhile move

theorem proceed_cons {message : Message δ τ} {rest : List (Message δ τ)}
    (hstatus : c.status = .running) (hmailbox : c.mailbox = message :: rest) :
    c.proceed (.handle : Run.Move ε) = { c with mailbox := rest }.handle message := by
  simp only [proceed, step?, hstatus, hmailbox, Option.map_some, Option.getD_some]

theorem proceed_meanwhile {move : Run.Move ε} (hmove : move ≠ .handle) :
    c.proceed move = c.meanwhile move := by
  cases move <;> first | rfl | exact absurd rfl hmove

theorem proceed_idle (hidle : c.status ≠ .running ∨ c.mailbox = []) :
    c.proceed (.handle : Run.Move ε) = c := by
  have hnone : c.step? = none := by
    unfold step?
    split
    · next hstatus hmailbox => simp [hstatus, hmailbox] at hidle
    · rfl
  simp only [proceed, hnone, Option.map_none, Option.getD_none]

end Controller

theorem Run.run_now {ε σ δ τ : Type} [Subsystem σ δ τ] [Spontaneous ε σ δ τ] (r : Run σ δ τ)
    (moves : List (Move ε)) : (r.run moves).now = moves.foldl Controller.proceed r.now := by
  induction moves generalizing r with
  | nil => rfl
  | cons move moves ih =>
    have hstep : (r.step move).now = r.now.proceed move := by
      cases move with
      | handle =>
        show r.advance.now = (r.now.step?.map (·.2)).getD r.now
        unfold advance
        cases r.now.step? <;> rfl
      | _ => rfl
    show ((r.step move).run moves).now = _
    rw [ih, hstep]
    rfl

/-- The subsystem behind the guise also stirs as the one before it, and nothing waits in the mailbox. -/
structure Guise.Seamless (ε : Type) {σ σ' δ τ : Type} [Subsystem σ δ τ] [Subsystem σ' δ τ]
    [Spontaneous ε σ δ τ] [Spontaneous ε σ' δ τ] (g : Guise σ σ' δ τ) : Prop extends g.Faithful where
  stir : ∀ (s : σ) (stimulus : ε), Spontaneous.stir (g.world s) stimulus =
    (Spontaneous.stir s stimulus).map g.world id
  mailbox : g.mailbox = []

section

variable (ε : Type) {σ σ' δ τ : Type} [Subsystem σ δ τ] [Subsystem σ' δ τ] [Spontaneous ε σ δ τ]
  [Spontaneous ε σ' δ τ]

/-- Two guises of one controller, of which the first may remember a lens state from before, or have kept
back one report of it. -/
structure Guise.Apart (lens? : Option Lens) (g g' : Guise σ σ' δ τ) : Prop where
  seamless : g.Seamless ε
  seamless' : g'.Seamless ε
  lens' : g'.lens = none
  reports : (g.reports = g'.reports ∧ (g.lens = none ∨ g.lens = lens?)) ∨
    (g.lens = none ∧ ∃ (lens : Lens) (kept : Reported), lens? = some lens ∧ kept.TellsOf lens ∧
      g'.reports = g.reports ++ [kept])

variable {ε} {lens? : Option Lens} {g g' : Guise σ σ' δ τ}

namespace Guise

/-- Only the subsystem behind the guise and what waits in the mailbox matter. -/
theorem Seamless.of_world {h : Guise σ σ' δ τ} (hg : g.Seamless ε) (hworld : h.world = g.world)
    (hmailbox : h.mailbox = []) : h.Seamless ε where
  characteristics := hworld ▸ hg.characteristics
  idOf := hg.idOf
  draft := hworld ▸ hg.draft
  answer := hworld ▸ hg.answer
  stir := hworld ▸ hg.stir
  mailbox := hmailbox

theorem Seamless.proceed_handle (hg : g.Seamless ε) {c : Controller σ δ τ} {message : Message δ τ}
    {rest : List (Message δ τ)} (hstatus : c.status = .running) (hmailbox : c.mailbox = message :: rest) :
    (c.under g).proceed (.handle : Run.Move ε) = ({ c with mailbox := rest }.under g).handle message := by
  have hqueue : (c.under g).mailbox = message :: rest := by
    show g.mailbox ++ c.mailbox = _
    rw [hg.mailbox, hmailbox, List.nil_append]
  have hpopped : { c.under g with mailbox := rest } =
      ({ c with mailbox := rest } : Controller σ δ τ).under g := by
    unfold Controller.under
    rw [hg.mailbox]
    rfl
  rw [Controller.proceed_cons (c := c.under g) hstatus hqueue, hpopped]

theorem Apart.handle (h : g.Apart ε lens? g') (c : Controller σ δ τ) (message : Message δ τ) :
    ∃ (d : Controller σ δ τ) (e e' : Guise σ σ' δ τ), e.Apart ε lens? e' ∧
      (c.under g).handle message = d.under e ∧ (c.under g').handle message = d.under e' := by
  have hfresh : (c.under g').handle message = (c.handle message).under g' :=
    Controller.handle_under h.seamless'.toFaithful c (Or.inl h.lens')
  rcases Controller.handle_under_lens h.seamless.toFaithful c message with
    ⟨lens, hlens, hstale⟩ | ⟨lens, kept, d, hlens, htells, hstale, htold⟩
  · refine ⟨c.handle message, { g with lens }, g', ?_, hstale, hfresh⟩
    refine ⟨h.seamless.of_world rfl h.seamless.mailbox, h.seamless', h.lens', ?_⟩
    rcases h.reports with ⟨hsame, hremembered⟩ | ⟨hnone, hkept⟩
    · exact Or.inl ⟨hsame, hlens.elim Or.inl fun hkeeps => hkeeps ▸ hremembered⟩
    · exact Or.inr ⟨hlens.elim id fun hkeeps => hkeeps.trans hnone, hkept⟩
  · have hreports : g.reports = g'.reports ∧ lens? = some lens := by
      rcases h.reports with ⟨hsame, hnone | hremembered⟩ | ⟨hnone, -⟩
      · rw [hnone] at hlens; cases hlens
      · exact ⟨hsame, hremembered ▸ hlens⟩
      · rw [hnone] at hlens; cases hlens
    obtain ⟨hsame, hremembered⟩ := hreports
    -- From here on the guises have the reports that were made before.
    refine ⟨{ d with reports := [] }, { g with lens := none, reports := g.reports ++ d.reports },
      { g' with reports := g'.reports ++ (d.reports ++ [kept]) }, ?_, ?_, ?_⟩
    · refine ⟨h.seamless.of_world rfl h.seamless.mailbox, h.seamless'.of_world rfl h.seamless'.mailbox,
        h.lens', Or.inr ⟨rfl, lens, kept, hremembered, htells, ?_⟩⟩
      show g'.reports ++ (d.reports ++ [kept]) = g.reports ++ d.reports ++ [kept]
      rw [hsame, List.append_assoc]
    · rw [hstale]
      unfold Controller.under
      simp only [List.append_nil]
    · rw [hfresh, htold]
      unfold Controller.under
      simp only [List.append_nil]

theorem Apart.proceed (h : g.Apart ε lens? g') (c : Controller σ δ τ) (move : Run.Move ε) :
    ∃ (d : Controller σ δ τ) (e e' : Guise σ σ' δ τ), e.Apart ε lens? e' ∧
      (c.under g).proceed move = d.under e ∧ (c.under g').proceed move = d.under e' := by
  by_cases hhandle : move = .handle
  · rw [hhandle]
    by_cases hidle : c.status ≠ .running ∨ c.mailbox = []
    · have hstays {e : Guise σ σ' δ τ} (he : e.Seamless ε) :
          (c.under e).proceed (.handle : Run.Move ε) = c.under e := by
        refine Controller.proceed_idle (hidle.imp_right fun hempty => ?_)
        show e.mailbox ++ c.mailbox = []
        rw [he.mailbox, hempty]
        rfl
      exact ⟨c, g, g', h, hstays h.seamless, hstays h.seamless'⟩
    · obtain ⟨hstatus, hmailbox⟩ := not_or.mp hidle
      obtain ⟨message, rest, hmailbox⟩ := List.exists_cons_of_ne_nil hmailbox
      rw [h.seamless.proceed_handle (not_not.mp hstatus) hmailbox,
        h.seamless'.proceed_handle (not_not.mp hstatus) hmailbox]
      exact h.handle _ message
  · rw [Controller.proceed_meanwhile hhandle, Controller.proceed_meanwhile hhandle]
    exact ⟨c.meanwhile move, g, g', h, Controller.meanwhile_under c h.seamless.stir move,
      Controller.meanwhile_under c h.seamless'.stir move⟩

/-- Whatever happens to both, they stay apart by one report at most. -/
theorem Apart.reports_agree (h : g.Apart ε lens? g') (c : Controller σ δ τ)
    (moves : List (Run.Move ε)) :
    AgreeButFor lens? (moves.foldl Controller.proceed (c.under g)).reports
      (moves.foldl Controller.proceed (c.under g')).reports := by
  induction moves generalizing c g g' with
  | nil =>
    rcases h.reports with ⟨hsame, -⟩ | ⟨-, lens, kept, hlens, htells, hkept⟩
    · exact Or.inl (congrArg (· ++ c.reports) hsame)
    · refine Or.inr ⟨lens, kept, g.reports, c.reports, hlens, htells, rfl, ?_⟩
      show g'.reports ++ c.reports = _
      rw [hkept, List.append_assoc]
      rfl
  | cons move moves ih =>
    obtain ⟨d, e, e', hapart, hstale, hfresh⟩ := h.proceed c move
    rw [List.foldl_cons, List.foldl_cons, hstale, hfresh]
    exact ih hapart d

end Guise

end

end CameraControl
